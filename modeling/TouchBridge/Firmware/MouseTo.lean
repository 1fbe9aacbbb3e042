import TouchBridge.Serial.Decimal
/-!
# `BLEMouseTo`: the GOTO-dialect firmware's stepping positioner

`esp/main.ino` keeps the position it believes the cursor is at and walks it
toward a target in relative moves. One call of `move()` steps at most
`maxJumpDistance` along each axis (`jump`) and returns `true` once both axes
are within 2 of the target; `moveTo` and `quickMoveTo` call it until it
does (`moveLoop`).

Every `int` operation of `move()` goes through `CInt.checked`, so a call
whose arithmetic overflows is `none`. The first of them, `targetX - currentX`
and its `abs`, overflow when the tracked position is more than `INT_MAX`
from the target, which `CALIBRATE` followed by `GOTO` sets up
(`move_after_far_calibrate`). While both distances fit (`Fits`), nothing
overflows and the walk converges (`moveLoop_converges`): within
`⌈max(|Δx|, |Δy|) / m⌉ + 1` calls, every report in `[-m, m]`, never past the
target (`Walk`), ending within 2 of it. The step lemma is `move_far`, built
on the per-axis facts of `jump_spec`.

`correctionFactor` is left at its initial `1.0`, at which
`(int)(moveX * correctionFactor)` is `moveX` for every step of at most 127:
the model has no `move()` for another factor.
-/

namespace TouchBridge

namespace Firmware

/-- Arduino's **`constrain(amt, low, high)`**. -/
def constrain (amt low high : Int) : Int :=
  if amt < low then low else if amt > high then high else amt

/-- `constrain` returns one of its three arguments. -/
theorem constrain_cases (amt low high : Int) :
    constrain amt low high = low ∨ constrain amt low high = high ∨
      constrain amt low high = amt := by
  unfold constrain
  split_ifs <;> simp

/-- It leaves a value of the range alone. -/
theorem constrain_of_mem {amt low high : Int} (h₁ : low ≤ amt) (h₂ : amt ≤ high) :
    constrain amt low high = amt := by
  unfold constrain
  split_ifs <;> omega

/-- `constrain` of three `int`s, an `int`. -/
def constrainInt (amt low high : CInt) : CInt where
  val := constrain amt.val low.val high.val
  min_le := by
    rcases constrain_cases amt.val low.val high.val with h | h | h <;> rw [h] <;> exact CInt.min_le _
  le_max := by
    rcases constrain_cases amt.val low.val high.val with h | h | h <;> rw [h] <;> exact CInt.le_max _

/-- **The members of `BLEMouseTo`**, with their initial values. -/
structure BLEMouseTo where
  currentX : CInt := 0
  currentY : CInt := 0
  targetX : CInt := 0
  targetY : CInt := 0
  screenWidth : CInt := ⟨390, by decide, by decide⟩
  screenHeight : CInt := ⟨844, by decide, by decide⟩
  isHomed : Bool := false
  /-- It starts at 50, and `setMaxJumpDistance` constrains it to `[1, 127]`. -/
  maxJumpDistance : Int := 50
  jump_pos : 1 ≤ maxJumpDistance := by decide
  jump_le : maxJumpDistance ≤ 127 := by decide
deriving DecidableEq

namespace BLEMouseTo

/-- **`setScreenResolution(width, height)`**. -/
def setScreenResolution (m : BLEMouseTo) (width height : CInt) : BLEMouseTo :=
  { m with screenWidth := width, screenHeight := height }

/-- **`setTarget(x, y)`**: the target, constrained to the screen. -/
def setTarget (m : BLEMouseTo) (x y : CInt) : BLEMouseTo :=
  { m with targetX := constrainInt x 0 m.screenWidth, targetY := constrainInt y 0 m.screenHeight }

/-- **`setMaxJumpDistance(distance)`**. -/
def setMaxJumpDistance (m : BLEMouseTo) (distance : Int) : BLEMouseTo :=
  { m with
    maxJumpDistance := constrain distance 1 127
    jump_pos := by unfold constrain; split_ifs <;> omega
    jump_le := by unfold constrain; split_ifs <;> omega }

/-- **`setCurrentPosition(x, y)`**: manual calibration, which counts as
homing. -/
def setCurrentPosition (m : BLEMouseTo) (x y : CInt) : BLEMouseTo :=
  { m with currentX := x, currentY := y, isHomed := true }

/-- **`home()`**, while `bleMouse.isConnected()` is `connected`: twenty moves
of `(-127, -127)` into the top-left corner, which is then `(0, 0)`. The state
after, and the reports sent. -/
def home (m : BLEMouseTo) (connected : Bool) : BLEMouseTo × List (Int × Int) :=
  if connected then
    ({ m with currentX := 0, currentY := 0, isHomed := true }, List.replicate 20 (-127, -127))
  else (m, [])

/-- The step `move()` takes along one axis: the distance to the target, cut
to `maxJumpDistance` either way. -/
def jump (maxJumpDistance delta : Int) : Int :=
  if (delta.natAbs : Int) > maxJumpDistance then
    (if delta > 0 then maxJumpDistance else -maxJumpDistance)
  else delta

/-- **`move()`**, while `bleMouse.isConnected()` is `connected`: whether it
returns `true`, the state after, and the reports `bleMouse.move` sent; `none`
when one of its `int` operations overflows. Unhomed, it homes and returns
`false`; within 2 of the target on both axes, `true`; otherwise it sends one
jump on each axis, constrained to the HID range, and tracks it. -/
def move (m : BLEMouseTo) (connected : Bool) : Option (Bool × BLEMouseTo × List (Int × Int)) :=
  if !connected then some (false, m, [])
  else if !m.isHomed then some (false, (m.home connected).1, (m.home connected).2)
  else do
    let deltaX ← CInt.checked (m.targetX.val - m.currentX.val)
    let deltaY ← CInt.checked (m.targetY.val - m.currentY.val)
    let absX ← CInt.checked deltaX.val.natAbs
    let absY ← CInt.checked deltaY.val.natAbs
    if absX.val ≤ 2 ∧ absY.val ≤ 2 then some (true, m, [])
    else
      let moveX := constrain (jump m.maxJumpDistance deltaX.val) (-127) 127
      let moveY := constrain (jump m.maxJumpDistance deltaY.val) (-127) 127
      if moveX ≠ 0 ∨ moveY ≠ 0 then do
        let x ← CInt.checked (m.currentX.val + moveX)
        let y ← CInt.checked (m.currentY.val + moveY)
        some (false, { m with currentX := x, currentY := y }, [(moveX, moveY)])
      else some (false, m, [])

/-- Calls of `move()` until one returns `true`, at most `tries` of them:
whether one did, the state after, and the reports sent; `none` if a call
overflowed. -/
def moveLoop (connected : Bool) : Nat → BLEMouseTo → Option (Bool × BLEMouseTo × List (Int × Int))
  | 0, m => some (false, m, [])
  | tries + 1, m => do
    let (reached, m', sent) ← m.move connected
    if reached then some (true, m', sent)
    else do
      let (r, m'', rest) ← moveLoop connected tries m'
      some (r, m'', sent ++ rest)

/-- **`quickMoveTo(x, y)`**: at most 100 calls of `move()`. -/
def quickMoveTo (m : BLEMouseTo) (connected : Bool) (x y : CInt) :
    Option (Bool × BLEMouseTo × List (Int × Int)) :=
  moveLoop connected 100 (m.setTarget x y)

/-- **`moveTo(x, y)`**: calls of `move()` until it returns `true` or ten
seconds have passed, one call and then `tries` more, as many as the 50 ms
pauses between them let fit. -/
def moveTo (m : BLEMouseTo) (connected : Bool) (tries : Nat) (x y : CInt) :
    Option (Bool × BLEMouseTo × List (Int × Int)) :=
  moveLoop connected (tries + 1) (m.setTarget x y)

/-! ## One call -/

/-- **Both distances to the target fit in an `int`**, and so do their `abs`:
`|targetX - currentX| ≤ INT_MAX`, and the same for `y`. -/
def Fits (m : BLEMouseTo) : Prop :=
  (m.targetX.val - m.currentX.val).natAbs ≤ 2147483647 ∧
    (m.targetY.val - m.currentY.val).natAbs ≤ 2147483647

instance : DecidablePred Fits := fun _ => inferInstanceAs (Decidable (_ ∧ _))

/-- Within 2 of the target on both axes. -/
def Near (m : BLEMouseTo) : Prop :=
  (m.targetX.val - m.currentX.val).natAbs ≤ 2 ∧ (m.targetY.val - m.currentY.val).natAbs ≤ 2

/-- **What `jump` takes**: at most the jump size either way, toward the
target and never past it, and the jump size off the distance. -/
theorem jump_spec {mj : Int} (hm : 0 ≤ mj) (d : Int) :
    -mj ≤ jump mj d ∧ jump mj d ≤ mj ∧ min 0 d ≤ jump mj d ∧ jump mj d ≤ max 0 d := by
  unfold jump
  split_ifs <;> omega

/-- It takes the jump size off the distance, or all of it. -/
theorem natAbs_sub_jump {mj : Int} (hm : 0 ≤ mj) (d : Int) :
    (d - jump mj d).natAbs = d.natAbs - mj.toNat := by
  unfold jump
  split_ifs <;> omega

/-- A jump of at least 1 takes nothing only from nothing. -/
theorem jump_eq_zero_iff {mj : Int} (hm : 1 ≤ mj) (d : Int) : jump mj d = 0 ↔ d = 0 := by
  unfold jump
  split_ifs <;> omega

/-- A jump of at most 127 is inside the HID range. -/
theorem constrain_jump {mj : Int} (hm : 0 ≤ mj) (h : mj ≤ 127) (d : Int) :
    constrain (jump mj d) (-127) 127 = jump mj d :=
  have hj := jump_spec hm d
  constrain_of_mem (by omega) (by omega)

/-- **A jump never takes an `int` position past an `int` target.** -/
theorem inInt_add_jump {mj : Int} (hm : 0 ≤ mj) (c t : CInt) : InInt (c.val + jump mj (t.val - c.val)) := by
  have hj := (jump_spec hm (t.val - c.val)).2.2
  have := c.min_le; have := c.le_max; have := t.min_le; have := t.le_max
  unfold InInt
  omega

variable {m : BLEMouseTo}

/-- Homed, with both distances fitting, `move()` gets past its checks. -/
theorem move_homed (hh : m.isHomed = true) (hf : m.Fits) :
    m.move true =
      if (m.targetX.val - m.currentX.val).natAbs ≤ (2 : Int) ∧
          (m.targetY.val - m.currentY.val).natAbs ≤ (2 : Int) then some (true, m, [])
      else
        if constrain (jump m.maxJumpDistance (m.targetX.val - m.currentX.val)) (-127) 127 ≠ 0 ∨
            constrain (jump m.maxJumpDistance (m.targetY.val - m.currentY.val)) (-127) 127 ≠ 0 then do
          let x ← CInt.checked (m.currentX.val +
            constrain (jump m.maxJumpDistance (m.targetX.val - m.currentX.val)) (-127) 127)
          let y ← CInt.checked (m.currentY.val +
            constrain (jump m.maxJumpDistance (m.targetY.val - m.currentY.val)) (-127) 127)
          some (false, { m with currentX := x, currentY := y },
            [(constrain (jump m.maxJumpDistance (m.targetX.val - m.currentX.val)) (-127) 127,
              constrain (jump m.maxJumpDistance (m.targetY.val - m.currentY.val)) (-127) 127)])
        else some (false, m, []) := by
  obtain ⟨fx, fy⟩ := hf
  have cx : InInt (m.targetX.val - m.currentX.val) := by unfold InInt; omega
  have cy : InInt (m.targetY.val - m.currentY.val) := by unfold InInt; omega
  have ax : InInt (m.targetX.val - m.currentX.val).natAbs := by unfold InInt; omega
  have ay : InInt (m.targetY.val - m.currentY.val).natAbs := by unfold InInt; omega
  rw [move, if_neg (by simp), if_neg (by simp [hh])]
  simp only [CInt.checked_of_inInt cx, CInt.checked_of_inInt cy, CInt.checked_of_inInt ax,
    CInt.checked_of_inInt ay, Option.bind_eq_bind, Option.some_bind]

/-- Within 2 of the target, `move()` returns `true` and changes nothing. -/
theorem move_near (hh : m.isHomed = true) (hn : m.Near) : m.move true = some (true, m, []) := by
  have hf : m.Fits := by unfold Near at hn; unfold Fits; omega
  rw [move_homed hh hf, if_pos (by unfold Near at hn; omega)]

/-- **One step of the walk.** Homed, farther than 2 from the target on some
axis, and with both distances fitting, `move()` sends one jump on each axis,
adds it to the tracked position, and returns `false`. -/
theorem move_far (hh : m.isHomed = true) (hf : m.Fits) (hn : ¬ m.Near) :
    ∃ m' : BLEMouseTo, m.move true = some (false, m',
        [(jump m.maxJumpDistance (m.targetX.val - m.currentX.val),
          jump m.maxJumpDistance (m.targetY.val - m.currentY.val))]) ∧
      m'.currentX.val = m.currentX.val + jump m.maxJumpDistance (m.targetX.val - m.currentX.val) ∧
      m'.currentY.val = m.currentY.val + jump m.maxJumpDistance (m.targetY.val - m.currentY.val) ∧
      m'.targetX = m.targetX ∧ m'.targetY = m.targetY ∧ m'.isHomed = true ∧
      m'.maxJumpDistance = m.maxJumpDistance := by
  have hm : 0 ≤ m.maxJumpDistance := by have := m.jump_pos; omega
  have hmove : jump m.maxJumpDistance (m.targetX.val - m.currentX.val) ≠ 0 ∨
      jump m.maxJumpDistance (m.targetY.val - m.currentY.val) ≠ 0 := by
    simp only [ne_eq, jump_eq_zero_iff m.jump_pos]
    unfold Near at hn
    omega
  unfold Near at hn
  rw [move_homed hh hf, if_neg (by omega), constrain_jump hm m.jump_le,
    constrain_jump hm m.jump_le, if_pos hmove]
  simp only [CInt.checked_of_inInt (inInt_add_jump hm _ _), Option.bind_eq_bind, Option.some_bind]
  exact ⟨_, rfl, rfl, rfl, rfl, rfl, hh, rfl⟩

/-! ## Calls until the target is reached -/

theorem moveLoop_of_true {c : Bool} {n : Nat} {m' : BLEMouseTo} {sent : List (Int × Int)}
    (h : m.move c = some (true, m', sent)) : moveLoop c (n + 1) m = some (true, m', sent) := by
  simp [moveLoop, h]

theorem moveLoop_of_false {c : Bool} {n : Nat} {m' : BLEMouseTo} {sent : List (Int × Int)}
    (h : m.move c = some (false, m', sent)) :
    moveLoop c (n + 1) m = (moveLoop c n m').map fun r => (r.1, r.2.1, sent ++ r.2.2) := by
  simp only [moveLoop, h, Option.bind_eq_bind, Option.some_bind, Bool.false_eq_true, if_false]
  cases moveLoop c n m' <;> rfl

/-- A jump from `c` toward `t` takes the jump size off the distance. -/
theorem natAbs_after_jump {mj c c₁ t : Int} (hm : 0 ≤ mj) (h : c₁ = c + jump mj (t - c)) :
    (t - c₁).natAbs = (t - c).natAbs - mj.toNat := by
  rw [h, show t - (c + jump mj (t - c)) = t - c - jump mj (t - c) by ring, natAbs_sub_jump hm]

/-- One jump off both distances leaves one jump less to cover. -/
theorem max_sub_le_of_le_succ_mul {a b j k : Nat} (h : max a b ≤ (k + 1) * j) :
    max (a - j) (b - j) ≤ k * j := by
  rw [Nat.succ_mul] at h
  omega

/-- `v` lies between `a` and `b`. -/
def Between (a b v : Int) : Prop := min a b ≤ v ∧ v ≤ max a b

/-- **What a walk from `m` to `m'` sending `sent` did.** -/
structure Walk (m m' : BLEMouseTo) (sent : List (Int × Int)) : Prop where
  /-- Every report is at most `maxJumpDistance` either way. -/
  bounded : ∀ r ∈ sent, -m.maxJumpDistance ≤ r.1 ∧ r.1 ≤ m.maxJumpDistance ∧
    -m.maxJumpDistance ≤ r.2 ∧ r.2 ≤ m.maxJumpDistance
  /-- After each report the tracked position lies between the start and the
  target, on both axes: it never overshoots. -/
  between : ∀ p, p <+: sent →
    Between m.currentX.val m.targetX.val (m.currentX.val + (p.map Prod.fst).sum) ∧
      Between m.currentY.val m.targetY.val (m.currentY.val + (p.map Prod.snd).sum)
  /-- The tracked position moved by the sum of the reports. -/
  currentX : m'.currentX.val = m.currentX.val + (sent.map Prod.fst).sum
  currentY : m'.currentY.val = m.currentY.val + (sent.map Prod.snd).sum
  targetX : m'.targetX = m.targetX
  targetY : m'.targetY = m.targetY
  /-- It ends within 2 of the target. -/
  near : m'.Near

theorem between_trans {a b c v : Int} (hc : Between a b c) (hv : Between c b v) : Between a b v := by
  unfold Between at *
  omega

theorem between_self (a b : Int) : Between a b a :=
  ⟨min_le_left _ _, le_max_left _ _⟩

/-- A jump from `c` lands between `c` and the target. -/
theorem between_add_jump {mj : Int} (hm : 0 ≤ mj) (c t : Int) : Between c t (c + jump mj (t - c)) := by
  have := (jump_spec hm (t - c)).2.2
  unfold Between
  omega

/-- A walk that stops where it is. -/
theorem Walk.nil (hn : m.Near) : Walk m m [] where
  bounded := by simp
  between p hp := by
    rw [List.prefix_nil.1 hp]
    simp only [List.map_nil, List.sum_nil, add_zero]
    exact ⟨between_self _ _, between_self _ _⟩
  currentX := by simp
  currentY := by simp
  targetX := rfl
  targetY := rfl
  near := hn

/-- **A step, then a walk, is a walk.** -/
theorem Walk.cons {m₁ m' : BLEMouseTo} {sent : List (Int × Int)}
    (hcx : m₁.currentX.val = m.currentX.val + jump m.maxJumpDistance (m.targetX.val - m.currentX.val))
    (hcy : m₁.currentY.val = m.currentY.val + jump m.maxJumpDistance (m.targetY.val - m.currentY.val))
    (htx : m₁.targetX = m.targetX) (hty : m₁.targetY = m.targetY)
    (hj : m₁.maxJumpDistance = m.maxJumpDistance) (w : Walk m₁ m' sent) :
    Walk m m' ((jump m.maxJumpDistance (m.targetX.val - m.currentX.val),
      jump m.maxJumpDistance (m.targetY.val - m.currentY.val)) :: sent) := by
  have hm : 0 ≤ m.maxJumpDistance := by have := m.jump_pos; omega
  have jx := jump_spec hm (m.targetX.val - m.currentX.val)
  have jy := jump_spec hm (m.targetY.val - m.currentY.val)
  obtain ⟨hb, hbetween, hx, hy, hx', hy', hn⟩ := w
  rw [hj] at hb
  rw [htx, hty, hcx, hcy] at hbetween
  refine ⟨List.forall_mem_cons.2 ⟨⟨jx.1, jx.2.1, jy.1, jy.2.1⟩, hb⟩, fun p hp => ?_,
    by simp [hx, hcx, add_assoc], by simp [hy, hcy, add_assoc], hx'.trans htx, hy'.trans hty, hn⟩
  rcases List.prefix_cons_iff.1 hp with rfl | ⟨q, rfl, hq⟩
  · simp only [List.map_nil, List.sum_nil, add_zero]
    exact ⟨between_self _ _, between_self _ _⟩
  · obtain ⟨bx, by'⟩ := hbetween q hq
    simp only [List.map_cons, List.sum_cons, ← add_assoc]
    exact ⟨between_trans (between_add_jump hm _ _) bx, between_trans (between_add_jump hm _ _) by'⟩

/-- **The walk converges, run by run.** From a homed state with both
distances fitting, `k + 1` calls are enough when `k` jumps cover the larger
distance: one of them returns `true`, and what they did is a `Walk`. -/
theorem moveLoop_walk : ∀ (k : Nat) (m : BLEMouseTo), m.isHomed = true → m.Fits →
    max (m.targetX.val - m.currentX.val).natAbs (m.targetY.val - m.currentY.val).natAbs ≤
      k * m.maxJumpDistance.toNat →
    ∃ m' sent, moveLoop true (k + 1) m = some (true, m', sent) ∧ Walk m m' sent := by
  intro k
  induction k with
  | zero =>
    intro m hh _ hk
    have hn : m.Near := by unfold Near; omega
    exact ⟨m, [], moveLoop_of_true (move_near hh hn), Walk.nil hn⟩
  | succ k ih =>
    intro m hh hf hk
    by_cases hn : m.Near
    · exact ⟨m, [], moveLoop_of_true (move_near hh hn), Walk.nil hn⟩
    obtain ⟨m₁, hmove, hcx, hcy, htx, hty, hh₁, hj⟩ := move_far hh hf hn
    have hm : 0 ≤ m.maxJumpDistance := by have := m.jump_pos; omega
    have dx : (m₁.targetX.val - m₁.currentX.val).natAbs =
        (m.targetX.val - m.currentX.val).natAbs - m.maxJumpDistance.toNat := by
      rw [htx]; exact natAbs_after_jump hm hcx
    have dy : (m₁.targetY.val - m₁.currentY.val).natAbs =
        (m.targetY.val - m.currentY.val).natAbs - m.maxJumpDistance.toNat := by
      rw [hty]; exact natAbs_after_jump hm hcy
    have hf₁ : m₁.Fits := by
      unfold Fits at hf ⊢
      rw [dx, dy]
      exact ⟨(Nat.sub_le _ _).trans hf.1, (Nat.sub_le _ _).trans hf.2⟩
    have hk₁ : max (m₁.targetX.val - m₁.currentX.val).natAbs (m₁.targetY.val - m₁.currentY.val).natAbs ≤
        k * m₁.maxJumpDistance.toNat := by
      rw [dx, dy, hj]
      exact max_sub_le_of_le_succ_mul hk
    obtain ⟨m', sent, hloop, w⟩ := ih m₁ hh₁ hf₁ hk₁
    refine ⟨m', _, ?_, Walk.cons hcx hcy htx hty hj w⟩
    rw [moveLoop_of_false hmove, hloop]
    rfl

/-- **The walk converges while the distances fit in an
`int`.** From every homed state whose distances to the target fit in an
`int`, with any jump size `m` in `[1, 127]` and the correction factor at
`1.0`, the calls of `move()` return `true` within
`⌈max(|targetX - currentX|, |targetY - currentY|) / m⌉ + 1` calls with no
overflow; every report is in `[-m, m]`, the position never passes the target
on either axis, and it ends within 2 of it. -/
theorem moveLoop_converges (m : BLEMouseTo) (hh : m.isHomed = true) (hf : m.Fits) :
    ∃ m' sent, moveLoop true
        ((max (m.targetX.val - m.currentX.val).natAbs (m.targetY.val - m.currentY.val).natAbs +
          m.maxJumpDistance.toNat - 1) / m.maxJumpDistance.toNat + 1) m = some (true, m', sent) ∧
      Walk m m' sent := by
  have hm : 0 < m.maxJumpDistance.toNat := by have := m.jump_pos; omega
  refine moveLoop_walk _ m hh hf ?_
  have := Nat.lt_div_mul_add (a := max (m.targetX.val - m.currentX.val).natAbs
    (m.targetY.val - m.currentY.val).natAbs + m.maxJumpDistance.toNat - 1) hm
  omega

/-- From `(0, 0)`, homed by `CALIBRATE,0,0`, to `(100, 30)`: three calls. -/
theorem moveLoop_converges_to_target :
    let m := (({} : BLEMouseTo).setCurrentPosition 0 0).setTarget
      ⟨100, by decide, by decide⟩ ⟨30, by decide, by decide⟩
    m.isHomed = true ∧ m.Fits ∧
      ∃ m' sent, moveLoop true
          ((max (m.targetX.val - m.currentX.val).natAbs (m.targetY.val - m.currentY.val).natAbs +
            m.maxJumpDistance.toNat - 1) / m.maxJumpDistance.toNat + 1) m = some (true, m', sent) ∧
        Walk m m' sent :=
  ⟨by decide, by decide, moveLoop_converges _ (by decide) (by decide)⟩

/-- **`CALIBRATE` can put the tracked position out of `int` reach of the
target.** `CALIBRATE,-2147483648,0` homes the position at `(INT_MIN, 0)`,
and `GOTO,390,0` sets the target `(390, 0)` with the initial jump size 50.
The first call of `move()` then computes `targetX - currentX = 2147484038`,
past `INT_MAX`: signed overflow, and no bound on the calls follows. -/
theorem move_after_far_calibrate :
    let m := (({} : BLEMouseTo).setCurrentPosition ⟨-2147483648, by decide, by decide⟩ 0).setTarget
      ⟨390, by decide, by decide⟩ 0
    m.isHomed = true ∧ m.maxJumpDistance = 50 ∧ m.targetX.val = 390 ∧ ¬ m.Fits ∧
      m.move true = none := by
  decide

end BLEMouseTo

end Firmware

end TouchBridge
