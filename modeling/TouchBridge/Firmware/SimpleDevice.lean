import TouchBridge.Firmware.Pointer
import TouchBridge.Firmware.SimpleMouse
import TouchBridge.Firmware.MoveDialect
/-!
# The MOVE-dialect firmware as a device

Each command of the MOVE-dialect firmware ends in one call on its
`SimpleBLEMouse` object: `moveToAbsolute`, `clickAt`, `click`, `scroll`,
`resetPosition` or `setScreenResolution`. The object tracks no position.
Its calls read and write four globals: the screen size last set
(`BASE_SCREEN_*`) and the size the homing is computed from
(`ACTUAL_SCREEN_*`). The second size passes through a `float` on the way
(`floatOfInt`). `Globals.perform` is what one call does: the globals after
and the reports sent to the phone, `none` where C leaves the result
undefined.

On the phone (`Pointer`), `moveToAbsolute` puts the pointer at its target,
clamped to the screen, from wherever the pointer was, as soon as the homing
moves add up to the screen's size (`pointer_moveToAbsolute`). The homing pins
the pointer in the corner, and from there each axis of the walk keeps the
sign of its target (`relativeMoves_signs`), so the screen's edges only cut
the walk where the target lies off the screen. Whatever bytes arrive, every
move report the firmware sends is at most 50 either way
(`performAll_moves_bounded`).
-/

namespace TouchBridge

namespace Firmware

/-! ## The walk keeps the sign of its target -/

/-- A step has the sign of what remains, and leaves a remainder of that sign. -/
theorem axisStep_signs (r : Int) :
    (0 ≤ r → 0 ≤ axisStep r ∧ 0 ≤ r - axisStep r) ∧ (r ≤ 0 → axisStep r ≤ 0 ∧ r - axisStep r ≤ 0) := by
  unfold axisStep
  split_ifs <;> omega

/-- **Each axis of the walk keeps the sign of its target.** -/
theorem relativeMoves_signs (rx ry : Int) :
    ∀ mv ∈ relativeMoves rx ry, (0 ≤ rx → 0 ≤ mv.1) ∧ (rx ≤ 0 → mv.1 ≤ 0) ∧
      (0 ≤ ry → 0 ≤ mv.2) ∧ (ry ≤ 0 → mv.2 ≤ 0) := by
  induction rx, ry using relativeMoves.induct with
  | case1 rx ry h _ ih =>
    obtain ⟨px, nx⟩ := axisStep_signs rx
    obtain ⟨py, ny⟩ := axisStep_signs ry
    rw [relativeMoves_of_ne h]
    refine List.forall_mem_cons.2 ⟨⟨fun h => (px h).1, fun h => (nx h).1, fun h => (py h).1,
      fun h => (ny h).1⟩, fun mv hmv => ?_⟩
    obtain ⟨a, b, c, d⟩ := ih mv hmv
    exact ⟨fun h => a (px h).2, fun h => b (nx h).2, fun h => c (py h).2, fun h => d (ny h).2⟩
  | case2 rx ry h hstep => rw [relativeMoves, if_pos h, if_neg hstep]; simp
  | case3 rx ry h => rw [relativeMoves, if_neg h]; simp

/-- The homing moves add up to more than the larger screen side, by 200. -/
theorem homeSteps_spec (actualWidth actualHeight : Int) :
    max actualWidth actualHeight + 200 < 50 * homeSteps actualWidth actualHeight := by
  have := Int.lt_tdiv_add_one_mul_self (max actualWidth actualHeight) (b := 50) (by norm_num)
  unfold homeSteps
  omega

/-- **`moveToAbsolute` puts the phone's pointer at its target, clamped to
the screen**, from wherever the pointer was, once the homing moves add up
to the screen's width and height; the phone registers nothing. -/
theorem pointer_moveToAbsolute (S : Screen) {p : Int × Int} (hp : S.OnScreen p)
    {actualWidth actualHeight : Int}
    (hhome : max S.width S.height ≤ 50 * homeSteps actualWidth actualHeight) (targetX targetY : Int) :
    S.pointer p (Report.moves (moveToAbsolute actualWidth actualHeight targetX targetY)) =
      (constrain targetX 0 S.width, constrain targetY 0 S.height) := by
  have hn : ((homeSteps actualWidth actualHeight).toNat : Int) * 50 =
      50 * homeSteps actualWidth actualHeight := by
    have := homeSteps_spec actualWidth actualHeight
    have : 0 ≤ max S.width S.height := le_max_of_le_left S.width_nonneg
    omega
  have hsigns := relativeMoves_signs targetX targetY
  obtain ⟨hsx, hsy⟩ := relativeMoves_sum targetX targetY
  rw [moveToAbsolute, Report.moves, List.map_append, ← Report.moves, ← Report.moves,
    S.pointer_append, S.pointer_homing hp (by norm_num) (by rw [hn]; exact (le_max_left _ _).trans hhome)
      (by rw [hn]; exact (le_max_right _ _).trans hhome), S.pointer_moves]
  congr 1
  · exact slides_zero_of_signed S.width_nonneg _ hsx
      (fun h d hd => by obtain ⟨mv, hmv, rfl⟩ := List.mem_map.1 hd; exact (hsigns mv hmv).1 h)
      (fun h d hd => by obtain ⟨mv, hmv, rfl⟩ := List.mem_map.1 hd; exact (hsigns mv hmv).2.1 h)
  · exact slides_zero_of_signed S.height_nonneg _ hsy
      (fun h d hd => by obtain ⟨mv, hmv, rfl⟩ := List.mem_map.1 hd; exact (hsigns mv hmv).2.2.1 h)
      (fun h d hd => by obtain ⟨mv, hmv, rfl⟩ := List.mem_map.1 hd; exact (hsigns mv hmv).2.2.2 h)

/-- On a 390 × 844 screen, from `(300, 700)`, with the homing of the
initial 1170 × 2532 globals: the target `(120, 900)` lies below the screen,
and the pointer ends at `(120, 844)`. -/
theorem pointer_moveToAbsolute_below :
    let S : Screen := ⟨390, 844, by decide, by decide⟩
    S.OnScreen (300, 700) ∧ max S.width S.height ≤ 50 * homeSteps 1170 2532 ∧
      S.pointer (300, 700) (Report.moves (moveToAbsolute 1170 2532 120 900)) =
        (constrain 120 0 S.width, constrain 900 0 S.height) :=
  ⟨by decide, by decide, pointer_moveToAbsolute _ (by decide) (by decide) 120 900⟩

/-! ## The screen size through a `float` -/

/-- **`(float)n`** for a natural number: the nearest number with at most 24
significant bits, the even one on a tie, as the ESP32's single-precision
`float` rounds. `k` counts the low bits dropped. -/
def floatOfNat (n : Nat) : Nat :=
  let k := n.log2 + 1 - 24
  if 2 * (n % 2 ^ k) > 2 ^ k ∨ (2 * (n % 2 ^ k) = 2 ^ k ∧ n / 2 ^ k % 2 = 1) then
    (n / 2 ^ k + 1) * 2 ^ k
  else n / 2 ^ k * 2 ^ k

/-- `(float)v` for an `int`: its sign, and its magnitude rounded. -/
def floatOfInt (v : Int) : Int :=
  if v < 0 then -(floatOfNat v.natAbs : Int) else floatOfNat v.natAbs

/-- Below `2 ^ 24` a `float` is exact. -/
theorem floatOfNat_of_lt {n : Nat} (h : n < 2 ^ 24) : floatOfNat n = n := by
  have hk : n.log2 + 1 - 24 = 0 := by
    rcases Nat.eq_zero_or_pos n with rfl | hn
    · simp [Nat.log2_zero]
    · have := (Nat.log2_lt hn.ne').2 h
      omega
  simp [floatOfNat, hk, Nat.mod_one]

/-- **Below `2 ^ 32` a `float` is within 128 of the number**: at most 8 low
bits are dropped, and rounding to the nearest loses at most half of them. -/
theorem floatOfNat_near {n : Nat} (h : n < 2 ^ 32) : n ≤ floatOfNat n + 128 ∧ floatOfNat n ≤ n + 128 := by
  have hk : n.log2 + 1 - 24 ≤ 8 := by
    rcases Nat.eq_zero_or_pos n with rfl | hn
    · simp [Nat.log2_zero]
    · have := (Nat.log2_lt hn.ne').2 h
      omega
  unfold floatOfNat
  generalize n.log2 + 1 - 24 = k at hk ⊢
  have hP : 2 ^ k ≤ 256 := (Nat.pow_le_pow_right (by norm_num) hk).trans (by norm_num)
  have hdm := Nat.div_add_mod n (2 ^ k)
  have hr := Nat.mod_lt n (Nat.two_pow_pos k)
  have hup : (n / 2 ^ k + 1) * 2 ^ k = 2 ^ k * (n / 2 ^ k) + 2 ^ k := by ring
  have hdown : n / 2 ^ k * 2 ^ k = 2 ^ k * (n / 2 ^ k) := Nat.mul_comm _ _
  dsimp only
  split_ifs <;> omega

/-- So is every `int`'s `float`. -/
theorem floatOfInt_near {v : Int} (h : InInt v) : v ≤ floatOfInt v + 128 ∧ floatOfInt v ≤ v + 128 := by
  have hv := floatOfNat_near (n := v.natAbs) (by unfold InInt at h; omega)
  unfold floatOfInt
  split_ifs <;> omega

/-- And exact below `2 ^ 24`. -/
theorem floatOfInt_of_natAbs_lt {v : Int} (h : v.natAbs < 2 ^ 24) : floatOfInt v = v := by
  unfold floatOfInt
  rw [floatOfNat_of_lt h]
  split_ifs <;> omega

/-! ## The globals and the calls -/

/-- **The globals of the MOVE-dialect firmware**, as `setup()` leaves them:
the screen size last set, and the size the homing is computed from. -/
structure Globals where
  baseScreenWidth : Int := 1170
  baseScreenHeight : Int := 2532
  actualScreenWidth : Int := 1170
  actualScreenHeight : Int := 2532
deriving DecidableEq, Repr

namespace Globals

/-- **`setScreenResolution(width, height)`**: the base size, and the actual
size `int(width * X_SCALE)` with `X_SCALE = 1.0`, the size through a `float`
and back. A `float` beyond the `int` range has no `int` (`none`). -/
def setScreenResolution (width height : Int) : Option Globals := do
  let actualWidth ← CInt.checked (floatOfInt width)
  let actualHeight ← CInt.checked (floatOfInt height)
  some ⟨width, height, actualWidth.val, actualHeight.val⟩

end Globals

/-- **The scroll loop both firmwares share**: the reply prints
`abs(direction * amount)`, two `int` operations, then `amount` turns of the
wheel `wheel` follow, each `bleMouse.move` receiving `direction` as a
`signed char`. -/
def wheelTurns (wheel : Int → Report) (direction amount : Int) : Option (List Report) := do
  let product ← CInt.checked (direction * amount)
  let _ ← CInt.checked (product.val.natAbs : Int)
  some (List.replicate amount.toNat (wheel (signedChar direction)))

/-- **`SimpleBLEMouse::scroll(direction, amount)`**. -/
def scroll (direction amount : Int) : Option (List Report) :=
  wheelTurns .scroll direction amount

/-- What the scroll loop sends, when its reply is defined: the wheel turns. -/
theorem wheelTurns_eq_some {wheel : Int → Report} {direction amount : Int} {sent : List Report}
    (h : wheelTurns wheel direction amount = some sent) :
    sent = List.replicate amount.toNat (wheel (signedChar direction)) := by
  simp only [wheelTurns, Option.bind_eq_bind, Option.bind_eq_some] at h
  obtain ⟨_, -, _, -, h⟩ := h
  exact (Option.some.inj h).symm

/-- The scroll loop's reply is defined when `abs(direction * amount)` fits
an `int`. -/
theorem wheelTurns_of_natAbs_le (wheel : Int → Report) {direction amount : Int}
    (h : (direction * amount).natAbs ≤ 2147483647) :
    wheelTurns wheel direction amount =
      some (List.replicate amount.toNat (wheel (signedChar direction))) := by
  have h₁ : InInt (direction * amount) := by unfold InInt; omega
  have h₂ : InInt ((direction * amount).natAbs : Int) := by unfold InInt; omega
  rw [wheelTurns]
  simp only [Option.bind_eq_bind, CInt.checked_of_inInt h₁, Option.some_bind, CInt.checked_of_inInt h₂]

namespace Globals

/-- **What the call a command makes does**: the globals after, and the
reports `bleMouse` sends. `clickAt` is `moveToAbsolute`, then `click`;
`resetPosition` and `showStatus` only print. -/
def perform (g : Globals) : Action → Option (Globals × List Report)
  | .showStatus => some (g, [])
  | .moveToAbsolute targetX targetY =>
    some (g, Report.moves (moveToAbsolute g.actualScreenWidth g.actualScreenHeight targetX targetY))
  | .clickAt x y =>
    some (g, Report.moves (moveToAbsolute g.actualScreenWidth g.actualScreenHeight x y) ++ [.click])
  | .click => some (g, [.click])
  | .scroll direction amount => (scroll direction amount).map (g, ·)
  | .resetPosition _ _ => some (g, [])
  | .setScreenResolution width height => (setScreenResolution width height).map (·, [])
  | .invalidFormat _ => some (g, [])
  | .unknownCommand => some (g, [])

/-- The calls of a run of commands, one after the other: the globals after
and the reports sent, `none` once a call's result is undefined. -/
def performAll : Globals → List Action → Option (Globals × List Report)
  | g, [] => some (g, [])
  | g, a :: as => do
    let (g₁, sent) ← g.perform a
    let (g₂, rest) ← performAll g₁ as
    some (g₂, sent ++ rest)

end Globals

/-! ## Every move is small -/

/-- The moves `moveToAbsolute` sends are at most 50 either way. -/
theorem moveToAbsolute_bounded (actualWidth actualHeight targetX targetY : Int) :
    ∀ mv ∈ moveToAbsolute actualWidth actualHeight targetX targetY,
      -50 ≤ mv.1 ∧ mv.1 ≤ 50 ∧ -50 ≤ mv.2 ∧ mv.2 ≤ 50 := by
  intro mv hmv
  rcases List.mem_append.1 hmv with h | h
  · rw [List.eq_of_mem_replicate h]
    decide
  · obtain ⟨a, b, c, d, -⟩ := relativeMoves_bounded targetX targetY mv h
    exact ⟨a, b, c, d⟩

namespace Globals

/-- One call sends no move of more than 50 either way. -/
theorem perform_moves_bounded {g g' : Globals} {a : Action} {sent : List Report}
    (h : g.perform a = some (g', sent)) {x y : Int} (hm : Report.move x y ∈ sent) :
    -50 ≤ x ∧ x ≤ 50 ∧ -50 ≤ y ∧ y ≤ 50 := by
  cases a with
  | moveToAbsolute tx ty =>
    cases h
    exact moveToAbsolute_bounded _ _ _ _ _ (Report.mem_moves hm)
  | clickAt tx ty =>
    cases h
    rcases List.mem_append.1 hm with hm | hm
    · exact moveToAbsolute_bounded _ _ _ _ _ (Report.mem_moves hm)
    · simp at hm
  | scroll direction amount =>
    obtain ⟨l, hl, he⟩ := Option.map_eq_some'.1 h
    obtain ⟨-, rfl⟩ := Prod.mk.inj he
    rw [wheelTurns_eq_some hl] at hm
    simp at hm
  | setScreenResolution width height =>
    obtain ⟨_, -, he⟩ := Option.map_eq_some'.1 h
    obtain ⟨-, rfl⟩ := Prod.mk.inj he
    simp at hm
  | click | showStatus | resetPosition | invalidFormat | unknownCommand =>
    simp only [perform, Option.some.injEq, Prod.mk.injEq] at h
    obtain ⟨-, rfl⟩ := h
    simp at hm

/-- **Whatever commands arrive, every move report is at most 50 either way.** -/
theorem performAll_moves_bounded :
    ∀ (as : List Action) {g g' : Globals} {sent : List Report}, g.performAll as = some (g', sent) →
      ∀ {x y : Int}, Report.move x y ∈ sent → -50 ≤ x ∧ x ≤ 50 ∧ -50 ≤ y ∧ y ≤ 50
  | [], _, _, _, h, _, _, hm => by cases h; simp at hm
  | a :: as, g, g', sent, h, x, y, hm => by
    simp only [performAll, Option.bind_eq_bind, Option.bind_eq_some, Option.some.injEq,
      Prod.exists] at h
    obtain ⟨g₁, s₁, h₁, g₂, s₂, h₂, -, rfl⟩ := h
    rcases List.mem_append.1 hm with hm | hm
    · exact perform_moves_bounded h₁ hm
    · exact performAll_moves_bounded as h₂ hm

/-- `MOVE,0,0` from the initial globals: fifty-five homing moves of
`(-50, -50)`, and no walk. -/
theorem performAll_moves_bounded_home :
    ({} : Globals).performAll [.moveToAbsolute 0 0] =
        some ({}, Report.moves (List.replicate 55 (-50, -50))) ∧
      Report.move (-50) (-50) ∈ Report.moves (List.replicate 55 (-50, -50)) ∧
      (-50 ≤ (-50 : Int) ∧ (-50 : Int) ≤ 50 ∧ -50 ≤ (-50 : Int) ∧ (-50 : Int) ≤ 50) :=
  have h : ({} : Globals).performAll [.moveToAbsolute 0 0] =
      some ({}, Report.moves (List.replicate 55 (-50, -50))) := by
    simp [performAll, perform, moveToAbsolute, homeSteps]
    rfl
  have hm : Report.move (-50) (-50) ∈ Report.moves (List.replicate 55 (-50, -50)) := by
    simp [Report.moves]
  ⟨h, hm, performAll_moves_bounded _ h hm⟩

end Globals

end Firmware

end TouchBridge
