import TouchBridge.Firmware.MouseTo
/-!
# The phone's pointer, as the firmwares drive it

Both firmwares steer the phone's pointer with relative `bleMouse` reports,
and both find it again by homing: enough moves up and to the left that the
pointer must be in the top-left corner, from where each walks to its target.
The pointer itself is not in the source. It is the behaviour that the homing
relies on, and this module states it: a move report shifts the pointer by
its offsets, the edges of the screen stop it (`Screen.step`), and a click
or a wheel report is registered where the pointer is (`Report.seenAt`).

Each axis moves on its own (`pointer_moves`). Along one axis, a walk whose
steps all have one sign ends at its sum clamped to the screen
(`slides_of_nonneg`, `slides_of_nonpos`). In particular, moves up and to
the left that add up to the screen's size pin the pointer in the corner
(`pointer_homing`). A walk that stays on the screen is not stopped at all
(`slide_of_mem`).
-/

namespace TouchBridge

namespace Firmware

/-- **A report `bleMouse` sends to the phone.** The arguments are what
`bleMouse.move` receives: its parameters are `signed char`s, so the wheel's
`int` arrives through `signedChar`. The moves both firmwares send lie within
`[-127, 127]`, where that conversion changes nothing. -/
inductive Report
  /-- `bleMouse.move(x, y)`: a relative move. -/
  | move (x y : Int)
  /-- `bleMouse.move(0, 0, wheel)`: a turn of the wheel. -/
  | scroll (wheel : Int)
  /-- `bleMouse.move(0, 0, 0, hWheel)`: a turn of the horizontal wheel. -/
  | hScroll (hWheel : Int)
  /-- `bleMouse.click(MOUSE_LEFT)`. -/
  | click
deriving DecidableEq, Repr

/-- **An `int` passed as a `signed char`**: its value modulo 256, in
`[-128, 127]`, as the ESP32's compiler converts it. -/
def signedChar (v : Int) : Int :=
  (v + 128) % 256 - 128

/-- A value in `signed char` range passes unchanged. -/
theorem signedChar_of_mem {v : Int} (h₁ : -128 ≤ v) (h₂ : v ≤ 127) : signedChar v = v := by
  unfold signedChar
  omega

example : signedChar 300 = 44 ∧ signedChar 200 = -56 := by decide

/-- The reports of a list of relative moves, one `bleMouse.move(x, y)` each. -/
def Report.moves (l : List (Int × Int)) : List Report :=
  l.map fun mv => .move mv.1 mv.2

theorem Report.moves_append (l l' : List (Int × Int)) :
    Report.moves (l ++ l') = Report.moves l ++ Report.moves l' :=
  List.map_append _ _ _

/-- A move report sits in a list of moves as the move it reports. -/
theorem Report.mem_moves {l : List (Int × Int)} {x y : Int} (h : Report.move x y ∈ Report.moves l) :
    (x, y) ∈ l := by
  obtain ⟨mv, hmv, he⟩ := List.mem_map.1 h
  cases he
  exact hmv

/-- **What the phone registers of a report**: a tap, or a turn of one of
its wheels, at the pointer's position. -/
inductive Seen
  | tap (x y : Int)
  | scroll (wheel x y : Int)
  | hScroll (hWheel x y : Int)
deriving DecidableEq, Repr

/-- **The phone's screen, as its pointer moves on it**: the pointer's
coordinates run from `0` to `width` and from `0` to `height`. -/
structure Screen where
  width : Int
  height : Int
  width_nonneg : 0 ≤ width
  height_nonneg : 0 ≤ height

/-- `constrain` lands in its range. -/
theorem constrain_mem {lo hi : Int} (h : lo ≤ hi) (v : Int) :
    lo ≤ constrain v lo hi ∧ constrain v lo hi ≤ hi := by
  unfold constrain
  split_ifs <;> omega

/-- A move of `d` from `p` along one axis, stopped at `0` and at `hi`. -/
def slide (hi p d : Int) : Int :=
  constrain (p + d) 0 hi

/-- A run of moves along one axis. -/
def slides (hi : Int) : Int → List Int → Int
  | p, [] => p
  | p, d :: ds => slides hi (slide hi p d) ds

/-- **What the phone registers of a report**, at the pointer `p`. -/
def Report.seenAt (p : Int × Int) : Report → List Seen
  | .move _ _ => []
  | .scroll wheel => [.scroll wheel p.1 p.2]
  | .hScroll hWheel => [.hScroll hWheel p.1 p.2]
  | .click => [.tap p.1 p.2]

namespace Screen

variable (S : Screen)

/-- The pointer is on the screen. -/
def OnScreen (p : Int × Int) : Prop :=
  0 ≤ p.1 ∧ p.1 ≤ S.width ∧ 0 ≤ p.2 ∧ p.2 ≤ S.height

instance : DecidablePred S.OnScreen := fun _ => inferInstanceAs (Decidable (_ ∧ _))

/-- **Where a report leaves the pointer.** Only a move moves it. -/
def step (p : Int × Int) : Report → Int × Int
  | .move x y => (slide S.width p.1 x, slide S.height p.2 y)
  | _ => p

/-- The pointer after a run of reports. -/
def pointer : Int × Int → List Report → Int × Int
  | p, [] => p
  | p, r :: rs => pointer (S.step p r) rs

/-- What the phone registers over a run of reports. -/
def seen : Int × Int → List Report → List Seen
  | _, [] => []
  | p, r :: rs => r.seenAt p ++ seen (S.step p r) rs

@[simp] theorem pointer_nil (p : Int × Int) : S.pointer p [] = p := rfl

@[simp] theorem seen_nil (p : Int × Int) : S.seen p [] = [] := rfl

theorem pointer_append (p : Int × Int) (rs rs' : List Report) :
    S.pointer p (rs ++ rs') = S.pointer (S.pointer p rs) rs' := by
  induction rs generalizing p with
  | nil => rfl
  | cons r rs ih => exact ih _

theorem seen_append (p : Int × Int) (rs rs' : List Report) :
    S.seen p (rs ++ rs') = S.seen p rs ++ S.seen (S.pointer p rs) rs' := by
  induction rs generalizing p with
  | nil => rfl
  | cons r rs ih => rw [List.cons_append, seen, seen, ih, pointer, List.append_assoc]

/-- A click is registered as a tap where the pointer is. -/
@[simp] theorem pointer_click (p : Int × Int) : S.pointer p [.click] = p := rfl

@[simp] theorem seen_click (p : Int × Int) : S.seen p [.click] = [.tap p.1 p.2] := List.append_nil _

/-- Wheel turns leave the pointer where it is. -/
theorem pointer_replicate_scroll (p : Int × Int) (n : Nat) (wheel : Int) :
    S.pointer p (List.replicate n (.scroll wheel)) = p := by
  induction n with
  | zero => rfl
  | succ n ih => exact ih

/-- Each wheel turn is registered at the pointer. -/
theorem seen_replicate_scroll (p : Int × Int) (n : Nat) (wheel : Int) :
    S.seen p (List.replicate n (.scroll wheel)) = List.replicate n (.scroll wheel p.1 p.2) := by
  induction n with
  | zero => rfl
  | succ n ih =>
    rw [List.replicate_succ, List.replicate_succ, seen, ← List.singleton_append]
    exact congrArg _ ih

theorem pointer_replicate_hScroll (p : Int × Int) (n : Nat) (hWheel : Int) :
    S.pointer p (List.replicate n (.hScroll hWheel)) = p := by
  induction n with
  | zero => rfl
  | succ n ih => exact ih

theorem seen_replicate_hScroll (p : Int × Int) (n : Nat) (hWheel : Int) :
    S.seen p (List.replicate n (.hScroll hWheel)) = List.replicate n (.hScroll hWheel p.1 p.2) := by
  induction n with
  | zero => rfl
  | succ n ih =>
    rw [List.replicate_succ, List.replicate_succ, seen, ← List.singleton_append]
    exact congrArg _ ih

/-- **Each axis moves on its own**: over relative moves, the pointer runs
the moves of each axis, and nothing is registered. -/
theorem pointer_moves (p : Int × Int) (l : List (Int × Int)) :
    S.pointer p (Report.moves l) = (slides S.width p.1 (l.map Prod.fst), slides S.height p.2 (l.map Prod.snd)) := by
  induction l generalizing p with
  | nil => rfl
  | cons mv l ih => exact ih _

@[simp] theorem seen_moves (p : Int × Int) (l : List (Int × Int)) : S.seen p (Report.moves l) = [] := by
  induction l generalizing p with
  | nil => rfl
  | cons mv l ih => exact ih _

/-- The pointer stays on the screen, whatever reports arrive. -/
theorem onScreen_pointer {p : Int × Int} (hp : S.OnScreen p) : ∀ rs : List Report, S.OnScreen (S.pointer p rs)
  | [] => hp
  | r :: rs => by
    refine onScreen_pointer ?_ rs
    cases r with
    | move x y =>
      have hx := constrain_mem S.width_nonneg (p.1 + x)
      have hy := constrain_mem S.height_nonneg (p.2 + y)
      exact ⟨hx.1, hx.2, hy.1, hy.2⟩
    | _ => exact hp

end Screen

/-! ## Along one axis -/

section

variable {hi p d : Int} {ds : List Int}

/-- A move that stays on the screen is not stopped. -/
theorem slide_of_mem (h₀ : 0 ≤ p + d) (h₁ : p + d ≤ hi) : slide hi p d = p + d :=
  constrain_of_mem h₀ h₁

/-- **A walk whose steps are all forward ends at its sum, cut at the far edge.** -/
theorem slides_of_nonneg (h₀ : 0 ≤ p) (h₁ : p ≤ hi) (hds : ∀ d ∈ ds, 0 ≤ d) :
    slides hi p ds = min hi (p + ds.sum) := by
  induction ds generalizing p with
  | nil => simp [slides, h₁]
  | cons d ds ih =>
    obtain ⟨hd, hrest⟩ := List.forall_mem_cons.1 hds
    have hs : 0 ≤ ds.sum := List.sum_nonneg hrest
    have hslide : slide hi p d = min hi (p + d) := by unfold slide constrain; split_ifs <;> omega
    rw [slides, ih (by rw [hslide]; omega) (by rw [hslide]; omega) hrest, hslide, List.sum_cons]
    omega

/-- **A walk whose steps are all backward ends at its sum, cut at `0`.** -/
theorem slides_of_nonpos (h₀ : 0 ≤ p) (h₁ : p ≤ hi) (hds : ∀ d ∈ ds, d ≤ 0) :
    slides hi p ds = max 0 (p + ds.sum) := by
  induction ds generalizing p with
  | nil => simp [slides, h₀]
  | cons d ds ih =>
    obtain ⟨hd, hrest⟩ := List.forall_mem_cons.1 hds
    have hs : ds.sum ≤ 0 := by simpa using List.sum_le_card_nsmul ds 0 hrest
    have hslide : slide hi p d = max 0 (p + d) := by unfold slide constrain; split_ifs <;> omega
    rw [slides, ih (by rw [hslide]; omega) (by rw [hslide]; omega) hrest, hslide, List.sum_cons]
    omega

/-- From `0`, a walk whose steps share the sign of their sum `t` ends at `t`
clamped to the screen. -/
theorem slides_zero_of_signed (hhi : 0 ≤ hi) (t : Int) (hsum : ds.sum = t)
    (hpos : 0 ≤ t → ∀ d ∈ ds, 0 ≤ d) (hneg : t ≤ 0 → ∀ d ∈ ds, d ≤ 0) :
    slides hi 0 ds = constrain t 0 hi := by
  rcases le_total 0 t with ht | ht
  · rw [slides_of_nonneg le_rfl hhi (hpos ht), hsum]
    unfold constrain; split_ifs <;> omega
  · rw [slides_of_nonpos le_rfl hhi (hneg ht), hsum]
    unfold constrain; split_ifs <;> omega

end

/-! ## Homing -/

theorem sum_replicate_neg (n : Nat) (c : Int) : (List.replicate n (-c)).sum = -(n * c) := by
  rw [List.sum_replicate, nsmul_eq_mul, mul_neg]

/-- **Homing pins the pointer in the corner.** From anywhere on the screen,
`n` moves of `(-c, -c)` that add up to at least the screen's width and
height leave the pointer at `(0, 0)`, and register nothing. -/
theorem Screen.pointer_homing (S : Screen) {p : Int × Int} (hp : S.OnScreen p) {n : Nat} {c : Int}
    (hc : 0 ≤ c) (hw : S.width ≤ n * c) (hh : S.height ≤ n * c) :
    S.pointer p (Report.moves (List.replicate n (-c, -c))) = (0, 0) := by
  obtain ⟨h₁, h₂, h₃, h₄⟩ := hp
  have hneg : ∀ d ∈ List.replicate n (-c), d ≤ 0 := fun d hd => by
    rw [List.eq_of_mem_replicate hd]; omega
  rw [Screen.pointer_moves, List.map_replicate, List.map_replicate,
    slides_of_nonpos h₁ h₂ hneg, slides_of_nonpos h₃ h₄ hneg, sum_replicate_neg]
  ext <;> simp only <;> omega

end Firmware

end TouchBridge
