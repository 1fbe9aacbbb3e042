import Mathlib
/-!
# `SimpleBLEMouse::moveToAbsolute`: home, then walk to the target

The MOVE-dialect firmware keeps no position. `moveToAbsolute` sends
`homeSteps` moves of `(-50, -50)` to push the cursor into the top-left
corner, then walks from there: each pass of its `while` loop takes at most
50 from what remains on each axis (`axisStep`) and sends the two steps as
one report (`relativeMoves`).

The walk ends for every target: each pass takes at least one unit off
`|remainingX| + |remainingY|`, which is the measure the definition is
accepted under, and it takes exactly `⌈|t| / 50⌉` passes on the longer axis
(`relativeMoves_length`). Every report is a non-zero step of at most 50 each
way (`relativeMoves_bounded`) and the reports add up to the target
(`relativeMoves_sum`). None of the loop's `int` arithmetic can overflow:
what remains lies between the target and `0`.
-/

namespace TouchBridge

namespace Firmware

/-- The step one pass of `moveToAbsolute`'s loop takes along an axis: what
remains, cut to at most 50 either way (`min(remaining, 50)`,
`max(remaining, -50)`). -/
def axisStep (remaining : Int) : Int :=
  if remaining > 0 then min remaining 50
  else if remaining < 0 then max remaining (-50)
  else 0

/-- **What `axisStep` takes**: at most 50 either way, and nothing only from
nothing. -/
theorem axisStep_spec (r : Int) :
    -50 ≤ axisStep r ∧ axisStep r ≤ 50 ∧ (axisStep r = 0 ↔ r = 0) := by
  unfold axisStep
  split_ifs <;> omega

/-- It takes 50 off what remains, toward `0`, or all of it. -/
theorem natAbs_sub_axisStep (r : Int) :
    (r - axisStep r).natAbs = r.natAbs - 50 ∧
      (r - axisStep r).natAbs + (axisStep r).natAbs = r.natAbs := by
  unfold axisStep
  split_ifs with h₁ h₂
  · rcases le_total r 50 with h | h
    · rw [min_eq_left h, sub_self, Int.natAbs_zero]; omega
    · rw [min_eq_right h]; omega
  · rcases le_total r (-50) with h | h
    · rw [max_eq_right h]; omega
    · rw [max_eq_left h, sub_self, Int.natAbs_zero]; omega
  · obtain rfl : r = 0 := by omega
    simp

/-- A pass takes something off `|remainingX| + |remainingY|`. -/
theorem natAbs_sub_axisStep_lt {rx ry : Int} (h : axisStep rx ≠ 0 ∨ axisStep ry ≠ 0) :
    (rx - axisStep rx).natAbs + (ry - axisStep ry).natAbs < rx.natAbs + ry.natAbs := by
  have hx := (natAbs_sub_axisStep rx).2
  have hy := (natAbs_sub_axisStep ry).2
  rcases h with h | h
  · rw [← hx, ← hy]
    exact Nat.add_lt_add_of_lt_of_le (Nat.lt_add_of_pos_right (Int.natAbs_pos.2 h))
      (Nat.le_add_right _ _)
  · rw [← hx, ← hy]
    exact Nat.add_lt_add_of_le_of_lt (Nat.le_add_right _ _)
      (Nat.lt_add_of_pos_right (Int.natAbs_pos.2 h))

/-- **The loop of `moveToAbsolute`**, from what remains on each axis: the
reports it sends. A pass whose two steps are both `0` breaks out; from a
non-zero remainder there is none (`axisStep_spec`). -/
def relativeMoves (remainingX remainingY : Int) : List (Int × Int) :=
  if remainingX ≠ 0 ∨ remainingY ≠ 0 then
    if axisStep remainingX ≠ 0 ∨ axisStep remainingY ≠ 0 then
      (axisStep remainingX, axisStep remainingY) ::
        relativeMoves (remainingX - axisStep remainingX) (remainingY - axisStep remainingY)
    else []
  else []
termination_by remainingX.natAbs + remainingY.natAbs
decreasing_by exact natAbs_sub_axisStep_lt ‹_›

/-- `max(ACTUAL_SCREEN_WIDTH, ACTUAL_SCREEN_HEIGHT) / 50 + 5`, the number of
homing moves. -/
def homeSteps (actualWidth actualHeight : Int) : Int :=
  (max actualWidth actualHeight).tdiv 50 + 5

/-- **`moveToAbsolute(targetX, targetY)`** on an
`ACTUAL_SCREEN_WIDTH × ACTUAL_SCREEN_HEIGHT` screen: the reports
`bleMouse.move` sends, the homing moves first. -/
def moveToAbsolute (actualWidth actualHeight targetX targetY : Int) : List (Int × Int) :=
  List.replicate (homeSteps actualWidth actualHeight).toNat (-50, -50) ++
    relativeMoves targetX targetY

/-! ## The walk -/

/-- One pass of the loop: from a non-zero remainder it sends the two steps
and goes on from what is left. -/
theorem relativeMoves_of_ne {rx ry : Int} (h : rx ≠ 0 ∨ ry ≠ 0) :
    relativeMoves rx ry =
      (axisStep rx, axisStep ry) :: relativeMoves (rx - axisStep rx) (ry - axisStep ry) := by
  have hstep : axisStep rx ≠ 0 ∨ axisStep ry ≠ 0 := by
    simpa only [ne_eq, (axisStep_spec rx).2.2, (axisStep_spec ry).2.2] using h
  rw [relativeMoves, if_pos h, if_pos hstep]

@[simp] theorem relativeMoves_zero : relativeMoves 0 0 = [] := by
  rw [relativeMoves, if_neg (by simp)]

/-- `⌈(a - 50) / 50⌉ = ⌈a / 50⌉ - 1`. -/
theorem passes_sub (a : Nat) : (a - 50 + 49) / 50 = (a + 49) / 50 - 1 := by
  rcases Nat.lt_or_ge a 50 with h | h
  · rw [Nat.sub_eq_zero_of_le h.le, Nat.zero_add, Nat.div_eq_of_lt (by norm_num)]
    omega
  · rw [show a + 49 = (a - 50 + 49) + 50 by omega, Nat.add_div_right _ (by norm_num),
      Nat.add_sub_cancel]

/-- One pass more, from a non-zero remainder on one axis: `⌈a / 50⌉` is one
more than `⌈(a - 50) / 50⌉` unless `a = 0`. -/
theorem passes_succ {a b : Nat} (h : a ≠ 0 ∨ b ≠ 0) :
    max ((a - 50 + 49) / 50) ((b - 50 + 49) / 50) + 1 = max ((a + 49) / 50) ((b + 49) / 50) := by
  have hpos : 1 ≤ max ((a + 49) / 50) ((b + 49) / 50) := by
    rcases h with h | h
    · exact le_max_of_le_left ((Nat.le_div_iff_mul_le (by norm_num)).2 (by omega))
    · exact le_max_of_le_right ((Nat.le_div_iff_mul_le (by norm_num)).2 (by omega))
  rw [passes_sub, passes_sub, Nat.sub_max_sub_right, Nat.sub_add_cancel hpos]

/-- **The loop runs `⌈|t| / 50⌉` passes for the longer axis.** -/
theorem relativeMoves_length (rx ry : Int) :
    (relativeMoves rx ry).length = max ((rx.natAbs + 49) / 50) ((ry.natAbs + 49) / 50) := by
  induction rx, ry using relativeMoves.induct with
  | case1 rx ry h _ ih =>
    rw [relativeMoves_of_ne h, List.length_cons, ih, (natAbs_sub_axisStep rx).1,
      (natAbs_sub_axisStep ry).1]
    exact passes_succ (by simpa only [ne_eq, Int.natAbs_eq_zero] using h)
  | case2 rx ry h hstep =>
    simp only [ne_eq, (axisStep_spec rx).2.2, (axisStep_spec ry).2.2] at hstep
    exact absurd h hstep
  | case3 rx ry h =>
    obtain ⟨rfl, rfl⟩ : rx = 0 ∧ ry = 0 := by simpa only [ne_eq, not_or, not_not] using h
    simp

/-- **Every report is a non-zero step of at most 50 each way.** -/
theorem relativeMoves_bounded (rx ry : Int) :
    ∀ mv ∈ relativeMoves rx ry,
      -50 ≤ mv.1 ∧ mv.1 ≤ 50 ∧ -50 ≤ mv.2 ∧ mv.2 ≤ 50 ∧ mv ≠ (0, 0) := by
  induction rx, ry using relativeMoves.induct with
  | case1 rx ry h _ ih =>
    have hx := axisStep_spec rx
    have hy := axisStep_spec ry
    rw [relativeMoves_of_ne h]
    refine List.forall_mem_cons.2 ⟨⟨hx.1, hx.2.1, hy.1, hy.2.1, fun he => ?_⟩, ih⟩
    simp only [Prod.mk.injEq, hx.2.2, hy.2.2] at he
    exact h.elim (· he.1) (· he.2)
  | case2 rx ry h hstep => rw [relativeMoves, if_pos h, if_neg hstep]; simp
  | case3 rx ry h => rw [relativeMoves, if_neg h]; simp

/-- **The reports add up to what remained.** -/
theorem relativeMoves_sum (rx ry : Int) :
    ((relativeMoves rx ry).map Prod.fst).sum = rx ∧
      ((relativeMoves rx ry).map Prod.snd).sum = ry := by
  induction rx, ry using relativeMoves.induct with
  | case1 rx ry h _ ih =>
    rw [relativeMoves_of_ne h, List.map_cons, List.map_cons, List.sum_cons, List.sum_cons, ih.1,
      ih.2]
    omega
  | case2 rx ry h hstep =>
    simp only [ne_eq, (axisStep_spec rx).2.2, (axisStep_spec ry).2.2] at hstep
    exact absurd h hstep
  | case3 rx ry h =>
    obtain ⟨rfl, rfl⟩ : rx = 0 ∧ ry = 0 := by simpa only [ne_eq, not_or, not_not] using h
    simp

example : relativeMoves 120 (-30) = [(50, -30), (50, 0), (20, 0)] := by
  simp [relativeMoves, axisStep]

/-- **`moveToAbsolute` homes, then walks exactly to the target.**
For every target, the reports it sends are the homing moves followed by a
walk of `⌈|t| / 50⌉` passes on the longer axis, each pass a non-zero step
of at most 50 each way, the steps adding up to the target. -/
theorem moveToAbsolute_reaches_target (actualWidth actualHeight targetX targetY : Int) :
    ∃ moves : List (Int × Int),
      moveToAbsolute actualWidth actualHeight targetX targetY =
        List.replicate (homeSteps actualWidth actualHeight).toNat (-50, -50) ++ moves ∧
      moves.length = max ((targetX.natAbs + 49) / 50) ((targetY.natAbs + 49) / 50) ∧
      (∀ mv ∈ moves, -50 ≤ mv.1 ∧ mv.1 ≤ 50 ∧ -50 ≤ mv.2 ∧ mv.2 ≤ 50 ∧ mv ≠ (0, 0)) ∧
      (moves.map Prod.fst).sum = targetX ∧ (moves.map Prod.snd).sum = targetY :=
  ⟨_, rfl, relativeMoves_length targetX targetY, relativeMoves_bounded targetX targetY,
    relativeMoves_sum targetX targetY⟩

end Firmware

end TouchBridge
