import TouchBridge.Handler.Config
import TouchBridge.Serial.Decimal
/-!
# Signed overflow in `process_event`

The model reads C++ `int` arithmetic as `Int` arithmetic, which is the
code's meaning exactly when no operation leaves the `int` range. This file
lists the `int` values `process_event` computes on each event, in C's
order and with `&&` and `||` stopping where C stops them (`arithmetic`),
and asks which stay in range.

Not all do: a raw coordinate of ten million, well inside `int`, makes the
key-down's `rpi_x * target_width_` overflow, and an `ABS_X` of `INT_MIN`
makes the next report's `abs(dx)` overflow (`arithmetic_overflows`). What
holds is a bound: every value `process_event` computes is one of the three
differences, their `abs`, or `map_coordinates`' values at the current
position (`arithmetic_subset`), and the positions it holds are raw
coordinates it was given (`bounded_processEvent`). So when every `ABS_X` and
`ABS_Y` is within `B`, with `2 * B` and `B` times each target dimension
within `INT_MAX`, nothing overflows along any run (`runArithmetic_inInt`).
-/

namespace TouchBridge

namespace TouchHandler

open InputCode

variable (h : TouchHandler)

/-- The `int` values **`map_coordinates(rpi_x, rpi_y)`** computes: each
product, its quotient, and each `target - 1` of the clamp. -/
def mapArithmetic (rpiX rpiY : Int) : List Int :=
  [rpiX * h.targetWidth, (rpiX * h.targetWidth).tdiv h.screenWidth,
    rpiY * h.targetHeight, (rpiY * h.targetHeight).tdiv h.screenHeight,
    h.targetWidth - 1, h.targetHeight - 1]

/-- **The `int` values `process_event` computes on `e`**, in order: the
key-down maps the position; the key-up maps it and, out of scroll mode,
takes both differences and their `abs`; a `SYN_REPORT` with a contact open
takes `dx` and `dy`, then the `abs` its two tests reach, the scroll distance
and its `abs` in scroll mode, and maps the position when it emits. -/
def arithmetic (e : InputEvent) : List Int :=
  match e.branch with
  | .axis => []
  | .keyDown => h.mapArithmetic h.currentX h.currentY
  | .keyUp => h.mapArithmetic h.currentX h.currentY ++
      if h.scrollMode then []
      else [h.currentX - h.lastX, cAbs (h.currentX - h.lastX),
        h.currentY - h.lastY, cAbs (h.currentY - h.lastY)]
  | .report =>
      if h.touchActive then
        [h.currentX - h.lastX, h.currentY - h.lastY] ++
        (if h.scrollMode then []
          else cAbs (h.currentY - h.lastY) ::
            if cAbs (h.currentY - h.lastY) > scrollThreshold then [cAbs (h.currentX - h.lastX)]
            else []) ++
        if h.scrollMode ∨ (cAbs (h.currentY - h.lastY) > scrollThreshold ∧
            cAbs (h.currentX - h.lastX) < scrollThreshold / 2) then
          [h.currentY - h.scrollStartY, cAbs (h.currentY - h.scrollStartY)] ++
            if cAbs (h.currentY - h.scrollStartY) > scrollThreshold then
              h.mapArithmetic h.currentX h.currentY
            else []
        else
          cAbs (h.currentX - h.lastX) ::
            ((if cAbs (h.currentX - h.lastX) > 5 then [] else [cAbs (h.currentY - h.lastY)]) ++
              if cAbs (h.currentX - h.lastX) > 5 ∨ cAbs (h.currentY - h.lastY) > 5 then
                h.mapArithmetic h.currentX h.currentY
              else [])
      else []
  | .ignored => []

/-- The `int` values computed while `es` is processed, in order. -/
def runArithmetic : TouchHandler → List InputEvent → List Int
  | _, [] => []
  | h, e :: es => h.arithmetic e ++ (h.processEvent e).1.runArithmetic es

instance : Decidable h.PositiveMapping := inferInstanceAs (Decidable (_ ∧ _ ∧ _ ∧ _))

/-- Every value `process_event` can compute: the three differences, their
`abs`, and `map_coordinates`' values at the current position. -/
def operands : List Int :=
  [h.currentX - h.lastX, cAbs (h.currentX - h.lastX), h.currentY - h.lastY,
    cAbs (h.currentY - h.lastY), h.currentY - h.scrollStartY, cAbs (h.currentY - h.scrollStartY)] ++
    h.mapArithmetic h.currentX h.currentY

theorem operands_mem :
    h.currentX - h.lastX ∈ h.operands ∧ cAbs (h.currentX - h.lastX) ∈ h.operands ∧
      h.currentY - h.lastY ∈ h.operands ∧ cAbs (h.currentY - h.lastY) ∈ h.operands ∧
      h.currentY - h.scrollStartY ∈ h.operands ∧ cAbs (h.currentY - h.scrollStartY) ∈ h.operands ∧
      h.mapArithmetic h.currentX h.currentY ⊆ h.operands := by
  refine ⟨?_, ?_, ?_, ?_, ?_, ?_, List.subset_append_right _ _⟩ <;> simp [operands]

/-- **`process_event` computes nothing but `operands`.** -/
theorem arithmetic_subset (e : InputEvent) : h.arithmetic e ⊆ h.operands := by
  obtain ⟨h₁, h₂, h₃, h₄, h₅, h₆, h₇⟩ := h.operands_mem
  unfold arithmetic
  split <;> simp only [apply_ite (· ⊆ h.operands), List.append_subset, List.cons_subset,
    List.nil_subset, h₁, h₂, h₃, h₄, h₅, h₆, h₇, and_self, ite_self]

/-! ## Bounded coordinates -/

/-- `v` is within `B` of `0`. -/
def Within (B v : Int) : Prop := -B ≤ v ∧ v ≤ B

instance (B v : Int) : Decidable (Within B v) := inferInstanceAs (Decidable (_ ∧ _))

/-- **Every position the handler holds is within `B`.** -/
structure Bounded (B : Int) : Prop where
  currentX : Within B h.currentX
  currentY : Within B h.currentY
  lastX : Within B h.lastX
  lastY : Within B h.lastY
  scrollStartY : Within B h.scrollStartY

/-- An `ABS_X` or `ABS_Y` event carries a value within `B`. -/
def AxisWithin (B : Int) (e : InputEvent) : Prop :=
  e.branch = .axis → (e.code = absX ∨ e.code = absY) → Within B e.value

instance (B : Int) (e : InputEvent) : Decidable (AxisWithin B e) :=
  inferInstanceAs (Decidable (_ → _ → _ ∧ _))

variable {h} {B : Int}

/-- **The positions stay within `B`**: each is a raw coordinate the handler
was given, or one it held. -/
theorem bounded_processEvent (hb : h.Bounded B) {e : InputEvent} (he : AxisWithin B e) :
    (h.processEvent e).1.Bounded B := by
  obtain ⟨hx, hy, hlx, hly, hsy⟩ := hb
  rw [processEvent_eq]
  cases hbr : e.branch
  · unfold readAxis
    split_ifs with h₁ h₂
    · exact ⟨he hbr (.inl h₁), hy, hlx, hly, hsy⟩
    · exact ⟨hx, he hbr (.inr h₂), hlx, hly, hsy⟩
    · exact ⟨hx, hy, hlx, hly, hsy⟩
  · exact ⟨hx, hy, hx, hy, hy⟩
  · unfold touchUp
    split_ifs <;> exact ⟨hx, hy, hlx, hly, hsy⟩
  · rcases h.processMovement_cases with ⟨-, hp⟩ | ⟨-, -, -, hp⟩ | ⟨-, -, -, hp⟩ | ⟨-, -, -, hp⟩ |
      ⟨-, -, -, hp⟩ <;> rw [hp]
    · exact ⟨hx, hy, hlx, hly, hsy⟩
    · exact ⟨hx, hy, hlx, hly, hy⟩
    · exact ⟨hx, hy, hlx, hly, hsy⟩
    · exact ⟨hx, hy, hx, hy, hsy⟩
    · exact ⟨hx, hy, hlx, hly, hsy⟩
  · exact ⟨hx, hy, hlx, hly, hsy⟩

theorem inInt_of_natAbs_le {v : Int} (h : v.natAbs ≤ 2147483647) : InInt v := by
  unfold InInt
  omega

/-- The difference of two positions within `B`, and its `abs`, fit when
`2 * B` does. -/
theorem sub_inInt {a b : Int} (ha : Within B a) (hb : Within B b) (h2 : 2 * B ≤ 2147483647) :
    InInt (a - b) ∧ InInt (cAbs (a - b)) := by
  unfold Within at ha hb
  unfold InInt
  rw [cAbs_def]
  omega

/-- A position within `B` times a dimension `w` fits when `B * w` does. -/
theorem natAbs_mul_le {x w : Int} (hx : Within B x) (hw : 0 ≤ w) (h : B * w ≤ 2147483647) :
    (x * w).natAbs ≤ 2147483647 := by
  have h₁ := mul_le_mul_of_nonneg_right hx.2 hw
  have h₂ := mul_le_mul_of_nonneg_right hx.1 hw
  rw [neg_mul] at h₂
  omega

/-- Truncating division never grows a value. -/
theorem tdiv_inInt {p : Int} (hp : p.natAbs ≤ 2147483647) (s : Int) : InInt (p.tdiv s) :=
  inInt_of_natAbs_le ((Int.natAbs_tdiv p s).trans_le ((Nat.div_le_self _ _).trans hp))

/-- **`map_coordinates` at a position within `B` does not overflow** when `B`
times each target dimension fits. -/
theorem mapArithmetic_inInt (hB : 1 ≤ B) (hp : h.PositiveMapping) {x y : Int} (hx : Within B x)
    (hy : Within B y) (hw : B * h.targetWidth ≤ 2147483647) (hh : B * h.targetHeight ≤ 2147483647) :
    ∀ v ∈ h.mapArithmetic x y, InInt v := by
  obtain ⟨-, -, htw, hth⟩ := hp
  have px := natAbs_mul_le hx htw.le hw
  have py := natAbs_mul_le hy hth.le hh
  have hw' : h.targetWidth ≤ B * h.targetWidth := le_mul_of_one_le_left htw.le hB
  have hh' : h.targetHeight ≤ B * h.targetHeight := le_mul_of_one_le_left hth.le hB
  simp only [mapArithmetic, List.mem_cons, List.mem_singleton, List.not_mem_nil, or_false]
  rintro v (rfl | rfl | rfl | rfl | rfl | rfl)
  · exact inInt_of_natAbs_le px
  · exact tdiv_inInt px _
  · exact inInt_of_natAbs_le py
  · exact tdiv_inInt py _
  · unfold InInt; omega
  · unfold InInt; omega

/-- **Nothing one event computes overflows**, from a state within `B`. -/
theorem arithmetic_inInt (hB : 1 ≤ B) (h2 : 2 * B ≤ 2147483647) (hp : h.PositiveMapping)
    (hw : B * h.targetWidth ≤ 2147483647) (hh : B * h.targetHeight ≤ 2147483647) (hb : h.Bounded B)
    (e : InputEvent) : ∀ v ∈ h.arithmetic e, InInt v := by
  obtain ⟨hx, hy, hlx, hly, hsy⟩ := hb
  intro v hv
  have hv := h.arithmetic_subset e hv
  simp only [operands, List.mem_append, List.mem_cons, List.mem_singleton, List.not_mem_nil,
    or_false] at hv
  rcases hv with (rfl | rfl | rfl | rfl | rfl | rfl) | hv
  · exact (sub_inInt hx hlx h2).1
  · exact (sub_inInt hx hlx h2).2
  · exact (sub_inInt hy hly h2).1
  · exact (sub_inInt hy hly h2).2
  · exact (sub_inInt hy hsy h2).1
  · exact (sub_inInt hy hsy h2).2
  · exact mapArithmetic_inInt hB hp hx hy hw hh v hv

/-- **Bounded coordinates never overflow.** Take a bound
`B ≥ 1` with `2 * B` and `B` times each target dimension within `INT_MAX`.
From every handler state with a positive mapping whose positions are within
`B`, along every event sequence whose `ABS_X` and `ABS_Y` values are within
`B`, no `int` operation of `process_event` or `map_coordinates` overflows. -/
theorem runArithmetic_inInt (hB : 1 ≤ B) (h2 : 2 * B ≤ 2147483647) :
    ∀ (h : TouchHandler) (es : List InputEvent), h.PositiveMapping →
      B * h.targetWidth ≤ 2147483647 → B * h.targetHeight ≤ 2147483647 → h.Bounded B →
      (∀ e ∈ es, AxisWithin B e) → ∀ v ∈ h.runArithmetic es, InInt v := by
  intro h es
  induction es generalizing h with
  | nil => intro _ _ _ _ _ v hv; simp [runArithmetic] at hv
  | cons e es ih =>
    intro hp hw hh hb hes v hv
    obtain ⟨he, hes⟩ := List.forall_mem_cons.1 hes
    obtain ⟨d₁, d₂, d₃, d₄⟩ := h.processEvent_dims e
    rcases List.mem_append.1 hv with hv | hv
    · exact arithmetic_inInt hB h2 hp hw hh hb e v hv
    · refine ih _ ?_ (by rw [d₃]; exact hw) (by rw [d₄]; exact hh) (bounded_processEvent hb he)
        hes v hv
      simpa only [PositiveMapping, d₁, d₂, d₃, d₄] using hp

/-- The constructor's handler, events within `1000`: a tap at `(100, 200)`. -/
theorem runArithmetic_inInt_tap :
    let es : List InputEvent :=
      [.abs absX 100, .abs absY 200, .key btnTouch 1, .syn, .key btnTouch 0]
    new.PositiveMapping ∧ 1000 * new.targetWidth ≤ 2147483647 ∧
      1000 * new.targetHeight ≤ 2147483647 ∧ new.Bounded 1000 ∧
      (∀ e ∈ es, AxisWithin 1000 e) ∧ ∀ v ∈ new.runArithmetic es, InInt v :=
  have hb : new.Bounded 1000 := ⟨by decide, by decide, by decide, by decide, by decide⟩
  ⟨by decide, by decide, by decide, hb, by decide,
    runArithmetic_inInt (B := 1000) (by decide) (by decide) new _ (by decide) (by decide)
      (by decide) hb (by decide)⟩

/-! ## Counterexamples -/

/-- **Two runs whose arithmetic overflows**, from the constructor's
800×480 screen mapped to 390×844. A touch at `x = 10000000` computes
`10000000 * 390`, past `INT_MAX`; a touch at `(0, 0)` dragged to
`x = INT_MIN` computes `abs(INT_MIN)` at the next report. -/
theorem arithmetic_overflows :
    new.PositiveMapping ∧
    3900000000 ∈ new.runArithmetic [.abs absX 10000000, .key btnTouch 1] ∧ ¬ InInt 3900000000 ∧
    2147483648 ∈ new.runArithmetic [.key btnTouch 1, .abs absX (-2147483648), .syn] ∧
      ¬ InInt 2147483648 := by
  decide

end TouchHandler

end TouchBridge
