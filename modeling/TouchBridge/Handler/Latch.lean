import TouchBridge.Handler.Run
/-!
# The scroll latch, and what a `SYN_REPORT` may emit

Scroll mode is only ever on during a contact (`ScrollInv`, preserved by
every event), and a key-up clears both. Between the `SYN_REPORT` that sets
it and the next key-up nothing clears it, so the rest of the contact emits
only scroll steps (`latch_emitted`) and the key-up emits nothing.

Movement is reported only from the `SYN_REPORT` arm with a contact open,
so a stream without `BTN_TOUCH`/`BTN_LEFT` emits nothing at all. Every
`SYN_REPORT` that leaves a contact out of scroll mode leaves the last
reported position within 5 units of the finger; the one that enters
scroll mode does not (`lag_at_scroll_entry`).
-/

namespace TouchBridge

namespace TouchHandler

open InputCode

variable {h : TouchHandler} {e : InputEvent}

/-- **The scroll invariant**: scroll mode is on only while a contact is. -/
def ScrollInv (h : TouchHandler) : Prop := h.scrollMode = true → h.touchActive = true

theorem new_scrollInv : new.ScrollInv := fun h => nomatch h

/-- Every event keeps the scroll invariant. -/
theorem processEvent_scrollInv (hi : h.ScrollInv) (e : InputEvent) :
    (h.processEvent e).1.ScrollInv := by
  intro hm
  rw [processEvent_eq] at hm ⊢
  cases hb : e.branch <;> simp only [hb] at hm ⊢
  · simpa using hi (by simpa using hm)
  · rfl
  · simp at hm
  · rw [processMovement_touchActive]
    rcases (processMovement_scrollMode h).1 hm with ⟨ha, -⟩ | hs
    · exact ha
    · exact hi hs
  · exact hi hm

theorem after_scrollInv (hi : h.ScrollInv) (es : List InputEvent) : (h.after es).ScrollInv := by
  induction es generalizing h with
  | nil => exact hi
  | cons e es ih => exact ih (processEvent_scrollInv hi e)

/-- A key-up ends the contact and scroll mode with it. -/
theorem keyUp_clears (hb : e.branch = .keyUp) :
    (h.processEvent e).1.scrollMode = false ∧ (h.processEvent e).1.touchActive = false := by
  rw [processEvent_of_keyUp hb]
  exact ⟨touchUp_scrollMode h, touchUp_touchActive h⟩

/-- An event that is no key transition leaves the contact as it was. -/
theorem processEvent_touchActive_of_not_transition (he : ¬ e.IsTransition) :
    (h.processEvent e).1.touchActive = h.touchActive := by
  unfold InputEvent.IsTransition at he
  rw [processEvent_eq]
  cases hb : e.branch <;> simp_all

/-! ## The latch -/

/-- In scroll mode, an event that is no key transition keeps scroll mode
and emits scroll steps only. -/
theorem processEvent_latch (hs : h.scrollMode = true) (he : ¬ e.IsTransition) :
    (h.processEvent e).1.scrollMode = true ∧ ∀ ev ∈ (h.processEvent e).2, ev.type.IsScroll := by
  unfold InputEvent.IsTransition at he
  rw [processEvent_eq]
  cases hb : e.branch
  · simpa using hs
  · simp_all
  · simp_all
  · refine ⟨(processMovement_scrollMode h).2 (.inr hs), fun ev hev => ?_⟩
    rcases h.processMovement_cases with ⟨-, he⟩ | ⟨-, -, -, he⟩ | ⟨-, -, -, he⟩ | ⟨-, hno, -, -⟩ |
      ⟨-, hno, -, -⟩
    · simp [he] at hev
    · exact ((processMovement_snd_type h hev).2.resolve_left (by
        rw [he] at hev; simp only [List.mem_singleton] at hev; subst hev
        unfold scrollType; split_ifs <;> simp [emit]))
    · simp [he] at hev
    · exact absurd (.inl hs) hno
    · exact absurd (.inl hs) hno
  · simpa using hs

/-- **The latch holds for the rest of the contact**: from scroll mode, a
stretch without key transitions keeps it and emits scroll steps only. -/
theorem latch_emitted (hs : h.scrollMode = true) {es : List InputEvent}
    (hes : ∀ e ∈ es, ¬ e.IsTransition) :
    (h.after es).scrollMode = true ∧ ∀ ev ∈ h.emitted es, ev.type.IsScroll := by
  induction es generalizing h with
  | nil => simpa using hs
  | cons e es ih =>
    obtain ⟨hs', hev⟩ := processEvent_latch hs (hes e (List.mem_cons_self _ _))
    obtain ⟨hs'', hev'⟩ := ih hs' (fun e he => hes e (List.mem_cons_of_mem _ he))
    refine ⟨hs'', fun ev hmem => ?_⟩
    rcases List.mem_append.1 hmem with h1 | h2
    · exact hev ev h1
    · exact hev' ev h2

/-- **The scroll invariant and the latch.** Every state reachable
from the constructor has scroll mode only during a contact; a key-up
clears both; and once scroll mode is set, the rest of the contact up to
and including its key-up emits neither `TOUCH_MOVE` nor `TOUCH_UP`. -/
theorem scroll_latch :
    (∀ es : List InputEvent, (new.after es).scrollMode = true → (new.after es).touchActive = true) ∧
    (∀ (h : TouchHandler) (e : InputEvent), e.branch = .keyUp →
      (h.processEvent e).1.scrollMode = false ∧ (h.processEvent e).1.touchActive = false) ∧
    (∀ (h : TouchHandler) (es : List InputEvent) (k : InputEvent), h.scrollMode = true →
      (∀ e ∈ es, ¬ e.IsTransition) → k.branch = .keyUp →
      ∀ ev ∈ h.emitted (es ++ [k]), ev.type ≠ .touchMove ∧ ev.type ≠ .touchUp) := by
  refine ⟨fun es => after_scrollInv new_scrollInv es, fun _ _ => keyUp_clears, ?_⟩
  intro h es k hs hes hk ev hev
  obtain ⟨hs', hscroll⟩ := latch_emitted hs hes
  rw [emitted_append, List.mem_append] at hev
  rcases hev with hev | hev
  · rcases hscroll ev hev with ht | ht <;> rw [ht] <;> decide
  · simp [processEvent_of_keyUp hk, touchUp_snd, hs'] at hev

/-! ## What a `SYN_REPORT` may emit -/

/-- Movement and scroll steps come only from a `SYN_REPORT` with a contact open. -/
theorem motion_of_processEvent {ev : TouchEvent} (hev : ev ∈ (h.processEvent e).2)
    (hm : ev.type = .touchMove ∨ ev.type.IsScroll) :
    e.branch = .report ∧ h.touchActive = true := by
  rw [processEvent_eq] at hev
  cases hb : e.branch <;> simp only [hb] at hev
  · simp at hev
  · simp only [touchDown_snd, List.mem_singleton] at hev
    subst hev
    rcases hm with hm | hm <;> simp [emit, TouchEventType.IsScroll] at hm
  · rw [touchUp_snd] at hev
    split_ifs at hev
    · simp only [List.mem_singleton] at hev
      subst hev
      rcases hm with hm | hm <;> simp [emit, TouchEventType.IsScroll] at hm
    · simp at hev
  · exact ⟨rfl, (processMovement_snd_type h hev).1⟩
  · simp at hev

/-- Without a contact, and without a button event to open one, nothing is emitted. -/
theorem emitted_eq_nil_of_no_button (ha : h.touchActive = false) {es : List InputEvent}
    (hes : ∀ e ∈ es, ¬ e.IsButton) : h.emitted es = [] := by
  induction es generalizing h with
  | nil => rfl
  | cons e es ih =>
    have hne : ¬ e.IsTransition := fun ht =>
      hes e (List.mem_cons_self _ _) (InputEvent.isButton_of_isTransition ht)
    have hout : (h.processEvent e).2 = [] := by
      cases hb : e.branch
      · rw [processEvent_of_axis hb]
      · exact absurd (.inl hb) hne
      · exact absurd (.inr hb) hne
      · rw [processEvent_of_report hb]
        rcases h.processMovement_cases with ⟨-, he⟩ | ⟨ha', -⟩ | ⟨ha', -⟩ | ⟨ha', -⟩ | ⟨ha', -⟩
        · rw [he]
        all_goals simp [ha] at ha'
      · rw [processEvent_of_ignored hb]
    rw [emitted_cons, hout, List.nil_append]
    exact ih (by rw [processEvent_touchActive_of_not_transition hne, ha])
      (fun e he => hes e (List.mem_cons_of_mem _ he))

/-- A `SYN_REPORT` that leaves a contact out of scroll mode leaves the last
reported position within the 5-unit move threshold of the finger. -/
theorem report_lag_le (hb : e.branch = .report) (ha : h.touchActive = true)
    (hs : (h.processEvent e).1.scrollMode = false) :
    cAbs ((h.processEvent e).1.lastX - (h.processEvent e).1.currentX) ≤ 5 ∧
      cAbs ((h.processEvent e).1.lastY - (h.processEvent e).1.currentY) ≤ 5 := by
  rw [processEvent_of_report hb] at hs ⊢
  rcases h.processMovement_cases with ⟨ha', -⟩ | ⟨-, -, -, he⟩ | ⟨-, -, -, he⟩ | ⟨-, -, -, he⟩ |
    ⟨-, -, hm, he⟩
  · simp [ha] at ha'
  · simp [he] at hs
  · simp [he] at hs
  · simp [he, cAbs_def]
  · simp only [Moved, cAbs_def, not_or, not_lt] at hm
    simp only [he, cAbs_def]
    omega

/-- **Movement reporting is gated and tight.**
`TOUCH_MOVE` and scroll steps are emitted only by a `SYN_REPORT` with a
contact open; a stream without `BTN_TOUCH`/`BTN_LEFT` events emits nothing;
and after every `SYN_REPORT` that leaves an open contact out of scroll
mode, `last_x_, last_y_` is within 5 units of `current_x_, current_y_`. -/
theorem movement_gated :
    (∀ (h : TouchHandler) (e : InputEvent), ∀ ev ∈ (h.processEvent e).2,
      (ev.type = .touchMove ∨ ev.type.IsScroll) → e.branch = .report ∧ h.touchActive = true) ∧
    (∀ es : List InputEvent, (∀ e ∈ es, ¬ e.IsButton) → new.emitted es = []) ∧
    (∀ (h : TouchHandler) (e : InputEvent), e.branch = .report → h.touchActive = true →
      (h.processEvent e).1.scrollMode = false →
      cAbs ((h.processEvent e).1.lastX - (h.processEvent e).1.currentX) ≤ 5 ∧
        cAbs ((h.processEvent e).1.lastY - (h.processEvent e).1.currentY) ≤ 5) :=
  ⟨fun _ _ _ hev hm => motion_of_processEvent hev hm,
    fun _ hes => emitted_eq_nil_of_no_button rfl hes,
    fun _ _ hb ha hs => report_lag_le hb ha hs⟩

/-- **The `SYN_REPORT` that enters scroll mode leaves the cursor behind.**
A contact opened at `(0,0)` whose frame reports `y = 100`: that
`SYN_REPORT` is processed with the contact open and scroll mode off, and
afterwards `last_y_` is still `0`. -/
theorem lag_at_scroll_entry :
    (new.after [.key btnTouch 1, .syn, .abs absY 100]).touchActive = true ∧
    (new.after [.key btnTouch 1, .syn, .abs absY 100]).scrollMode = false ∧
    cAbs ((new.after [.key btnTouch 1, .syn, .abs absY 100, .syn]).lastY -
      (new.after [.key btnTouch 1, .syn, .abs absY 100, .syn]).currentY) = 100 := by
  decide

end TouchHandler

end TouchBridge
