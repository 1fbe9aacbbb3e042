import TouchBridge.Handler.Process
/-!
# Runs of `process_event`

`event_loop` hands `process_event` one event at a time, in the order the
device reports them. `after h es` is the handler once `es` has been
processed and `emitted h es` the events the callback received meanwhile;
both split over `++`. Below them, the arm lemmas read `processEvent_eq`
once per arm, and `processMovement_cases` lists everything the
`SYN_REPORT` arm can do, so that the invariants of the later files are
case analyses over these and never unfold `process_event`.
-/

namespace TouchBridge

namespace TouchHandler

/-- The handler after processing `es` in order. -/
def after : TouchHandler → List InputEvent → TouchHandler
  | h, [] => h
  | h, e :: es => (h.processEvent e).1.after es

/-- The events passed to the callback while `es` is processed. -/
def emitted : TouchHandler → List InputEvent → List TouchEvent
  | _, [] => []
  | h, e :: es => (h.processEvent e).2 ++ (h.processEvent e).1.emitted es

variable (h : TouchHandler)

@[simp] theorem after_nil : h.after [] = h := rfl

@[simp] theorem after_cons (e : InputEvent) (es : List InputEvent) :
    h.after (e :: es) = (h.processEvent e).1.after es := rfl

@[simp] theorem emitted_nil : h.emitted [] = [] := rfl

@[simp] theorem emitted_cons (e : InputEvent) (es : List InputEvent) :
    h.emitted (e :: es) = (h.processEvent e).2 ++ (h.processEvent e).1.emitted es := rfl

theorem after_append (es fs : List InputEvent) : h.after (es ++ fs) = (h.after es).after fs := by
  induction es generalizing h with
  | nil => rfl
  | cons e es ih => exact ih _

theorem emitted_append (es fs : List InputEvent) :
    h.emitted (es ++ fs) = h.emitted es ++ (h.after es).emitted fs := by
  induction es generalizing h with
  | nil => rfl
  | cons e es ih => simp [ih]

/-! ## One event, arm by arm -/

variable {h} {e : InputEvent}

theorem processEvent_of_axis (hb : e.branch = .axis) : h.processEvent e = (h.readAxis e, []) := by
  rw [processEvent_eq, hb]

theorem processEvent_of_keyDown (hb : e.branch = .keyDown) : h.processEvent e = h.touchDown := by
  rw [processEvent_eq, hb]

theorem processEvent_of_keyUp (hb : e.branch = .keyUp) : h.processEvent e = h.touchUp := by
  rw [processEvent_eq, hb]

theorem processEvent_of_report (hb : e.branch = .report) :
    h.processEvent e = h.processMovement := by
  rw [processEvent_eq, hb]

theorem processEvent_of_ignored (hb : e.branch = .ignored) : h.processEvent e = (h, []) := by
  rw [processEvent_eq, hb]

variable (h)

/-! ## What each arm changes -/

@[simp] theorem readAxis_touchActive (e : InputEvent) :
    (h.readAxis e).touchActive = h.touchActive := by
  unfold readAxis; split_ifs <;> rfl

@[simp] theorem readAxis_scrollMode (e : InputEvent) :
    (h.readAxis e).scrollMode = h.scrollMode := by
  unfold readAxis; split_ifs <;> rfl

@[simp] theorem readAxis_lastX (e : InputEvent) : (h.readAxis e).lastX = h.lastX := by
  unfold readAxis; split_ifs <;> rfl

@[simp] theorem readAxis_lastY (e : InputEvent) : (h.readAxis e).lastY = h.lastY := by
  unfold readAxis; split_ifs <;> rfl

@[simp] theorem readAxis_scrollStartY (e : InputEvent) :
    (h.readAxis e).scrollStartY = h.scrollStartY := by
  unfold readAxis; split_ifs <;> rfl

@[simp] theorem touchDown_fst : h.touchDown.1 =
    { h with touchActive := true, lastX := h.currentX, lastY := h.currentY,
             scrollMode := false, scrollStartY := h.currentY } := rfl

@[simp] theorem touchDown_snd : h.touchDown.2 = [h.emit .touchDown] := rfl

@[simp] theorem touchUp_touchActive : h.touchUp.1.touchActive = false := by
  unfold touchUp; split_ifs <;> rfl

@[simp] theorem touchUp_scrollMode : h.touchUp.1.scrollMode = false := by
  unfold touchUp; split_ifs with hs <;> simp_all

/-- **Key-up emits at most a `TOUCH_UP`, and never after a scroll.** -/
theorem touchUp_snd : h.touchUp.2 =
    if h.scrollMode = false ∧ cAbs (h.currentX - h.lastX) < 20 ∧ cAbs (h.currentY - h.lastY) < 20
    then [h.emit .touchUp] else [] := by
  unfold touchUp; split_ifs <;> simp_all

/-- Scroll mode is on for this frame: already latched, or entered by it. -/
def ScrollOn : Prop :=
  h.scrollMode = true ∨ (cAbs (h.currentY - h.lastY) > scrollThreshold ∧
    cAbs (h.currentX - h.lastX) < scrollThreshold / 2)

/-- A move past the 5-unit threshold on either axis. -/
def Moved : Prop := cAbs (h.currentX - h.lastX) > 5 ∨ cAbs (h.currentY - h.lastY) > 5

/-- The direction of a scroll step over `d` source units. -/
def scrollType (d : Int) : TouchEventType := if d > 0 then .scrollDown else .scrollUp

/-- **Everything the `SYN_REPORT` arm can do**: nothing without a contact;
in scroll mode, latch it and step when `y` has left the anchor by more
than the threshold; otherwise report a move past 5 units. -/
theorem processMovement_cases :
    (h.touchActive = false ∧ h.processMovement = (h, [])) ∨
    (h.touchActive = true ∧ h.ScrollOn ∧ cAbs (h.currentY - h.scrollStartY) > scrollThreshold ∧
      h.processMovement = ({ h with scrollMode := true, scrollStartY := h.currentY },
        [h.emit (scrollType (h.currentY - h.scrollStartY))])) ∨
    (h.touchActive = true ∧ h.ScrollOn ∧ ¬ cAbs (h.currentY - h.scrollStartY) > scrollThreshold ∧
      h.processMovement = ({ h with scrollMode := true }, [])) ∨
    (h.touchActive = true ∧ ¬ h.ScrollOn ∧ h.Moved ∧
      h.processMovement = ({ h with lastX := h.currentX, lastY := h.currentY }, [h.emit .touchMove])) ∨
    (h.touchActive = true ∧ ¬ h.ScrollOn ∧ ¬ h.Moved ∧ h.processMovement = (h, [])) := by
  unfold ScrollOn Moved
  by_cases ha : h.touchActive = true
  · by_cases hs : h.scrollMode = true ∨ (cAbs (h.currentY - h.lastY) > scrollThreshold ∧
        cAbs (h.currentX - h.lastX) < scrollThreshold / 2)
    · by_cases hd : cAbs (h.currentY - h.scrollStartY) > scrollThreshold
      · exact .inr (.inl ⟨ha, hs, hd,
          by rw [processMovement, if_pos ha, if_pos hs, if_pos hd]; rfl⟩)
      · exact .inr (.inr (.inl ⟨ha, hs, hd,
          by rw [processMovement, if_pos ha, if_pos hs, if_neg hd]⟩))
    · by_cases hm : cAbs (h.currentX - h.lastX) > 5 ∨ cAbs (h.currentY - h.lastY) > 5
      · exact .inr (.inr (.inr (.inl ⟨ha, hs, hm,
          by rw [processMovement, if_pos ha, if_neg hs, if_pos hm]⟩)))
      · exact .inr (.inr (.inr (.inr ⟨ha, hs, hm,
          by rw [processMovement, if_pos ha, if_neg hs, if_neg hm]⟩)))
  · exact .inl ⟨by simpa using ha, by rw [processMovement, if_neg ha]⟩

@[simp] theorem processMovement_touchActive : h.processMovement.1.touchActive = h.touchActive := by
  rcases h.processMovement_cases with ⟨-, he⟩ | ⟨-, -, -, he⟩ | ⟨-, -, -, he⟩ | ⟨-, -, -, he⟩ |
    ⟨-, -, -, he⟩ <;> rw [he]

@[simp] theorem processMovement_currentX : h.processMovement.1.currentX = h.currentX := by
  rcases h.processMovement_cases with ⟨-, he⟩ | ⟨-, -, -, he⟩ | ⟨-, -, -, he⟩ | ⟨-, -, -, he⟩ |
    ⟨-, -, -, he⟩ <;> rw [he]

@[simp] theorem processMovement_currentY : h.processMovement.1.currentY = h.currentY := by
  rcases h.processMovement_cases with ⟨-, he⟩ | ⟨-, -, -, he⟩ | ⟨-, -, -, he⟩ | ⟨-, -, -, he⟩ |
    ⟨-, -, -, he⟩ <;> rw [he]

/-- The arm latches scroll mode when a contact is open and the frame is in
scroll mode, and otherwise leaves it as it was. -/
theorem processMovement_scrollMode :
    h.processMovement.1.scrollMode = true ↔
      (h.touchActive = true ∧ h.ScrollOn) ∨ h.scrollMode = true := by
  rcases h.processMovement_cases with ⟨ha, he⟩ | ⟨ha, hs, -, he⟩ | ⟨ha, hs, -, he⟩ | ⟨ha, hs, -, he⟩ |
    ⟨ha, hs, -, he⟩ <;> simp_all [ScrollOn]

/-- **The `SYN_REPORT` arm emits only movement, and only with a contact open.** -/
theorem processMovement_snd_type {ev : TouchEvent} (hev : ev ∈ h.processMovement.2) :
    h.touchActive = true ∧ (ev.type = .touchMove ∨ ev.type.IsScroll) := by
  rcases h.processMovement_cases with ⟨ha, he⟩ | ⟨ha, -, -, he⟩ | ⟨ha, -, -, he⟩ | ⟨ha, -, -, he⟩ |
    ⟨ha, -, -, he⟩ <;> rw [he] at hev <;> simp only [List.mem_singleton, List.not_mem_nil] at hev
  · exact ⟨ha, .inr (by
      rw [hev]; unfold scrollType; split_ifs <;> simp [emit, TouchEventType.IsScroll])⟩
  · exact ⟨ha, .inl (by rw [hev]; rfl)⟩

end TouchHandler

end TouchBridge
