import TouchBridge.Handler.Scroll
/-!
# Contacts: taps, vertical drags, and how they are bracketed

A contact runs from a key-down to the next key-up. Three things are
decided over it, and each is decided against `last_x_, last_y_`, the
position of the last `TOUCH_DOWN` or `TOUCH_MOVE`, not against where the
contact began:

* the tap test at the key-up (`touchUp_snd`), so a drag whose last frame
  was reported as a move ends in a click (`tap_after_drag`);
* scroll entry, tested frame by frame, so a drag split into frames of at
  most 50 units never scrolls (`drag_in_small_steps`), while a monotone
  drag that does make the jump scrolls in its direction and ends without a
  click (`vertical_drag_scrolls`);
* nothing at all for bracketing: `TOUCH_DOWN` and `TOUCH_UP` follow the key
  transitions, so they bracket properly exactly when the key-downs and
  key-ups of both codes together alternate (`contact_bracketing`).
-/

namespace TouchBridge

namespace TouchHandler

open InputCode

variable {h : TouchHandler} {e : InputEvent}

/-- Only a key-up emits `TOUCH_UP`. -/
theorem keyUp_of_touchUp {ev : TouchEvent} (hev : ev ∈ (h.processEvent e).2)
    (ht : ev.type = .touchUp) : e.branch = .keyUp := by
  rw [processEvent_eq] at hev
  cases hb : e.branch <;> simp only [hb] at hev
  · simp at hev
  · simp only [touchDown_snd, List.mem_singleton] at hev
    subst hev; simp at ht
  · rfl
  · rcases (processMovement_snd_type h hev).2 with hm | hm | hm <;> rw [hm] at ht <;> cases ht
  · simp at hev

/-! ## The tap test -/

/-- **The tap test reads the last reported position.** A contact opened at
`(0,0)` that moves 100 units right in one frame and is then released emits
`TOUCH_DOWN`, `TOUCH_MOVE` and a `TOUCH_UP`: the key-up finds the finger at
the last reported position, although it ended 100 units from where it
started. -/
theorem tap_after_drag :
    (new.after [.key btnTouch 1]).currentX = 0 ∧
    (new.after [.key btnTouch 1, .syn, .abs absX 100, .syn]).currentX = 100 ∧
    new.emitted [.key btnTouch 1, .syn, .abs absX 100, .syn, .key btnTouch 0] =
      [⟨.touchDown, 0, 0⟩, ⟨.touchMove, 48, 0⟩, ⟨.touchUp, 48, 0⟩] := by
  decide

/-! ## Vertical drags -/

/-- **A drag in 50-unit steps never scrolls.** Four frames of 50 units each
carry a contact 200 units down, one frame at a time: each is reported as a
move, scroll mode is never entered, and the release is a click. -/
theorem drag_in_small_steps :
    new.emitted [.key btnTouch 1, .syn, .abs absY 50, .syn, .abs absY 100, .syn,
      .abs absY 150, .syn, .abs absY 200, .syn, .key btnTouch 0, .syn] =
      [⟨.touchDown, 0, 0⟩, ⟨.touchMove, 0, 87⟩, ⟨.touchMove, 0, 175⟩, ⟨.touchMove, 0, 263⟩,
        ⟨.touchMove, 0, 351⟩, ⟨.touchUp, 0, 351⟩] := by
  decide

/-- The scroll entry test of a frame: more than the threshold vertically and
less than half of it horizontally from the last reported position. -/
def Jump (h : TouchHandler) : Prop :=
  cAbs (h.currentY - h.lastY) > scrollThreshold ∧ cAbs (h.currentX - h.lastX) < scrollThreshold / 2

/-- Before scroll mode, in a contact opened at `y₀` whose `y` never turns
back: the anchor is still `y₀`, and the last reported `y` lies between
`y₀` and the finger. -/
def DragInv (up : Bool) (y₀ : Int) (h : TouchHandler) : Prop :=
  h.touchActive = true ∧ (h.scrollMode = false →
    h.scrollStartY = y₀ ∧ 0 ≤ travel up y₀ h.lastY ∧ 0 ≤ travel up h.lastY h.currentY)

theorem processEvent_dragInv {up : Bool} {y₀ : Int} (hi : DragInv up y₀ h) (he : ¬ e.IsTransition)
    (hm : 0 ≤ travel up h.currentY (h.processEvent e).1.currentY) :
    DragInv up y₀ (h.processEvent e).1 := by
  obtain ⟨ha, hi⟩ := hi
  refine ⟨by rw [processEvent_touchActive_of_not_transition he, ha], fun hs => ?_⟩
  unfold InputEvent.IsTransition at he
  rw [processEvent_eq] at hm hs ⊢
  cases hb : e.branch <;> simp only [hb] at hm hs ⊢
  · obtain ⟨h1, h2, h3⟩ := hi (by simpa using hs)
    simp only [readAxis_scrollStartY, readAxis_lastY, h1, h2, true_and]
    rw [travel_add up h.lastY h.currentY]; omega
  · simp_all
  · simp_all
  · rcases h.processMovement_cases with ⟨ha', hp⟩ | ⟨-, -, -, hp⟩ | ⟨-, -, -, hp⟩ | ⟨-, hno, -, hp⟩ |
      ⟨-, hno, -, hp⟩ <;> rw [hp] at hs ⊢
    · simp [ha] at ha'
    · simp at hs
    · simp at hs
    · obtain ⟨h1, h2, h3⟩ := hi hs
      simp only [h1, travel_self, le_refl, and_true, true_and]
      rw [travel_add up y₀ h.lastY]; omega
    · exact hi hs
  · exact hi hs

theorem after_dragInv {up : Bool} {y₀ : Int} {es : List InputEvent} (hi : DragInv up y₀ h)
    (hes : ∀ e ∈ es, ¬ e.IsTransition) (hm : YMonotone up h es) :
    DragInv up y₀ (h.after es) := by
  induction es generalizing h with
  | nil => exact hi
  | cons e es ih =>
    exact ih (processEvent_dragInv hi (hes e (List.mem_cons_self _ _)) hm.1)
      (fun e he => hes e (List.mem_cons_of_mem _ he)) hm.2

/-- **The frame that enters scroll mode steps at once**, in the drag
direction: the finger is past the last report by more than the threshold,
and the last report is past the anchor. -/
theorem report_enters_scroll {up : Bool} {y₀ : Int} (hi : DragInv up y₀ h)
    (hs : h.scrollMode = false) (hj : Jump h) (hb : e.branch = .report) :
    (h.processEvent e).1.scrollMode = true ∧
      (h.processEvent e).2 = [h.emit (scrollDir up)] := by
  obtain ⟨ha, h1, h2, h3⟩ := And.imp_right (· hs) hi
  have hon : h.ScrollOn := .inr hj
  have hj' : scrollThreshold < travel up h.lastY h.currentY := by
    rw [← cAbs_eq_travel h3]; exact hj.1
  have hd : scrollThreshold < travel up h.scrollStartY h.currentY := by
    rw [h1, travel_add up y₀ h.lastY]; omega
  have h0 : 0 ≤ travel up h.scrollStartY h.currentY := by unfold scrollThreshold at hd; omega
  rw [processEvent_of_report hb]
  rcases h.processMovement_cases with ⟨ha', -⟩ | ⟨-, -, -, hp⟩ | ⟨-, -, hn, -⟩ | ⟨-, hno, -⟩ |
    ⟨-, hno, -⟩
  · simp [ha] at ha'
  · rw [hp, ← scrollType_eq_scrollDir hd]; exact ⟨rfl, rfl⟩
  · exact absurd (by rw [cAbs_eq_travel h0]; exact hd) hn
  · exact absurd hon hno
  · exact absurd hon hno

/-- Events that open or close nothing emit no `TOUCH_UP`. -/
theorem no_touchUp_of_no_transition {es : List InputEvent} (hes : ∀ e ∈ es, ¬ e.IsTransition) :
    ∀ ev ∈ h.emitted es, ev.type ≠ .touchUp := by
  induction es generalizing h with
  | nil => simp
  | cons e es ih =>
    intro ev hev ht
    rcases List.mem_append.1 hev with h1 | h2
    · exact hes e (List.mem_cons_self _ _) (.inr (keyUp_of_touchUp h1 ht))
    · exact ih (fun e he => hes e (List.mem_cons_of_mem _ he)) ev h2 ht

/-- **Vertical drags that make the jump scroll.**
Take a contact from any handler whose `y` never turns back up to a
`SYN_REPORT` that, out of scroll mode, finds the finger more than 50 units
vertically and less than 25 horizontally from the last reported position.
The contact emits `TOUCH_DOWN` first, a scroll step in the drag direction
at that report, and no `TOUCH_UP`, however its remaining frames run. -/
theorem vertical_drag_scrolls :
    ∀ (h : TouchHandler) (k : InputEvent) (pre : List InputEvent) (s : InputEvent)
      (post : List InputEvent) (u : InputEvent) (up : Bool),
      k.branch = .keyDown → (∀ e ∈ pre, ¬ e.IsTransition) → s.branch = .report →
      (∀ e ∈ post, ¬ e.IsTransition) → u.branch = .keyUp →
      YMonotone up h (k :: pre) → (h.after (k :: pre)).scrollMode = false →
      Jump (h.after (k :: pre)) →
      (h.emitted (k :: pre ++ s :: post ++ [u])).head? = some (h.emit .touchDown) ∧
      ((h.after (k :: pre)).processEvent s).2 = [(h.after (k :: pre)).emit (scrollDir up)] ∧
      ∀ ev ∈ h.emitted (k :: pre ++ s :: post ++ [u]), ev.type ≠ .touchUp := by
  intro h k pre s post u up hk hpre hs hpost hu hm hoff hj
  have hd : h.processEvent k = h.touchDown := processEvent_of_keyDown hk
  have hi₀ : DragInv up h.currentY (h.processEvent k).1 := by
    rw [hd]; exact ⟨rfl, fun _ => ⟨rfl, by simp, by simp⟩⟩
  have hi : DragInv up h.currentY (h.after (k :: pre)) :=
    after_dragInv (h := (h.processEvent k).1) hi₀ hpre hm.2
  obtain ⟨hon, hstep⟩ := report_enters_scroll hi hoff hj hs
  obtain ⟨hon', hscroll⟩ := latch_emitted hon hpost
  have hup : (h.after (k :: pre ++ s :: post)).emitted [u] = [] := by
    rw [after_append, after_cons (h.after (k :: pre)) s post, emitted_cons, emitted_nil,
      List.append_nil, processEvent_of_keyUp hu, touchUp_snd, hon']
    simp
  have hsplit : h.emitted (k :: pre ++ s :: post ++ [u]) =
      h.emit .touchDown :: ((h.processEvent k).1.emitted pre ++
        ((h.after (k :: pre)).emit (scrollDir up) ::
          ((h.after (k :: pre)).processEvent s).1.emitted post)) := by
    rw [emitted_append, hup, List.append_nil, emitted_append, emitted_cons (h.after (k :: pre)),
      hstep, emitted_cons, hd]
    rfl
  rw [hsplit]
  refine ⟨rfl, hstep, fun ev hev ht => ?_⟩
  simp only [List.mem_cons, List.mem_append] at hev
  rcases hev with hev | hev | hev | hev
  · subst hev; simp at ht
  · exact no_touchUp_of_no_transition hpre ev hev ht
  · subst hev; cases up <;> simp [scrollDir] at ht
  · rcases hscroll ev hev with h' | h' <;> rw [h'] at ht <;> cases ht

/-- A contact opened at `(0,0)` whose first frame jumps 100 units down
scrolls down and ends without a click. -/
theorem vertical_drag_scrolls_at_jump :
    YMonotone true new [.key btnTouch 1, .syn, .abs absY 100] ∧
    (new.after [.key btnTouch 1, .syn, .abs absY 100]).scrollMode = false ∧
    Jump (new.after [.key btnTouch 1, .syn, .abs absY 100]) ∧
    ((new.after [.key btnTouch 1, .syn, .abs absY 100]).processEvent .syn).2 =
      [(new.after [.key btnTouch 1, .syn, .abs absY 100]).emit .scrollDown] ∧
    ∀ ev ∈ new.emitted [.key btnTouch 1, .syn, .abs absY 100, .syn, .key btnTouch 0],
      ev.type ≠ .touchUp := by
  have hm : YMonotone true new [.key btnTouch 1, .syn, .abs absY 100] := by
    simp only [YMonotone]; decide
  have hj : Jump (new.after [.key btnTouch 1, .syn, .abs absY 100]) := by unfold Jump; decide
  obtain ⟨-, hs, hu⟩ := vertical_drag_scrolls new (.key btnTouch 1) [.syn, .abs absY 100] .syn []
    (.key btnTouch 0) true (by decide) (by decide) (by decide) (by decide) (by decide) hm (by decide) hj
  exact ⟨hm, by decide, hj, hs, hu⟩

/-! ## Bracketing -/

/-- The key transitions of `es` alternate, starting from a key-down when no
contact is open (`pressed = false`): both codes count as one key. -/
def KeysAlternate : Bool → List InputEvent → Prop
  | _, [] => True
  | pressed, e :: es =>
    (e.branch = .keyDown → pressed = false) ∧ (e.branch = .keyUp → pressed = true) ∧
      KeysAlternate (if e.branch = .keyDown then true else if e.branch = .keyUp then false
        else pressed) es

/-- Reads the `TOUCH_DOWN`/`TOUCH_UP` events of a stream, `opened` saying
whether a `TOUCH_DOWN` is still unmatched: `none` at a `TOUCH_UP` that
closes nothing. -/
def bracket : Bool → List TouchEvent → Option Bool
  | opened, [] => some opened
  | opened, ev :: evs =>
    match ev.type with
    | .touchDown => bracket true evs
    | .touchUp => if opened then bracket false evs else none
    | _ => bracket opened evs

theorem bracket_append (o : Bool) (l₁ l₂ : List TouchEvent) :
    bracket o (l₁ ++ l₂) = (bracket o l₁).bind (bracket · l₂) := by
  induction l₁ generalizing o with
  | nil => rfl
  | cons ev l₁ ih =>
    obtain ⟨t, x, y⟩ := ev
    cases t <;> cases o <;> simp [bracket, ih]

/-- Only a key-down emits `TOUCH_DOWN`. -/
theorem keyDown_of_touchDown {ev : TouchEvent} (hev : ev ∈ (h.processEvent e).2)
    (ht : ev.type = .touchDown) : e.branch = .keyDown := by
  rw [processEvent_eq] at hev
  cases hb : e.branch <;> simp only [hb] at hev
  · simp at hev
  · rfl
  · rw [touchUp_snd] at hev
    split_ifs at hev
    · rw [List.mem_singleton] at hev; subst hev; simp at ht
    · simp at hev
  · rcases (processMovement_snd_type h hev).2 with hm | hm | hm <;> rw [hm] at ht <;> cases ht
  · simp at hev

/-- The contact follows the key transitions exactly as `KeysAlternate` does. -/
theorem processEvent_touchActive (e : InputEvent) : (h.processEvent e).1.touchActive =
    if e.branch = .keyDown then true else if e.branch = .keyUp then false else h.touchActive := by
  split_ifs with h1 h2
  · rw [processEvent_of_keyDown h1]; rfl
  · rw [processEvent_of_keyUp h2, touchUp_touchActive]
  · exact processEvent_touchActive_of_not_transition (by rintro (h' | h') <;> contradiction)

theorem keysAlternate_after {es rest : List InputEvent}
    (halt : KeysAlternate h.touchActive (es ++ rest)) :
    KeysAlternate (h.after es).touchActive rest := by
  induction es generalizing h with
  | nil => exact halt
  | cons e es ih =>
    obtain ⟨-, -, hrest⟩ := halt
    exact ih (by rwa [processEvent_touchActive])

/-- One event keeps the bracketing in step with the contact. -/
theorem processEvent_bracket {o : Bool} (ho : h.touchActive = true → o = true)
    (hu : e.branch = .keyUp → h.touchActive = true) :
    ∃ o', bracket o (h.processEvent e).2 = some o' ∧ ((h.processEvent e).1.touchActive = true → o' = true) := by
  rw [processEvent_eq]
  cases hb : e.branch <;> simp only
  · exact ⟨o, rfl, by simpa using ho⟩
  · exact ⟨true, by simp [bracket, emit], fun _ => rfl⟩
  · rw [touchUp_snd]
    split_ifs
    · exact ⟨false, by simp [bracket, emit, ho (hu hb)], by simp⟩
    · exact ⟨o, rfl, by simp⟩
  · refine ⟨o, ?_, by simpa using ho⟩
    rcases h.processMovement_cases with ⟨-, hp⟩ | ⟨-, -, -, hp⟩ | ⟨-, -, -, hp⟩ | ⟨-, -, -, hp⟩ |
      ⟨-, -, -, hp⟩ <;> rw [hp] <;> try rfl
    · simp only [bracket, emit]; unfold scrollType; split_ifs <;> rfl
  · exact ⟨o, rfl, ho⟩

theorem after_bracket {es : List InputEvent} {o : Bool} (ho : h.touchActive = true → o = true)
    (halt : KeysAlternate h.touchActive es) :
    (bracket o (h.emitted es)).isSome := by
  induction es generalizing h o with
  | nil => rfl
  | cons e es ih =>
    obtain ⟨-, hu, hrest⟩ := halt
    obtain ⟨o', hb, ho'⟩ := processEvent_bracket ho hu
    rw [emitted_cons, bracket_append, hb, Option.some_bind]
    exact ih ho' (by rwa [processEvent_touchActive])

/-- **Contact bracketing.** In every stream from
the constructor whose key-downs and key-ups of `BTN_TOUCH` and `BTN_LEFT`
taken together alternate, a key-down first: no `TOUCH_UP` is emitted
without an unmatched `TOUCH_DOWN` before it (the emitted `TOUCH_DOWN`s and
`TOUCH_UP`s have the shape `(TOUCH_DOWN TOUCH_UP?)*`, since a contact may
end without one), and every `TOUCH_DOWN` is emitted while no contact is
open. -/
theorem contact_bracketing :
    (∀ es : List InputEvent, KeysAlternate false es → (bracket false (new.emitted es)).isSome) ∧
    (∀ (pre : List InputEvent) (e : InputEvent) (rest : List InputEvent),
      KeysAlternate false (pre ++ e :: rest) →
      ∀ ev ∈ ((new.after pre).processEvent e).2, ev.type = .touchDown →
        (new.after pre).touchActive = false) :=
  ⟨fun _ halt => after_bracket (fun h => nomatch h) halt,
    fun _ _ _ halt _ hev ht => (keysAlternate_after (h := new) halt).1 (keyDown_of_touchDown hev ht)⟩

/-- **Each code alternating on its own is not enough, and not every contact
closes.** A device that reports `BTN_TOUCH` and `BTN_LEFT` together emits
two `TOUCH_DOWN`s; a handler started while a finger is down emits a
`TOUCH_UP` first; and a contact released 100 units from its last report
emits no `TOUCH_UP`, so the next contact's `TOUCH_DOWN` follows its own. -/
theorem double_touchDown :
    new.emitted [.key btnTouch 1, .key btnLeft 1] = [⟨.touchDown, 0, 0⟩, ⟨.touchDown, 0, 0⟩] ∧
    new.emitted [.key btnTouch 0] = [⟨.touchUp, 0, 0⟩] ∧
    new.emitted [.key btnTouch 1, .abs absX 100, .key btnTouch 0, .key btnTouch 1, .key btnTouch 0] =
      [⟨.touchDown, 0, 0⟩, ⟨.touchDown, 48, 0⟩, ⟨.touchUp, 48, 0⟩] := by
  decide

end TouchHandler

end TouchBridge
