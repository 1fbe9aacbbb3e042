import TouchBridge.Handler.Latch
/-!
# Scroll steps and the vertical travel they account for

`scroll_start_y_` is written twice: by the key-down, to the `y` the contact
starts at, and by each scroll step, to the `y` of that step. A
`SYN_REPORT` in scroll mode emits a step exactly when `y` has left it by
more than `SCROLL_THRESHOLD`, so after every such report the two are
within the threshold (`report_scroll_step`).

Over a contact whose `y` never turns back, each step covers more than the
threshold in the direction of the drag, and the steps add up: `N` steps
account for at least `51 * N` units of the travel from the key-down
(`scroll_count_of_monotone`).
-/

namespace TouchBridge

namespace TouchHandler

variable {h : TouchHandler} {e : InputEvent}

/-- How far `b` lies past `a` in the drag direction: downward (`y` growing)
when `up` is true, upward otherwise. -/
def travel : Bool → Int → Int → Int
  | true, a, b => b - a
  | false, a, b => a - b

/-- The scroll step a drag in direction `up` produces. -/
def scrollDir : Bool → TouchEventType
  | true => .scrollDown
  | false => .scrollUp

/-- **`current_y_` never turns back** along `es`, read from `h` on. -/
def YMonotone (up : Bool) : TouchHandler → List InputEvent → Prop
  | _, [] => True
  | h, e :: es => 0 ≤ travel up h.currentY (h.processEvent e).1.currentY ∧
      YMonotone up (h.processEvent e).1 es

theorem travel_add (up : Bool) (a b c : Int) : travel up a c = travel up a b + travel up b c := by
  cases up <;> simp only [travel] <;> omega

@[simp] theorem travel_self (up : Bool) (a : Int) : travel up a a = 0 := by
  cases up <;> simp only [travel, sub_self]

/-- Along the drag, the distance is the travel. -/
theorem cAbs_eq_travel {up : Bool} {a b : Int} (h : 0 ≤ travel up a b) :
    cAbs (b - a) = travel up a b := by
  cases up <;> simp only [travel, cAbs_def] at h ⊢ <;> omega

/-- A step of more than the threshold along the drag is a step in its direction. -/
theorem scrollType_eq_scrollDir {up : Bool} {a b : Int} (h : scrollThreshold < travel up a b) :
    scrollType (b - a) = scrollDir up := by
  unfold scrollType
  cases up <;> simp only [travel, scrollDir, scrollThreshold] at h ⊢ <;> split_ifs <;>
    first | rfl | omega

@[simp] theorem emit_type (t : TouchEventType) : (h.emit t).type = t := rfl

@[simp] theorem touchUp_currentY : h.touchUp.1.currentY = h.currentY := by
  unfold touchUp; split_ifs <;> rfl

@[simp] theorem touchUp_scrollStartY : h.touchUp.1.scrollStartY = h.scrollStartY := by
  unfold touchUp; split_ifs <;> rfl

/-! ## One `SYN_REPORT` in scroll mode -/

/-- **A `SYN_REPORT` in scroll mode** steps exactly when `y` has left the
anchor by more than the threshold, `SCROLL_DOWN` when it moved down, and
leaves the anchor within the threshold of `y`. -/
theorem report_scroll_step (hb : e.branch = .report) (ha : h.touchActive = true)
    (hs : (h.processEvent e).1.scrollMode = true) :
    (h.processEvent e).2 = (if cAbs (h.currentY - h.scrollStartY) > scrollThreshold
      then [h.emit (scrollType (h.currentY - h.scrollStartY))] else []) ∧
    cAbs ((h.processEvent e).1.currentY - (h.processEvent e).1.scrollStartY) ≤ scrollThreshold := by
  rw [processEvent_of_report hb] at hs ⊢
  rcases h.processMovement_cases with ⟨ha', -⟩ | ⟨-, -, hd, he⟩ | ⟨-, -, hd, he⟩ | ⟨-, hno, -, he⟩ |
    ⟨-, hno, -, he⟩
  · simp [ha] at ha'
  · rw [he, if_pos hd]
    simp [scrollThreshold, cAbs_def]
  · rw [he, if_neg hd]
    exact ⟨rfl, by simpa [scrollThreshold] using hd⟩
  all_goals
    rw [he] at hs
    exact absurd (.inl hs) hno

/-- **Where the anchor comes from**: the key-down sets it to the current
`y`, a scroll step to the `y` it stepped at, and nothing else writes it. -/
theorem scrollStartY_processEvent (e : InputEvent) :
    (h.processEvent e).1.scrollStartY =
      if e.branch = .keyDown ∨ ∃ ev ∈ (h.processEvent e).2, ev.type.IsScroll then h.currentY
      else h.scrollStartY := by
  rw [processEvent_eq]
  cases hb : e.branch
  · simp
  · simp
  · rw [touchUp_snd, touchUp_scrollStartY, if_neg]
    split_ifs <;> simp [emit, TouchEventType.IsScroll]
  · simp only [reduceCtorEq, false_or]
    rcases h.processMovement_cases with ⟨-, he⟩ | ⟨-, -, -, he⟩ | ⟨-, -, -, he⟩ | ⟨-, -, -, he⟩ |
      ⟨-, -, -, he⟩ <;> rw [he]
    · simp
    · simp only [List.mem_singleton, exists_eq_left, emit]
      rw [if_pos]
      unfold scrollType; split_ifs <;> simp [TouchEventType.IsScroll]
    · simp
    · simp [emit, TouchEventType.IsScroll]
    · simp
  · simp

/-! ## A monotone contact -/

/-- One event of a monotone contact: the contact stays open, any step is in
the drag direction and covers more than the threshold, and the anchor stays
behind the finger. -/
theorem processEvent_scroll_travel (up : Bool) (ha : h.touchActive = true) (he : ¬ e.IsTransition)
    (hm : 0 ≤ travel up h.currentY (h.processEvent e).1.currentY)
    (h0 : 0 ≤ travel up h.scrollStartY h.currentY) :
    (h.processEvent e).1.touchActive = true ∧
    (∀ ev ∈ (h.processEvent e).2, ev.type.IsScroll → ev.type = scrollDir up) ∧
    51 * (h.processEvent e).2.countP (fun ev => ev.type.IsScroll) ≤
      travel up h.scrollStartY (h.processEvent e).1.scrollStartY ∧
    0 ≤ travel up (h.processEvent e).1.scrollStartY (h.processEvent e).1.currentY := by
  have hact : (h.processEvent e).1.touchActive = true := by
    rw [processEvent_touchActive_of_not_transition he, ha]
  unfold InputEvent.IsTransition at he
  refine ⟨hact, ?_⟩
  rw [processEvent_eq] at hm ⊢
  cases hb : e.branch <;> simp only [hb] at hm ⊢
  · simp only [List.not_mem_nil, false_implies, implies_true, List.countP_nil, readAxis_scrollStartY,
      travel_self, true_and, Nat.cast_zero, mul_zero, le_refl]
    rw [travel_add up h.scrollStartY h.currentY]
    omega
  · simp_all
  · simp_all
  · rcases h.processMovement_cases with ⟨ha', hp⟩ | ⟨-, -, hd, hp⟩ | ⟨-, -, -, hp⟩ | ⟨-, -, -, hp⟩ |
      ⟨-, -, -, hp⟩ <;> rw [hp]
    · simp [ha] at ha'
    · rw [cAbs_eq_travel h0] at hd
      simp only [List.mem_singleton, forall_eq, emit_type, scrollType_eq_scrollDir hd,
        implies_true, travel_self, le_refl, and_true, true_and]
      rw [List.countP_cons_of_pos _ _ (by cases up <;> simp [scrollDir, TouchEventType.IsScroll])]
      simp only [scrollThreshold, List.countP_nil] at hd ⊢
      omega
    · simpa using h0
    · simp [TouchEventType.IsScroll, h0]
    · simpa using h0
  · simpa using h0

/-- **The steps of a monotone stretch add up**: every step is in the drag
direction, and `N` steps move the anchor at least `51 * N` units along it. -/
theorem scroll_count_of_monotone (up : Bool) {es : List InputEvent} (ha : h.touchActive = true)
    (hes : ∀ e ∈ es, ¬ e.IsTransition) (hm : YMonotone up h es)
    (h0 : 0 ≤ travel up h.scrollStartY h.currentY) :
    (∀ ev ∈ h.emitted es, ev.type.IsScroll → ev.type = scrollDir up) ∧
    51 * (h.emitted es).countP (fun ev => ev.type.IsScroll) ≤
      travel up h.scrollStartY (h.after es).scrollStartY ∧
    0 ≤ travel up (h.after es).scrollStartY (h.after es).currentY := by
  induction es generalizing h with
  | nil => simpa using h0
  | cons e es ih =>
    obtain ⟨hm1, hm2⟩ := hm
    obtain ⟨ha', hdir, hcnt, h0'⟩ :=
      processEvent_scroll_travel up ha (hes e (List.mem_cons_self _ _)) hm1 h0
    obtain ⟨hdir', hcnt', h0''⟩ := ih ha' (fun e he => hes e (List.mem_cons_of_mem _ he)) hm2 h0'
    refine ⟨fun ev hev => ?_, ?_, h0''⟩
    · rcases List.mem_append.1 hev with h1 | h2
      · exact hdir ev h1
      · exact hdir' ev h2
    · rw [emitted_cons, List.countP_append, after_cons,
        travel_add up h.scrollStartY (h.processEvent e).1.scrollStartY]
      omega

/-- A key-down or key-up emits no scroll step. -/
theorem not_isScroll_of_transition (ht : e.IsTransition) {ev : TouchEvent}
    (hev : ev ∈ (h.processEvent e).2) : ¬ ev.type.IsScroll := by
  rcases ht with hb | hb
  · rw [processEvent_of_keyDown hb, touchDown_snd, List.mem_singleton] at hev
    subst hev; simp [TouchEventType.IsScroll]
  · rw [processEvent_of_keyUp hb, touchUp_snd] at hev
    split_ifs at hev
    · rw [List.mem_singleton] at hev; subst hev; simp [TouchEventType.IsScroll]
    · simp at hev

theorem countP_isScroll_of_transition (ht : e.IsTransition) :
    (h.processEvent e).2.countP (fun ev => ev.type.IsScroll) = 0 :=
  List.countP_eq_zero.2 fun _ hev => by simpa using not_isScroll_of_transition ht hev

/-- **The steps of a whole monotone contact add up**: from its key-down to
its key-up, every step is in the drag direction, and `N` steps need at least
`51 * N` units of travel from the key-down. -/
theorem contact_scroll_count (up : Bool) {k u : InputEvent} {body : List InputEvent}
    (hk : k.branch = .keyDown) (hbody : ∀ e ∈ body, ¬ e.IsTransition) (hu : u.branch = .keyUp)
    (hm : YMonotone up h (k :: body)) :
    (∀ ev ∈ h.emitted (k :: body ++ [u]), ev.type.IsScroll → ev.type = scrollDir up) ∧
    51 * (h.emitted (k :: body ++ [u])).countP (fun ev => ev.type.IsScroll) ≤
      cAbs ((h.after (k :: body ++ [u])).currentY - h.currentY) := by
  have hd : h.processEvent k = h.touchDown := processEvent_of_keyDown hk
  obtain ⟨hdir, hcnt, hlast⟩ :=
    scroll_count_of_monotone up (h := h.touchDown.1) rfl hbody (hd ▸ hm.2) (by simp)
  have hy : ((h.touchDown.1.after body).processEvent u).1.currentY =
      (h.touchDown.1.after body).currentY := by
    rw [processEvent_of_keyUp hu, touchUp_currentY]
  rw [show h.touchDown.1.scrollStartY = h.currentY from rfl] at hcnt
  have htot : 0 ≤ travel up h.currentY (h.touchDown.1.after body).currentY := by
    rw [travel_add up h.currentY (h.touchDown.1.after body).scrollStartY]
    omega
  rw [emitted_append, after_append, emitted_cons, after_cons, hd]
  refine ⟨fun ev hev ht => ?_, ?_⟩
  · rcases List.mem_append.1 hev with h1 | h3
    · rcases List.mem_append.1 h1 with h1 | h2
      · exact absurd ht (not_isScroll_of_transition (.inl hk) (hd ▸ h1))
      · exact hdir ev h2 ht
    · exact absurd ht (not_isScroll_of_transition (.inr hu) (by simpa using h3))
  · simp only [List.countP_append, ← hd, countP_isScroll_of_transition (.inl hk), after_cons,
      after_nil, emitted_cons, emitted_nil, List.append_nil,
      countP_isScroll_of_transition (.inr hu)]
    rw [hd, hy, cAbs_eq_travel htot,
      travel_add up h.currentY (h.touchDown.1.after body).scrollStartY]
    omega

/-- **Scroll steps account for the vertical travel.** A
`SYN_REPORT` in scroll mode steps exactly when `y` has left the anchor by
more than 50 units, `SCROLL_DOWN` exactly when that movement is positive,
and leaves the anchor within 50 units of `y`; the anchor is the `y` of the
last step, or of the key-down before the first; and over a whole contact
whose `y` never turns back, every step is in the drag direction and `N`
steps need at least `51 * N` units of travel from the key-down. -/
theorem scroll_accounting :
    (∀ (h : TouchHandler) (e : InputEvent), e.branch = .report → h.touchActive = true →
      (h.processEvent e).1.scrollMode = true →
      (h.processEvent e).2 = (if cAbs (h.currentY - h.scrollStartY) > scrollThreshold
        then [h.emit (scrollType (h.currentY - h.scrollStartY))] else []) ∧
      cAbs ((h.processEvent e).1.currentY - (h.processEvent e).1.scrollStartY) ≤ scrollThreshold) ∧
    (∀ (h : TouchHandler) (e : InputEvent), (h.processEvent e).1.scrollStartY =
      if e.branch = .keyDown ∨ ∃ ev ∈ (h.processEvent e).2, ev.type.IsScroll then h.currentY
      else h.scrollStartY) ∧
    (∀ (h : TouchHandler) (k : InputEvent) (body : List InputEvent) (u : InputEvent) (up : Bool),
      k.branch = .keyDown → (∀ e ∈ body, ¬ e.IsTransition) → u.branch = .keyUp →
      YMonotone up h (k :: body) →
      (∀ ev ∈ h.emitted (k :: body ++ [u]), ev.type.IsScroll → ev.type = scrollDir up) ∧
      51 * (h.emitted (k :: body ++ [u])).countP (fun ev => ev.type.IsScroll) ≤
        cAbs ((h.after (k :: body ++ [u])).currentY - h.currentY)) :=
  ⟨fun _ _ hb ha hs => report_scroll_step hb ha hs, fun _ e => scrollStartY_processEvent e,
    fun _ _ _ _ up hk hbody hu hm => contact_scroll_count up hk hbody hu hm⟩

end TouchHandler

end TouchBridge
