import TouchBridge.Handler.Run
/-!
# The order of events inside a frame

`process_event` acts on each event as it arrives: a key-down opens the
contact at once, at whatever `current_x_, current_y_` hold then. Only the
axis reports commute among themselves: two different axes write two
different members (`readAxis_comm`), so any reordering of a block of axis
reports, with at most one per axis, leaves the run as it was
(`after_perm_axis`). A key-down does not commute with them: it reads the
axes reported before it and none reported after (`emitted_keyDown_after_axis`),
so a frame that reports `BTN_TOUCH` before `ABS_X`/`ABS_Y`, as multitouch
pointer emulation does, opens its contact at the previous position
(`keyDown_first_frame`).
-/

namespace TouchBridge

namespace TouchHandler

open InputCode

variable {h : TouchHandler}

/-- What an axis report writes, whatever the handler: `current_x_`,
`current_y_`, or nothing. -/
theorem readAxis_cases (e : InputEvent) :
    (e.code = absX ∧ ∀ h : TouchHandler, h.readAxis e = { h with currentX := e.value }) ∨
      (e.code = absY ∧ ∀ h : TouchHandler, h.readAxis e = { h with currentY := e.value }) ∨
      ∀ h : TouchHandler, h.readAxis e = h := by
  by_cases hx : e.code = absX
  · exact .inl ⟨hx, fun h => if_pos hx⟩
  by_cases hy : e.code = absY
  · exact .inr (.inl ⟨hy, fun h => (if_neg hx).trans (if_pos hy)⟩)
  · exact .inr (.inr fun h => (if_neg hx).trans (if_neg hy))

/-- **Two different axes commute.** -/
theorem readAxis_comm {a b : InputEvent} (hab : a.code ≠ b.code) :
    (h.readAxis a).readAxis b = (h.readAxis b).readAxis a := by
  rcases readAxis_cases a with ⟨ha, ea⟩ | ⟨ha, ea⟩ | ea <;>
    rcases readAxis_cases b with ⟨hb, eb⟩ | ⟨hb, eb⟩ | eb <;>
    simp only [ea, eb]
  exacts [absurd (ha.trans hb.symm) hab, absurd (ha.trans hb.symm) hab]

/-- A block of axis reports emits nothing and only folds `readAxis` over the handler. -/
theorem after_axis {f : List InputEvent} (hf : ∀ e ∈ f, e.branch = .axis) :
    h.after f = f.foldl readAxis h ∧ h.emitted f = [] := by
  induction f generalizing h with
  | nil => exact ⟨rfl, rfl⟩
  | cons e f ih =>
    have hb := hf e (List.mem_cons_self _ _)
    obtain ⟨h1, h2⟩ := ih (h := h.readAxis e) fun e he => hf e (List.mem_cons_of_mem _ he)
    simp [processEvent_of_axis hb, h1, h2]

/-- **Reordering axis reports changes nothing**: two orderings of a block of
axis reports, at most one per axis, leave the same handler and emit the
same events, wherever the block stands in the stream. -/
theorem after_perm_axis {pre f₁ f₂ rest : List InputEvent} (hp : f₁.Perm f₂)
    (hf : ∀ e ∈ f₁, e.branch = .axis) (hn : (f₁.map InputEvent.code).Nodup) :
    h.after (pre ++ f₁ ++ rest) = h.after (pre ++ f₂ ++ rest) ∧
      h.emitted (pre ++ f₁ ++ rest) = h.emitted (pre ++ f₂ ++ rest) := by
  have hf₂ : ∀ e ∈ f₂, e.branch = .axis := fun e he => hf e (hp.mem_iff.2 he)
  have hfold : f₁.foldl readAxis (h.after pre) = f₂.foldl readAxis (h.after pre) :=
    hp.foldl_eq' (fun x hx y hy z => by
      by_cases hxy : x = y
      · rw [hxy]
      · exact readAxis_comm fun hc => hxy (List.inj_on_of_nodup_map hn hx hy hc)) _
  obtain ⟨ha₁, he₁⟩ := after_axis (h := h.after pre) hf
  obtain ⟨ha₂, he₂⟩ := after_axis (h := h.after pre) hf₂
  simp only [after_append, emitted_append, ha₁, ha₂, he₁, he₂, hfold, and_self]

/-- **A key-down reads only the axes reported before it**: after a block of
axis reports, it emits `TOUCH_DOWN` at the position they set, whatever the
frame reports after it. -/
theorem emitted_keyDown_after_axis {pre rest : List InputEvent} {k : InputEvent}
    (hpre : ∀ e ∈ pre, e.branch = .axis) (hk : k.branch = .keyDown) :
    h.emitted (pre ++ k :: rest) =
      (h.after pre).emit .touchDown :: (h.after (pre ++ [k])).emitted rest := by
  rw [emitted_append, (after_axis hpre).2, emitted_cons, after_append, after_cons, after_nil,
    processEvent_of_keyDown hk]
  rfl

/-- **What the order inside a frame changes.**
Reordering the axis reports of a frame among themselves (at most one per
axis, each key event staying where it is relative to them) changes
neither the emitted events nor the state, from any handler; and the
`TOUCH_DOWN` a key-down emits carries the position set by the axis reports
before it in the frame, whatever is reported after it. -/
theorem frame_order :
    (∀ (h : TouchHandler) (pre f₁ f₂ rest : List InputEvent), f₁.Perm f₂ →
      (∀ e ∈ f₁, e.branch = .axis) → (f₁.map InputEvent.code).Nodup →
      h.after (pre ++ f₁ ++ rest) = h.after (pre ++ f₂ ++ rest) ∧
        h.emitted (pre ++ f₁ ++ rest) = h.emitted (pre ++ f₂ ++ rest)) ∧
    (∀ (h : TouchHandler) (pre : List InputEvent) (k : InputEvent) (rest : List InputEvent),
      (∀ e ∈ pre, e.branch = .axis) → k.branch = .keyDown →
      h.emitted (pre ++ k :: rest) =
        (h.after pre).emit .touchDown :: (h.after (pre ++ [k])).emitted rest) :=
  ⟨fun _ _ _ _ _ hp hf hn => after_perm_axis hp hf hn,
    fun _ _ _ _ hpre hk => emitted_keyDown_after_axis hpre hk⟩

/-- **Key-down first, axes after: the contact opens at the old position.**
From the constructor, the frame `BTN_TOUCH 1, ABS_X 100, ABS_Y 100,
SYN_REPORT` emits `TOUCH_DOWN` at `(0,0)` and then a `TOUCH_MOVE`, while
its permutation with the key-down last emits one `TOUCH_DOWN` at the
mapped `(100,100)`. -/
theorem keyDown_first_frame :
    [.key btnTouch 1, .abs absX 100, .abs absY 100].Perm
      [InputEvent.abs absX 100, .abs absY 100, .key btnTouch 1] ∧
    new.emitted [.key btnTouch 1, .abs absX 100, .abs absY 100, .syn] =
      [⟨.touchDown, 0, 0⟩, ⟨.touchMove, 48, 175⟩] ∧
    new.emitted [.abs absX 100, .abs absY 100, .key btnTouch 1, .syn] = [⟨.touchDown, 48, 175⟩] := by
  decide

end TouchHandler

end TouchBridge
