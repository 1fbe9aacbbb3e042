import TouchBridge.Handler.Run
/-!
# Configuring the mapping

`set_screen_resolution` and `set_coordinate_mapping` store what they are
given: neither checks a dimension, so a zero or negative one is accepted
and a zero screen dimension reaches `map_coordinates`'s division on the
next touch (`zero_dimension_accepted`), which is then undefined
(`mapCoordinates_eq_none`). What holds is conditional on the
callers: as long as every configuration they pass is positive, the
mapping stays positive (`PositiveMapping`, kept by every request),
`map_coordinates` divides by positive numbers only, and its clamp puts
every emitted event inside the target screen (`mapping_in_range`).
-/

namespace TouchBridge

namespace TouchHandler

open InputCode

variable (h : TouchHandler)

/-- **`set_screen_resolution`**. -/
def setScreenResolution (width height : Int) : TouchHandler :=
  { h with screenWidth := width, screenHeight := height }

/-- **`set_coordinate_mapping`**. -/
def setCoordinateMapping (rpiWidth rpiHeight targetWidth targetHeight : Int) : TouchHandler :=
  { h with screenWidth := rpiWidth, screenHeight := rpiHeight, targetWidth := targetWidth,
           targetHeight := targetHeight }

/-- A call on a running handler: a configuration call, or an event the
reader thread passes to `process_event`. -/
inductive Request
  | setScreenResolution (width height : Int)
  | setCoordinateMapping (rpiWidth rpiHeight targetWidth targetHeight : Int)
  | event (e : InputEvent)
deriving DecidableEq, Repr

/-- Every dimension a request passes is positive. -/
def Request.Positive : Request → Prop
  | .setScreenResolution w h => 0 < w ∧ 0 < h
  | .setCoordinateMapping a b c d => 0 < a ∧ 0 < b ∧ 0 < c ∧ 0 < d
  | .event _ => True

instance : DecidablePred Request.Positive := fun r =>
  match r with
  | .setScreenResolution w h => inferInstanceAs (Decidable (0 < w ∧ 0 < h))
  | .setCoordinateMapping a b c d => inferInstanceAs (Decidable (0 < a ∧ 0 < b ∧ 0 < c ∧ 0 < d))
  | .event _ => inferInstanceAs (Decidable True)

/-- One request: the new handler and the events it emits. -/
def handle : Request → TouchHandler × List TouchEvent
  | .setScreenResolution w ht => (h.setScreenResolution w ht, [])
  | .setCoordinateMapping a b c d => (h.setCoordinateMapping a b c d, [])
  | .event e => h.processEvent e

/-- The handler after serving `rs` in order. -/
def serve : TouchHandler → List Request → TouchHandler
  | h, [] => h
  | h, r :: rs => (h.handle r).1.serve rs

theorem serve_append (rs qs : List Request) : h.serve (rs ++ qs) = (h.serve rs).serve qs := by
  induction rs generalizing h with
  | nil => rfl
  | cons r rs ih => exact ih _

/-- **All four dimensions positive.** -/
def PositiveMapping : Prop :=
  0 < h.screenWidth ∧ 0 < h.screenHeight ∧ 0 < h.targetWidth ∧ 0 < h.targetHeight

/-- `process_event` never touches the mapping. -/
theorem processEvent_dims (e : InputEvent) :
    (h.processEvent e).1.screenWidth = h.screenWidth ∧
    (h.processEvent e).1.screenHeight = h.screenHeight ∧
    (h.processEvent e).1.targetWidth = h.targetWidth ∧
    (h.processEvent e).1.targetHeight = h.targetHeight := by
  rw [processEvent_eq]
  cases e.branch
  · unfold readAxis; split_ifs <;> exact ⟨rfl, rfl, rfl, rfl⟩
  · exact ⟨rfl, rfl, rfl, rfl⟩
  · unfold touchUp; split_ifs <;> exact ⟨rfl, rfl, rfl, rfl⟩
  · rcases h.processMovement_cases with ⟨-, hp⟩ | ⟨-, -, -, hp⟩ | ⟨-, -, -, hp⟩ | ⟨-, -, -, hp⟩ |
      ⟨-, -, -, hp⟩ <;> rw [hp] <;> exact ⟨rfl, rfl, rfl, rfl⟩
  · exact ⟨rfl, rfl, rfl, rfl⟩

/-- Every event `process_event` emits is `emit` of the handler it was given:
the mapped position of `current_x_, current_y_` under that mapping. -/
theorem eq_emit_of_mem {e : InputEvent} {ev : TouchEvent} (hev : ev ∈ (h.processEvent e).2) :
    ∃ t, ev = h.emit t := by
  rw [processEvent_eq] at hev
  cases hb : e.branch <;> simp only [hb] at hev
  · simp at hev
  · exact ⟨_, List.mem_singleton.1 hev⟩
  · rw [touchUp_snd] at hev
    split_ifs at hev
    · exact ⟨_, List.mem_singleton.1 hev⟩
    · simp at hev
  · rcases h.processMovement_cases with ⟨-, hp⟩ | ⟨-, -, -, hp⟩ | ⟨-, -, -, hp⟩ | ⟨-, -, -, hp⟩ |
      ⟨-, -, -, hp⟩ <;> rw [hp] at hev <;> simp only [List.mem_singleton, List.not_mem_nil] at hev
    all_goals exact ⟨_, hev⟩
  · simp at hev

variable {h}

/-- **The clamp keeps every event on the target screen.** -/
theorem emit_mem_target (hp : h.PositiveMapping) (t : TouchEventType) :
    0 ≤ (h.emit t).x ∧ (h.emit t).x ≤ h.targetWidth - 1 ∧
      0 ≤ (h.emit t).y ∧ (h.emit t).y ≤ h.targetHeight - 1 := by
  obtain ⟨hsw, hsh, hw, hh⟩ := hp
  simp only [emit, h.mapCoordinates_of_ne_zero hsw.ne' hsh.ne', Option.getD_some]
  omega

theorem handle_positiveMapping (hp : h.PositiveMapping) {r : Request} (hr : r.Positive) :
    (h.handle r).1.PositiveMapping := by
  cases r with
  | setScreenResolution w ht => exact ⟨hr.1, hr.2, hp.2.2⟩
  | setCoordinateMapping a b c d => exact hr
  | event e =>
    obtain ⟨h1, h2, h3, h4⟩ := h.processEvent_dims e
    simp only [handle, PositiveMapping, h1, h2, h3, h4]
    exact hp

theorem serve_positiveMapping (hp : h.PositiveMapping) {rs : List Request}
    (hrs : ∀ r ∈ rs, r.Positive) : (h.serve rs).PositiveMapping := by
  induction rs generalizing h with
  | nil => exact hp
  | cons r rs ih =>
    exact ih (handle_positiveMapping hp (hrs r (List.mem_cons_self _ _)))
      (fun r hr => hrs r (List.mem_cons_of_mem _ hr))

/-- **Positive configurations keep the mapping
sound.** Along every sequence of configuration calls and input events from
the constructor in which every configuration passes positive dimensions,
`map_coordinates` divides by positive numbers only, and every emitted
event lies in `[0, target_width_ - 1] × [0, target_height_ - 1]` of the
mapping in force when it is emitted. -/
theorem mapping_in_range :
    ∀ (pre : List Request) (r : Request), (∀ q ∈ pre ++ [r], q.Positive) →
      0 < (new.serve pre).screenWidth ∧ 0 < (new.serve pre).screenHeight ∧
      ∀ ev ∈ ((new.serve pre).handle r).2,
        0 ≤ ev.x ∧ ev.x ≤ (new.serve pre).targetWidth - 1 ∧
          0 ≤ ev.y ∧ ev.y ≤ (new.serve pre).targetHeight - 1 := by
  intro pre r hall
  have hp : (new.serve pre).PositiveMapping :=
    serve_positiveMapping (by unfold PositiveMapping; decide) fun q hq =>
      hall q (List.mem_append_left _ hq)
  refine ⟨hp.1, hp.2.1, fun ev hev => ?_⟩
  cases r with
  | event e =>
    obtain ⟨t, rfl⟩ := eq_emit_of_mem _ hev
    exact emit_mem_target hp t
  | _ => simp [handle] at hev

/-- A touch after a positive reconfiguration lands on the new target. -/
theorem mapping_in_range_after_setCoordinateMapping :
    (∀ q ∈ [Request.setCoordinateMapping 800 480 1170 2532] ++ [.event (.key btnTouch 1)],
      q.Positive) ∧
    ∀ ev ∈ ((new.serve [.setCoordinateMapping 800 480 1170 2532]).handle
        (.event (.key btnTouch 1))).2,
      0 ≤ ev.x ∧ ev.x ≤ (new.serve [.setCoordinateMapping 800 480 1170 2532]).targetWidth - 1 ∧
        0 ≤ ev.y ∧ ev.y ≤ (new.serve [.setCoordinateMapping 800 480 1170 2532]).targetHeight - 1 :=
  ⟨by decide, (mapping_in_range [.setCoordinateMapping 800 480 1170 2532] (.event (.key btnTouch 1))
    (by decide)).2.2⟩

/-- **Zero dimensions are accepted.** `set_coordinate_mapping(800, 480, 0, 844)`
replaces the mapping, and the next key-down emits `x = 0`, outside
`[0, target_width_ - 1] = [0, -1]`; `set_screen_resolution(0, 480)` leaves
a zero divisor for the next key-down's `map_coordinates`. -/
theorem zero_dimension_accepted :
    (new.serve [.setCoordinateMapping 800 480 0 844]).targetWidth = 0 ∧
    ((new.serve [.setCoordinateMapping 800 480 0 844]).handle (.event (.key btnTouch 1))).2 =
      [⟨.touchDown, 0, 0⟩] ∧
    (new.serve [.setScreenResolution 0 480]).screenWidth = 0 := by
  decide

end TouchHandler

end TouchBridge
