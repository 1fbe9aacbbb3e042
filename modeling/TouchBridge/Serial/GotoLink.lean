import TouchBridge.Serial.Session
import TouchBridge.Firmware.Positioner
/-!
# The host's session on the GOTO-dialect firmware

`ESP32Comm` writes the MOVE dialect: `send_goto` sends `MOVE,x,y`, the
three scrolls `SCROLL,direction,amount`, `send_home` and `send_calibrate`
`RESET`. The firmware of `esp/main.ino` reads the GOTO dialect, and of the
host's lines it takes only `CLICK,x,y` and `SCREEN,w,h` as the host means
them and answers `STATUS`. `MOVE,` and `RESET` are unknown commands to it,
and `SCROLL,direction,amount` is an invalid format, one comma short of the
`SCROLL,x,y,direction` it reads (`handleCommand_onGoto`).

Over the wire, with every write all or nothing, the firmware's `loop()`
reads the lines of the calls that succeeded (`serve_wire`). A whole session
therefore does on this firmware what its `CLICK` and `SCREEN` lines alone
do (`serve_wire_readByGoto`). From a firmware that tracks the phone's
pointer, the phone registers one tap for every click handled while
connected and nothing else (`session_taps`): the host's drags and scrolls
never reach it.
-/

namespace TouchBridge

namespace ESP32Comm

open Firmware

/-- **What the GOTO-dialect firmware makes of a call's line**, while the
phone is `connected` or not: read off `handleCommand` in `esp/main.ino`. -/
def Send.onGoto (connected : Bool) : Send → Goto.Action
  | .goto .. => if connected then .unknownCommand else .notConnected
  | .click x y => if connected then .clickAt x.val y.val else .notConnected
  | .scroll .. | .scrollUp .. | .scrollDown .. =>
    if connected then .invalidFormat "❌ Invalid format. Use: SCROLL,x,y,direction,amount"
    else .notConnected
  | .home | .calibrate .. => if connected then .unknownCommand else .notConnected
  | .status => .showStatus
  | .screenResolution width height =>
    if connected then .setScreenResolution width.val height.val else .notConnected

/-- The calls whose line the GOTO-dialect firmware acts on. -/
def Send.readByGoto : Send → Bool
  | .click .. | .screenResolution .. => true
  | _ => false

/-- The calls that click. -/
def Send.isClick : Send → Bool
  | .click .. => true
  | _ => false

/-- The calls whose lines reached the device, in order: those that succeeded. -/
def delivered (c : ESP32Comm) (calls : List (Send × Int)) : List Send :=
  (calls.filter fun q => (c.send q.1 q.2).2).map (·.1)

/-- The lines of calls, each with the pass of `loop()` that reads it: its
connection state and the time its `moveTo` has. -/
def hostLines (cmds : List ((Bool × Nat) × Send)) : List (Bool × Nat × List Char) :=
  cmds.map fun q => (q.1.1, q.1.2, q.2.command)

@[simp] theorem hostLines_cons (q : (Bool × Nat) × Send) (cmds : List ((Bool × Nat) × Send)) :
    hostLines (q :: cmds) = (q.1.1, q.1.2, q.2.command) :: hostLines cmds := rfl

/-! ## Each line -/

/-- **The GOTO firmware's prefix tests on the host's verbs.** -/
theorem goto_handleCommand_verbs :
    (∀ t, Goto.handleCommand true ("MOVE".toList ++ ',' :: t) = .unknownCommand) ∧
    (∀ t, Goto.handleCommand true ("CLICK".toList ++ ',' :: t) =
      Goto.pairBranch ("CLICK".toList ++ ',' :: t) .clickAt
        (.invalidFormat "❌ Invalid format. Use: CLICK,x,y")) ∧
    (∀ t, Goto.handleCommand true ("SCROLL".toList ++ ',' :: t) =
      Goto.scrollBranch ("SCROLL".toList ++ ',' :: t) .scrollAt
        "❌ Invalid format. Use: SCROLL,x,y,direction,amount") ∧
    (∀ t, Goto.handleCommand true ("RESET".toList ++ ',' :: t) = .unknownCommand) ∧
    (∀ t, Goto.handleCommand true ("SCREEN".toList ++ ',' :: t) =
      Goto.pairBranch ("SCREEN".toList ++ ',' :: t) .setScreenResolution .nothing) := by
  refine ⟨?_, ?_, ?_, ?_, ?_⟩ <;> intro t <;> simp [Goto.handleCommand, startsWith, List.isPrefixOf]

/-- A host line `VERB,a,b` gives a two-field branch `a` and `b`. -/
theorem goto_fieldPair_fieldsCommand {verb : String} (hne : verb.toList ≠ []) (hv : ',' ∉ verb.toList)
    (a b : CInt) : Goto.fieldPair (fieldsCommand verb a.val b.val) = some (a.val, b.val) := by
  rw [fieldsCommand, Goto.fieldPair_eq hne hv, splitComma_append (comma_not_mem_formatInt _),
    Option.map_some', toInt_formatInt, toInt_formatInt]

/-- A host line `SCROLL,direction,amount` has one comma too few for the
four-field branch. -/
theorem goto_scrollFields_fieldsCommand (a b : Int) :
    Goto.scrollFields (fieldsCommand "SCROLL" a b) = none := by
  rw [fieldsCommand, Goto.scrollFields_eq (by decide) (by decide),
    splitComma_append (comma_not_mem_formatInt _), Option.some_bind, Option.map_eq_none',
    splitComma_eq_none_iff]
  exact comma_not_mem_formatInt b

/-- **The GOTO firmware reads every host line as `Send.onGoto`**, for all
arguments, connected or not. -/
theorem handleCommand_onGoto (connected : Bool) (s : Send) :
    Goto.handleCommand connected (trim s.command) = s.onGoto connected := by
  rw [trim_eq_self fun c hc => (command_plain s c hc).2.1]
  obtain ⟨hmove, hclick, hscroll, hreset, hscreen⟩ := goto_handleCommand_verbs
  cases connected
  · cases s <;> simp [Send.command, sendGoto, sendClick, sendScroll, sendScrollUp, sendScrollDown,
      sendHome, sendStatus, sendCalibrate, sendScreenResolution, fieldsCommand, Send.onGoto,
      Goto.handleCommand, startsWith, List.isPrefixOf]
  · cases s <;> simp only [Send.command, sendGoto, sendClick, sendScroll, sendScrollUp,
      sendScrollDown, sendCalibrate, sendScreenResolution, Send.onGoto, if_true]
    case goto => exact hmove _
    case click => rw [fieldsCommand, hclick, ← fieldsCommand, Goto.pairBranch,
      goto_fieldPair_fieldsCommand (by decide) (by decide)]
    case scroll | scrollUp | scrollDown =>
      rw [fieldsCommand, hscroll, ← fieldsCommand, Goto.scrollBranch, goto_scrollFields_fieldsCommand]
    case home | status => rfl
    case calibrate => exact hreset _
    case screenResolution => rw [fieldsCommand, hscreen, ← fieldsCommand, Goto.pairBranch,
      goto_fieldPair_fieldsCommand (by decide) (by decide)]

/-- What a successful call writes, the GOTO firmware's `loop()` reads as
`Send.onGoto`, and leaves what follows. -/
theorem goto_loop_send {c : ESP32Comm} {s : Send} {w : Int} (h : (c.send s w).2 = true)
    (connected : Bool) (rest : List Char) :
    Goto.loop connected ((c.send s w).1 ++ rest) = (some (s.onGoto connected), rest) := by
  rw [send_fst_of_true h, Send.line, List.append_assoc, List.singleton_append, Goto.loop,
    if_neg (by simp), readStringUntil_append (fun hm => (command_plain s _ hm).1 rfl),
    handleCommand_onGoto]

/-! ## A whole session -/

section

variable (factor : List Char → Int → Int)

/-- A line the GOTO firmware does not act on changes nothing and sends nothing. -/
theorem perform_onGoto_of_not_readByGoto {s : Send} (hs : s.readByGoto = false) (d : Goto.Device)
    (connected : Bool) (tries : Nat) : d.perform factor connected tries (s.onGoto connected) = some (d, []) := by
  cases s <;> first | exact Bool.noConfusion hs | cases connected <;> rfl

/-- **Over the wire, `loop()` reads the lines of the calls that succeeded**,
one per pass. -/
theorem serve_wire (c : ESP32Comm) (calls : List (Send × Int)) (hw : ∀ q ∈ calls, WholeWrite q.1 q.2)
    (passes : List (Bool × Nat)) (d : Goto.Device) :
    d.serve factor passes (c.wire calls) = d.run factor (hostLines (passes.zip (c.delivered calls))) := by
  rw [wire_eq_wire_filter c calls hw, delivered]
  generalize hl : calls.filter (fun q => (c.send q.1 q.2).2) = l
  have hok : ∀ q ∈ l, (c.send q.1 q.2).2 = true := fun q hq => by
    rw [← hl] at hq; simpa using (List.mem_filter.1 hq).2
  clear hl
  induction l generalizing passes d with
  | nil => cases passes <;> rfl
  | cons q l ih =>
    obtain ⟨hq, hok⟩ := List.forall_mem_cons.1 hok
    cases passes with
    | nil => rfl
    | cons t passes =>
      simp only [wire, Goto.Device.serve, goto_loop_send hq, List.map_cons, List.zip_cons_cons,
        hostLines, Goto.Device.run, handleCommand_onGoto, ih passes _ hok]
      rfl

/-- **Lines the firmware does not act on drop out of a run.** -/
theorem run_hostLines (d : Goto.Device) :
    ∀ cmds : List ((Bool × Nat) × Send),
      d.run factor (hostLines cmds) = d.run factor (hostLines (cmds.filter (·.2.readByGoto)))
  | [] => rfl
  | ((connected, tries), s) :: cmds => by
    cases hs : s.readByGoto
    · rw [List.filter_cons_of_neg (by simp [hs]), ← run_hostLines d cmds, hostLines_cons, Goto.Device.run]
      simp [handleCommand_onGoto, perform_onGoto_of_not_readByGoto factor hs]
    · rw [List.filter_cons_of_pos (by simp [hs]), hostLines_cons, hostLines_cons, Goto.Device.run,
        Goto.Device.run]
      congr 1
      funext ⟨d₁, sent⟩
      dsimp only
      rw [run_hostLines d₁ cmds]

/-- **The host's session does on the GOTO firmware what its `CLICK` and
`SCREEN` lines alone do.** Take every session of `send_*` calls whose
writes are all or nothing, and every sequence of passes of `loop()`. The
firmware's run over the bytes on the wire is its run over the lines of the
delivered `send_click` and `send_screen_resolution` calls alone, each in
the pass that reads it: the `MOVE`, `SCROLL`, `RESET` and `STATUS` lines
change nothing and send nothing. -/
theorem serve_wire_readByGoto (c : ESP32Comm) (calls : List (Send × Int))
    (hw : ∀ q ∈ calls, WholeWrite q.1 q.2) (passes : List (Bool × Nat)) (d : Goto.Device) :
    d.serve factor passes (c.wire calls) =
      d.run factor (hostLines ((passes.zip (c.delivered calls)).filter (·.2.readByGoto))) := by
  rw [serve_wire factor c calls hw, run_hostLines]

/-- `send_goto(100, 200)` and `send_click(100, 200)` over a connected port,
each line written whole, handled by two connected passes of the initial
firmware: the run is that of the click's line alone. -/
theorem serve_wire_readByGoto_goto_click :
    let calls : List (Send × Int) :=
      [(.goto ⟨100, by decide, by decide⟩ ⟨200, by decide, by decide⟩, 13),
        (.click ⟨100, by decide, by decide⟩ ⟨200, by decide, by decide⟩, 14)]
    (∀ q ∈ calls, WholeWrite q.1 q.2) ∧
      ({} : Goto.Device).serve (fun _ v => v) [(true, 20), (true, 20)] (wire ⟨3, true⟩ calls) =
        ({} : Goto.Device).run (fun _ v => v)
          (hostLines (([(true, 20), (true, 20)].zip (delivered ⟨3, true⟩ calls)).filter (·.2.readByGoto))) :=
  have hw : ∀ q ∈ [((.goto ⟨100, by decide, by decide⟩ ⟨200, by decide, by decide⟩ : Send), (13 : Int)),
      (.click ⟨100, by decide, by decide⟩ ⟨200, by decide, by decide⟩, 14)], WholeWrite q.1 q.2 := by
    decide
  ⟨hw, serve_wire_readByGoto _ ⟨3, true⟩ _ hw _ _⟩

/-! ## What the phone registers -/

/-- A call whose `SCREEN` size, if it sets one, lies within the phone's
screen `S`. -/
def Send.ScreenWithin (S : Screen) : Send → Prop
  | .screenResolution width height =>
    0 ≤ width.val ∧ width.val ≤ S.width ∧ 0 ≤ height.val ∧ height.val ≤ S.height
  | _ => True

instance (S : Screen) : DecidablePred (Send.ScreenWithin S)
  | .screenResolution width height => inferInstanceAs
    (Decidable (0 ≤ width.val ∧ width.val ≤ S.width ∧ 0 ≤ height.val ∧ height.val ≤ S.height))
  | .goto .. | .click .. | .scroll .. | .scrollUp .. | .scrollDown .. | .home | .status
  | .calibrate .. => isTrue trivial

/-- The host's lines keep the firmware tracking the pointer, given their
`SCREEN` sizes lie within the phone's screen. -/
theorem keepsTrack_onGoto {S : Screen} {s : Send} (h : s.ScreenWithin S) (connected : Bool) :
    (s.onGoto connected).KeepsTrack factor S := by
  cases s <;> cases connected <;> first | exact h | trivial

/-- **What one host line shows the phone**: a tap for a click handled
while connected, nothing otherwise. -/
theorem seen_perform_onGoto (S : Screen) {d d' : Goto.Device} {connected : Bool} {tries : Nat}
    {s : Send} {sent : List Report} (h : d.perform factor connected tries (s.onGoto connected) = some (d', sent))
    (p : Int × Int) : ∃ taps : List (Int × Int), S.seen p sent = taps.map (fun q => .tap q.1 q.2) ∧
      taps.length = if connected && s.isClick then 1 else 0 := by
  cases hs : s.readByGoto
  · rw [perform_onGoto_of_not_readByGoto factor hs] at h
    cases h
    refine ⟨[], rfl, ?_⟩
    cases s <;> simp_all [Send.readByGoto, Send.isClick]
  cases s <;> simp only [Send.readByGoto] at hs
  all_goals cases connected
  case click.true x y =>
    obtain ⟨_, _, _, _, rest, hm, hr, rfl⟩ := Goto.Device.moveThen_eq_some h
    obtain ⟨⟨_, _, ms⟩, -, he⟩ := Option.map_eq_some'.1 hm
    cases he
    cases hr
    exact ⟨[S.pointer p (Report.moves ms)], by simp [S.seen_append, BLEMouseTo.click], rfl⟩
  case screenResolution.true width height =>
    simp only [Send.onGoto, if_true, Goto.Device.perform, Option.bind_eq_bind, Option.bind_eq_some,
      Option.some.injEq, Prod.mk.injEq] at h
    obtain ⟨_, -, _, -, -, rfl⟩ := h
    exact ⟨[], rfl, rfl⟩
  all_goals cases h; exact ⟨[], rfl, rfl⟩

/-- The taps of a run of host lines, one per click handled while connected. -/
theorem run_hostLines_taps {S : Screen} (hS : S.width ≤ 2540 ∧ S.height ≤ 2540) :
    ∀ (cmds : List ((Bool × Nat) × Send)), (∀ q ∈ cmds, q.2.ScreenWithin S) →
      ∀ {d : Goto.Device} {p : Int × Int}, d.Tracks factor S p → S.OnScreen p →
      ∃ (d' : Goto.Device) (sent : List Report) (taps : List (Int × Int)), d.run factor (hostLines cmds) = some (d', sent) ∧
        d'.Tracks factor S (S.pointer p sent) ∧ S.seen p sent = taps.map (fun q => .tap q.1 q.2) ∧
        taps.length = (cmds.filter fun q => q.1.1 && q.2.isClick).length
  | [], _, d, p, ht, _ => ⟨d, [], [], rfl, ht, rfl, rfl⟩
  | ((connected, tries), s) :: cmds, hsc, d, p, ht, hp => by
    obtain ⟨hs, hsc⟩ := List.forall_mem_cons.1 hsc
    have hr := Goto.handleCommand_inRange connected (trim s.command)
    rw [handleCommand_onGoto] at hr
    obtain ⟨d₁, s₁, h₁, ht₁⟩ :=
      Goto.Device.perform_tracks factor hS ht hp connected tries hr (keepsTrack_onGoto factor hs connected)
    obtain ⟨t₁, hseen₁, hlen₁⟩ := seen_perform_onGoto factor S h₁ p
    obtain ⟨d₂, s₂, t₂, h₂, ht₂, hseen₂, hlen₂⟩ :=
      run_hostLines_taps hS cmds hsc ht₁ (S.onScreen_pointer hp s₁)
    refine ⟨d₂, s₁ ++ s₂, t₁ ++ t₂, ?_, by rwa [S.pointer_append], ?_, ?_⟩
    · rw [hostLines_cons, Goto.Device.run]
      simp only [handleCommand_onGoto, h₁, h₂, Option.bind_eq_bind, Option.some_bind]
    · rw [S.seen_append, hseen₁, hseen₂, List.map_append]
    · rw [List.length_append, hlen₁, hlen₂, List.filter_cons]
      cases connected <;> cases s.isClick <;> simp [Nat.add_comm]

/-- **The host's session shows the phone only taps, one per click.** Take
a phone screen no larger than 2540 on either side and a GOTO firmware
that tracks its pointer. Take every session of `send_*` calls whose writes
are all or nothing and whose `SCREEN` sizes lie within the phone's screen,
and every sequence of passes of `loop()`. The firmware's run over the wire
is defined and keeps tracking the pointer. The phone registers one tap for
each delivered `send_click` that a pass handles while connected, and
nothing else: no `send_goto` moves it, no scroll turns a wheel. -/
theorem session_taps {S : Screen} (hS : S.width ≤ 2540 ∧ S.height ≤ 2540) (c : ESP32Comm)
    (calls : List (Send × Int)) (hw : ∀ q ∈ calls, WholeWrite q.1 q.2)
    (hsc : ∀ q ∈ calls, q.1.ScreenWithin S) (passes : List (Bool × Nat)) {d : Goto.Device}
    {p : Int × Int} (ht : d.Tracks factor S p) (hp : S.OnScreen p) :
    ∃ (d' : Goto.Device) (sent : List Report) (taps : List (Int × Int)), d.serve factor passes (c.wire calls) = some (d', sent) ∧
      d'.Tracks factor S (S.pointer p sent) ∧ S.seen p sent = taps.map (fun q => .tap q.1 q.2) ∧
      taps.length = ((passes.zip (c.delivered calls)).filter fun q => q.1.1 && q.2.isClick).length := by
  rw [serve_wire factor c calls hw]
  refine run_hostLines_taps factor hS _ (fun q hq => ?_) ht hp
  obtain ⟨q', hq', he⟩ := List.mem_map.1 (List.of_mem_zip hq).2
  exact he ▸ hsc q' (List.mem_filter.1 hq').1

/-- On a 390 × 844 screen, the initial firmware with the pointer at
`(10, 20)`: `send_click(100, 200)`, then `send_scroll_up(0, 0, 3)`, both
written whole and handled while connected. -/
theorem session_taps_click_scroll :
    let S : Screen := ⟨390, 844, by decide, by decide⟩
    let calls : List (Send × Int) :=
      [(.click ⟨100, by decide, by decide⟩ ⟨200, by decide, by decide⟩, 14),
        (.scrollUp 0 0 ⟨3, by decide, by decide⟩, 11)]
    (S.width ≤ 2540 ∧ S.height ≤ 2540) ∧ (∀ q ∈ calls, WholeWrite q.1 q.2) ∧
      (∀ q ∈ calls, q.1.ScreenWithin S) ∧ ({} : Goto.Device).Tracks (fun _ v => v) S (10, 20) ∧ S.OnScreen (10, 20) ∧
      ∃ (d' : Goto.Device) (sent : List Report) (taps : List (Int × Int)),
        ({} : Goto.Device).serve (fun _ v => v) [(true, 20), (true, 20)] (wire ⟨3, true⟩ calls) =
          some (d', sent) ∧
        d'.Tracks (fun _ v => v) S (S.pointer (10, 20) sent) ∧ S.seen (10, 20) sent = taps.map (fun q => .tap q.1 q.2) ∧
        taps.length = (([(true, 20), (true, 20)].zip (delivered ⟨3, true⟩ calls)).filter
          fun q => q.1.1 && q.2.isClick).length :=
  have hS : (390 : Int) ≤ 2540 ∧ (844 : Int) ≤ 2540 := by decide
  have hw : ∀ q ∈ [((.click ⟨100, by decide, by decide⟩ ⟨200, by decide, by decide⟩ : Send), (14 : Int)),
      (.scrollUp 0 0 ⟨3, by decide, by decide⟩, 11)], WholeWrite q.1 q.2 := by decide
  have hsc : ∀ q ∈ [((.click ⟨100, by decide, by decide⟩ ⟨200, by decide, by decide⟩ : Send), (14 : Int)),
      (.scrollUp 0 0 ⟨3, by decide, by decide⟩, 11)], q.1.ScreenWithin ⟨390, 844, by decide, by decide⟩ := by
    decide
  have ht : ({} : Goto.Device).Tracks (fun _ v => v) ⟨390, 844, by decide, by decide⟩ (10, 20) :=
    Goto.Device.tracks_initial _ le_rfl le_rfl _
  have hp : Screen.OnScreen ⟨390, 844, by decide, by decide⟩ (10, 20) := by decide
  ⟨hS, hw, hsc, ht, hp, session_taps _ hS ⟨3, true⟩ _ hw hsc _ ht hp⟩

end

end ESP32Comm

end TouchBridge
