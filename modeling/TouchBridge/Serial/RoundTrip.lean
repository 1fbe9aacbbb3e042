import TouchBridge.Firmware.MoveDialect
import TouchBridge.Serial.Host
/-!
# Host commands round-trip through the MOVE-dialect firmware

Every line a successful `send_*` call writes reaches the action it names, with
the arguments it encodes (`send_round_trip`). Three facts carry it:

* the prefix tests of `handleCommand` route each verb to its own branch,
  `CLICK,` past `MOVE,` and `RESET,` past the bare `RESET`
  (`handleCommand_fieldsCommand`);
* the branch splits the line back into its two decimal fields
  (`parseFields_line`), and `atol` reads each back (`atol_formatInt`);
* a command holds no line feed, no white space and no lower-case letter, so
  `readStringUntil`, `trim` and `toUpperCase` hand it over unchanged
  (`loop_line`).

Over a whole session the same holds line by line: the firmware's loop takes
the actions of the calls in order and leaves nothing unread
(`runLoop_wire`).
-/

namespace TouchBridge

namespace ESP32Comm

open Firmware

/-- **The firmware action each call is meant to reach**, with the values it
was given. -/
def Send.intended : Send → Action
  | .goto x y => .moveToAbsolute x.val y.val
  | .click x y => .clickAt x.val y.val
  | .scroll _ _ direction amount => .scroll direction.val amount.val
  | .scrollUp _ _ amount => .scroll 1 amount.val
  | .scrollDown _ _ amount => .scroll (-1) amount.val
  | .home => .resetPosition 0 0
  | .status => .showStatus
  | .calibrate x y => .resetPosition x.val y.val
  | .screenResolution width height => .setScreenResolution width.val height.val

theorem comma_not_mem_formatInt (n : Int) : ',' ∉ formatInt n :=
  fun h => (decimalChars_spec _ (formatInt_subset n _ h)).1 rfl

theorem toInt_formatInt (n : CInt) : toInt (formatInt n.val) = n.val :=
  atol_formatInt n

/-- **The prefix tests route every verb to its own branch.** -/
theorem handleCommand_verbs :
    (∀ t, handleCommand ("MOVE".toList ++ ',' :: t) =
      parseFields ("MOVE".toList ++ ',' :: t) .moveToAbsolute "❌ Invalid format. Use: MOVE,x,y") ∧
    (∀ t, handleCommand ("CLICK".toList ++ ',' :: t) =
      parseFields ("CLICK".toList ++ ',' :: t) .clickAt "❌ Invalid format. Use: CLICK,x,y") ∧
    (∀ t, handleCommand ("SCROLL".toList ++ ',' :: t) = parseScroll ("SCROLL".toList ++ ',' :: t)) ∧
    (∀ t, handleCommand ("RESET".toList ++ ',' :: t) =
      parseFields ("RESET".toList ++ ',' :: t) .resetPosition "❌ Invalid format. Use: RESET,x,y") ∧
    (∀ t, handleCommand ("SCREEN".toList ++ ',' :: t) =
      parseFields ("SCREEN".toList ++ ',' :: t) .setScreenResolution
        "❌ Invalid format. Use: SCREEN,width,height") := by
  refine ⟨?_, ?_, ?_, ?_, ?_⟩ <;> intro t <;> simp [handleCommand, startsWith, List.isPrefixOf]

/-- **Every `VERB,a,b` command reaches its branch with the values of its fields.** -/
theorem handleCommand_fieldsCommand (a b : Int) :
    handleCommand (fieldsCommand "MOVE" a b) =
      .moveToAbsolute (toInt (formatInt a)) (toInt (formatInt b)) ∧
    handleCommand (fieldsCommand "CLICK" a b) = .clickAt (toInt (formatInt a)) (toInt (formatInt b)) ∧
    handleCommand (fieldsCommand "SCROLL" a b) = .scroll (toInt (formatInt a)) (toInt (formatInt b)) ∧
    handleCommand (fieldsCommand "RESET" a b) =
      .resetPosition (toInt (formatInt a)) (toInt (formatInt b)) ∧
    handleCommand (fieldsCommand "SCREEN" a b) =
      .setScreenResolution (toInt (formatInt a)) (toInt (formatInt b)) := by
  obtain ⟨hm, hc, hs, hr, hsc⟩ := handleCommand_verbs
  have ha := comma_not_mem_formatInt a
  refine ⟨?_, ?_, ?_, ?_, ?_⟩
  · rw [fieldsCommand, hm, parseFields_line (by decide) (by decide) ha]
  · rw [fieldsCommand, hc, parseFields_line (by decide) (by decide) ha]
  · rw [fieldsCommand, hs, parseScroll_line (by decide) (by decide) ha]
  · rw [fieldsCommand, hr, parseFields_line (by decide) (by decide) ha]
  · rw [fieldsCommand, hsc, parseFields_line (by decide) (by decide) ha]

/-- **Every call's command is dispatched to its intended action.** -/
theorem handleCommand_send (s : Send) : handleCommand s.command = s.intended := by
  have hone : toInt (formatInt 1) = 1 ∧ toInt (formatInt (-1)) = -1 := by decide
  cases s <;>
    simp only [Send.command, sendGoto, sendClick, sendScroll, sendScrollUp, sendScrollDown,
      sendCalibrate, sendScreenResolution, handleCommand_fieldsCommand, toInt_formatInt, hone,
      Send.intended]
  all_goals decide

/-- No character of a command is a line end, white space, or changed by `toupper`. -/
theorem command_plain (s : Send) :
    ∀ c ∈ s.command, c ≠ '\n' ∧ isspace c = false ∧ c.toUpper = c := by
  have hf : ∀ n, ∀ c ∈ formatInt n, c ≠ '\n' ∧ isspace c = false ∧ c.toUpper = c :=
    fun n c hc => (decimalChars_spec c (formatInt_subset n c hc)).2
  have hfields : ∀ verb : String, (∀ c ∈ verb.toList, c ≠ '\n' ∧ isspace c = false ∧
      c.toUpper = c) → ∀ a b, ∀ c ∈ fieldsCommand verb a b,
        c ≠ '\n' ∧ isspace c = false ∧ c.toUpper = c := fun verb hv a b =>
    List.forall_mem_append.2 ⟨hv, List.forall_mem_cons.2 ⟨by decide,
      List.forall_mem_append.2 ⟨hf a, List.forall_mem_cons.2 ⟨by decide, hf b⟩⟩⟩⟩
  cases s <;> first | decide | exact hfields _ (by decide) _ _

/-- **`loop()` hands a plain line over unchanged**, and leaves what follows
its line feed. -/
theorem loop_line {line : List Char}
    (h : ∀ c ∈ line, c ≠ '\n' ∧ isspace c = false ∧ c.toUpper = c) (rest : List Char) :
    loop (line ++ '\n' :: rest) = (some (handleCommand line), rest) := by
  rw [loop, if_neg (by simp), readStringUntil_append (fun hm => (h _ hm).1 rfl),
    trim_eq_self (fun c hc => (h c hc).2.1), toUpperCase_eq_self (fun c hc => (h c hc).2.2)]

/-- What a successful call writes, `loop()` dispatches to its intended action. -/
theorem loop_send {c : ESP32Comm} {s : Send} {w : Int} (h : (c.send s w).2 = true)
    (rest : List Char) : loop ((c.send s w).1 ++ rest) = (some s.intended, rest) := by
  rw [send, sendCommand_eq_true h, List.append_assoc, List.singleton_append,
    loop_line (command_plain s), handleCommand_send]

/-- **The host's commands round-trip through the firmware.** Whatever
line a `send_*` call writes when it succeeds, the firmware's `loop()`, reading
it up to its line feed, trimming and upper-casing it, dispatches it to the
intended action with the arguments the call was given, and leaves the bytes
after it unread. -/
theorem send_round_trip :
    ∀ (c : ESP32Comm) (s : Send) (bytesWritten : Int) (rest : List Char),
      (c.send s bytesWritten).2 = true →
      loop ((c.send s bytesWritten).1 ++ rest) = (some s.intended, rest) :=
  fun _ _ _ rest h => loop_send h rest

/-- A move to `(100, -5)` over a connected port, the whole line written. -/
theorem send_round_trip_goto :
    (ESP32Comm.send ⟨3, true⟩ (.goto ⟨100, by decide, by decide⟩ ⟨-5, by decide, by decide⟩) 12).2 =
      true ∧
    loop ((ESP32Comm.send ⟨3, true⟩ (.goto ⟨100, by decide, by decide⟩ ⟨-5, by decide, by decide⟩)
      12).1 ++ []) = (some (.moveToAbsolute 100 (-5)), []) :=
  ⟨by decide, send_round_trip ⟨3, true⟩ _ 12 [] (by decide)⟩

/-! ## A whole session -/

/-- **Over a session of successful calls, the firmware takes every call's
action, in order, and nothing else.** One pass of `loop()` per line. -/
theorem runLoop_wire (c : ESP32Comm) :
    ∀ calls : List (Send × Int), (∀ p ∈ calls, (c.send p.1 p.2).2 = true) →
      runLoop calls.length (c.wire calls) = (calls.map (·.1.intended), []) := by
  intro calls
  induction calls with
  | nil => intro _; rfl
  | cons p calls ih =>
    intro h
    obtain ⟨hp, hrest⟩ := List.forall_mem_cons.1 h
    have hloop : loop (c.wire (p :: calls)) = (some p.1.intended, c.wire calls) :=
      loop_send hp _
    simp only [List.length_cons, runLoop, hloop, ih hrest, Option.toList_some, List.map_cons,
      List.singleton_append]

end ESP32Comm

end TouchBridge
