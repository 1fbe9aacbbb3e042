import TouchBridge.Firmware.ArduinoString
/-!
# The MOVE-dialect firmware's command loop

`loop()` reads one line from the serial port, trims and upper-cases it, and
`handleCommand` walks its chain of exact matches and `startsWith` tests.
Four verbs (`MOVE,`, `CLICK,`, `RESET,`, `SCREEN,`) split two fields the same
way (`parseFields`); `SCROLL,` makes its second field optional. An action is
what the branch calls on the mouse; the error branches are the reply they
print.

A line `VERB,a,b` whose verb has no comma and whose first field has none
either splits back into `a` and `b` (`parseFields_line`); on the host's
lines this gives the round trip of `RoundTrip`.
-/

namespace TouchBridge

namespace Firmware

/-- What one command does: the `mouse` call it makes, or the reply it prints. -/
inductive Action
  | showStatus
  | moveToAbsolute (targetX targetY : Int)
  | clickAt (x y : Int)
  | click
  | scroll (direction amount : Int)
  | resetPosition (x y : Int)
  | setScreenResolution (width height : Int)
  /-- `Serial.println("❌ Invalid format. Use: ...")`. -/
  | invalidFormat (reply : String)
  /-- `Serial.println("❌ Unknown command. Available commands:")` and the list. -/
  | unknownCommand
deriving DecidableEq, Repr

/-- The branch `MOVE,`, `CLICK,`, `RESET,` and `SCREEN,` share: the field
between the first two commas and the one after the second, both read with
`toInt`. Each `int` index is passed where an `unsigned int` is expected; at
every call it is at least `0`, so the conversion is `Int.toNat`. -/
def parseFields (command : List Char) (act : Int → Int → Action) (usage : String) : Action :=
  let comma := indexOf command ',' 0
  let secondComma := indexOf command ',' (comma + 1).toNat
  if comma > 0 ∧ secondComma > 0 then
    act (toInt (substring command (comma + 1).toNat secondComma.toNat))
      (toInt (substring command (secondComma + 1).toNat command.length))
  else .invalidFormat usage

/-- The `SCROLL,` branch: as `parseFields`, but without a second comma the
direction runs to the end and the amount is `1`. -/
def parseScroll (command : List Char) : Action :=
  let comma := indexOf command ',' 0
  let secondComma := indexOf command ',' (comma + 1).toNat
  if comma > 0 then
    .scroll
      (toInt (substring command (comma + 1).toNat
        (if secondComma > 0 then secondComma.toNat else command.length)))
      (if secondComma > 0 then toInt (substring command (secondComma + 1).toNat command.length)
        else 1)
  else .invalidFormat "❌ Invalid format. Use: SCROLL,direction,amount"

/-- **`handleCommand`**. -/
def handleCommand (command : List Char) : Action :=
  if command = "STATUS".toList then .showStatus
  else if startsWith command "MOVE,".toList then
    parseFields command .moveToAbsolute "❌ Invalid format. Use: MOVE,x,y"
  else if startsWith command "CLICK,".toList then
    parseFields command .clickAt "❌ Invalid format. Use: CLICK,x,y"
  else if command = "CLICK".toList then .click
  else if startsWith command "SCROLL,".toList then parseScroll command
  else if startsWith command "RESET,".toList then
    parseFields command .resetPosition "❌ Invalid format. Use: RESET,x,y"
  else if command = "RESET".toList then .resetPosition 0 0
  else if startsWith command "SCREEN,".toList then
    parseFields command .setScreenResolution "❌ Invalid format. Use: SCREEN,width,height"
  else .unknownCommand

/-- The serial half of **`loop()`**: with bytes waiting, read a line up to
`\n`, trim it, upper-case it and hand it to `handleCommand`. -/
def loop (rx : List Char) : Option Action × List Char :=
  if rx = [] then (none, [])
  else (some (handleCommand (toUpperCase (trim (readStringUntil '\n' rx).1))),
    (readStringUntil '\n' rx).2)

/-- `n` passes of `loop()`: the actions taken, in order, and the bytes left. -/
def runLoop : Nat → List Char → List Action × List Char
  | 0, rx => ([], rx)
  | n + 1, rx => ((loop rx).1.toList ++ (runLoop n (loop rx).2).1, (runLoop n (loop rx).2).2)

/-! ## Splitting a line into its fields -/

section

variable {verb a b : List Char}

/-- **What `indexOf` and `substring` find in `VERB,a,b`**, where `VERB` is
not empty and neither it nor `a` holds a comma: the commas after `VERB` and
after `a`, and between and after them `a` and `b`. -/
theorem split_line (hv : ',' ∉ verb) (ha : ',' ∉ a) :
    indexOf (verb ++ ',' :: (a ++ ',' :: b)) ',' 0 = verb.length ∧
    indexOf (verb ++ ',' :: (a ++ ',' :: b)) ',' (verb.length + 1) =
      (verb.length + 1 + a.length : Nat) ∧
    substring (verb ++ ',' :: (a ++ ',' :: b)) (verb.length + 1) (verb.length + 1 + a.length) = a ∧
    substring (verb ++ ',' :: (a ++ ',' :: b)) (verb.length + 1 + a.length + 1)
      (verb ++ ',' :: (a ++ ',' :: b)).length = b := by
  have hline : verb ++ ',' :: (a ++ ',' :: b) = verb ++ [','] ++ a ++ ',' :: b := by simp
  refine ⟨by simpa using indexOf_append (q := []) (s := a ++ ',' :: b) hv, ?_, ?_, ?_⟩
  · rw [hline]; simpa using indexOf_append (q := verb ++ [',']) (s := b) ha
  · rw [hline]; simpa using substring_append (p := verb ++ [',']) (q := a) (',' :: b)
  · have := substring_drop (p := verb ++ [','] ++ a ++ [',']) (s := b)
    rwa [show verb ++ [','] ++ a ++ [','] ++ b = verb ++ ',' :: (a ++ ',' :: b) by simp,
      show (verb ++ [','] ++ a ++ [',']).length = verb.length + 1 + a.length + 1 by simp; omega]
      at this

/-- **`VERB,a,b` splits back into `a` and `b`.** -/
theorem parseFields_line (hne : verb ≠ []) (hv : ',' ∉ verb) (ha : ',' ∉ a)
    (act : Int → Int → Action) (usage : String) :
    parseFields (verb ++ ',' :: (a ++ ',' :: b)) act usage = act (toInt a) (toInt b) := by
  obtain ⟨h1, h2, h3, h4⟩ := split_line (b := b) hv ha
  have hpos : 0 < verb.length := List.length_pos.2 hne
  simp only [parseFields, h1, Int.toNat_ofNat_add_one, h2]
  rw [if_pos (by omega)]
  simp only [Int.toNat_natCast, Int.toNat_ofNat_add_one, h3, h4]

/-- And so does `SCROLL,a,b`, into a direction and an amount. -/
theorem parseScroll_line (hne : verb ≠ []) (hv : ',' ∉ verb) (ha : ',' ∉ a) :
    parseScroll (verb ++ ',' :: (a ++ ',' :: b)) = .scroll (toInt a) (toInt b) := by
  obtain ⟨h1, h2, h3, h4⟩ := split_line (b := b) hv ha
  have hpos : 0 < verb.length := List.length_pos.2 hne
  simp only [parseScroll, h1, Int.toNat_ofNat_add_one, h2]
  rw [if_pos (by omega), if_pos (by omega), if_pos (by omega)]
  simp only [Int.toNat_natCast, Int.toNat_ofNat_add_one, h3, h4]

end

end Firmware

end TouchBridge
