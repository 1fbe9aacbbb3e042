import TouchBridge.Firmware.MoveDialect
/-!
# The GOTO-dialect firmware's command loop

`esp/main.ino`'s `loop()` reads a line and trims it (it does not upper-case
it), and `handleCommand` walks its chain of `startsWith` tests and exact
matches: eight verbs with comma-separated fields, `HOME` and `STATUS`.
While the phone is not connected, every line but those starting with
`STATUS` is refused. An action is the `mouseTo` call a branch makes, or the
reply it prints.

Four branches (`GOTO,`, `CLICK,`, `CALIBRATE,`, `SCREEN,`) read two fields
the same way (`fieldPair`, `pairBranch`), `SCROLL,` and `HSCROLL,` four with
an optional amount (`scrollFields`, `scrollBranch`), `SCROLL_UP,` and
`SCROLL_DOWN,` three (`scrollStepFields`, `scrollStepBranch`). What their
index arithmetic reads is what splitting the text after the verb at its
commas gives (`fieldPair_eq`, `scrollFields_eq`, `scrollStepFields_eq`): the
fields between commas, each through `toInt`, the last one a branch reads
running to the end of the line.
The MOVE dialect's `parseFields` and `parseScroll` read their fields the
same way (`parseFields_eq`, `parseScroll_eq`).
-/

namespace TouchBridge

namespace Firmware

/-! ## Reading a field at a cursor -/

section

variable {l s a b : List Char} {n : Nat}

/-- **A field at a cursor**: where the line from `n` on splits at a comma
into `a` and `b`, `indexOf` finds that comma, `substring` reads `a`, and
`b` starts just past the comma. -/
theorem field_of_drop (h : l.drop n = s) (hs : splitComma s = some (a, b)) :
    indexOf l ',' n = ((n + a.length : Nat) : Int) ∧ substring l n (n + a.length) = a ∧
      l.drop (n + a.length + 1) = b := by
  obtain ⟨rfl, ha⟩ := eq_of_splitComma hs
  have hn : n < l.length := by
    have := congrArg List.length h
    simp only [List.length_drop, List.length_append, List.length_cons] at this
    omega
  refine ⟨?_, ?_, ?_⟩
  · rw [indexOf, if_neg (by omega), h, strchr_append ha]
  · rw [substring, if_neg (by omega), min_eq_left (by omega), max_eq_right (by omega),
      List.drop_take, Nat.add_sub_cancel_left, h, List.take_left]
  · rw [Nat.add_assoc, ← List.drop_drop, h]
    simp

/-- Where the line from `n` on holds no comma, `indexOf` finds none. -/
theorem indexOf_of_drop (h : l.drop n = s) (hs : splitComma s = none) :
    indexOf l ',' n = -1 := by
  unfold indexOf
  split_ifs
  · rfl
  · rw [strchr_comma, h, hs]
    rfl

/-- The last field a branch reads runs from `n` to the end of the line. -/
theorem substring_length (l : List Char) (n : Nat) : substring l n l.length = l.drop n := by
  unfold substring
  split_ifs with h
  · rw [List.drop_eq_nil_of_le (by omega)]
  · rw [min_eq_left (by omega), max_eq_right (by omega), List.take_length]

end

/-- A verb without a comma is followed by the first comma. -/
theorem indexOf_verb {verb : List Char} (hv : ',' ∉ verb) (rest : List Char) :
    indexOf (verb ++ ',' :: rest) ',' 0 = verb.length := by
  simpa [splitComma_append hv] using indexOf_comma [] (verb ++ ',' :: rest)

namespace Goto

/-- What one GOTO-dialect command does: the `mouseTo` call it makes, or the
reply it prints. -/
inductive Action
  | moveTo (x y : Int)
  | clickAt (x y : Int)
  | scrollAt (x y direction amount : Int)
  /-- `mouseTo.moveTo(x, y)`, then `mouseTo.scrollHorizontal(direction, amount)`. -/
  | hscroll (x y direction amount : Int)
  | home
  | setCurrentPosition (x y : Int)
  | setScreenResolution (width height : Int)
  /-- `mouseTo.setCorrectionFactor` of the float `toFloat` reads from `text`. -/
  | setCorrectionFactor (text : List Char)
  | showStatus
  /-- `Serial.println("❌ iPhone not connected - pair via Bluetooth first")`. -/
  | notConnected
  /-- `Serial.println("❌ Invalid format. Use: ...")`. -/
  | invalidFormat (reply : String)
  /-- `Serial.println("❌ Unknown command. Available commands:")` and the list. -/
  | unknownCommand
  /-- `CALIBRATE,`, `SCREEN,` and `FACTOR,` without their commas: nothing. -/
  | nothing
deriving DecidableEq, Repr

/-- The two fields the `GOTO,`, `CLICK,`, `CALIBRATE,` and `SCREEN,`
branches read: between the first two commas, and after the second. -/
def fieldPair (command : List Char) : Option (Int × Int) :=
  let comma := indexOf command ',' 0
  let secondComma := indexOf command ',' (comma + 1).toNat
  if comma > 0 ∧ secondComma > 0 then
    some (toInt (substring command (comma + 1).toNat secondComma.toNat),
      toInt (substring command (secondComma + 1).toNat command.length))
  else none

/-- The fields the `SCROLL,` and `HSCROLL,` branches read: `x`, `y`, the
direction up to a fourth comma or the end, and the amount after it, `1`
without one. -/
def scrollFields (command : List Char) : Option (Int × Int × Int × Int) :=
  let comma1 := indexOf command ',' 0
  let comma2 := indexOf command ',' (comma1 + 1).toNat
  let comma3 := indexOf command ',' (comma2 + 1).toNat
  let comma4 := indexOf command ',' (comma3 + 1).toNat
  if comma1 > 0 ∧ comma2 > 0 ∧ comma3 > 0 then
    some (toInt (substring command (comma1 + 1).toNat comma2.toNat),
      toInt (substring command (comma2 + 1).toNat comma3.toNat),
      toInt (substring command (comma3 + 1).toNat
        (if comma4 > 0 then comma4.toNat else command.length)),
      if comma4 > 0 then toInt (substring command (comma4 + 1).toNat command.length) else 1)
  else none

/-- The fields the `SCROLL_UP,` and `SCROLL_DOWN,` branches read: `x`, `y`
up to a third comma or the end, and the amount after it, `3` without one. -/
def scrollStepFields (command : List Char) : Option (Int × Int × Int) :=
  let comma1 := indexOf command ',' 0
  let comma2 := indexOf command ',' (comma1 + 1).toNat
  let comma3 := indexOf command ',' (comma2 + 1).toNat
  if comma1 > 0 ∧ comma2 > 0 then
    some (toInt (substring command (comma1 + 1).toNat comma2.toNat),
      toInt (substring command (comma2 + 1).toNat
        (if comma3 > 0 then comma3.toNat else command.length)),
      if comma3 > 0 then toInt (substring command (comma3 + 1).toNat command.length) else 3)
  else none

/-- The branch `GOTO,`, `CLICK,`, `CALIBRATE,` and `SCREEN,` share: `act` on
the two fields, `otherwise` (the usage reply, or nothing) without them. -/
def pairBranch (command : List Char) (act : Int → Int → Action) (otherwise : Action) : Action :=
  match fieldPair command with
  | some (x, y) => act x y
  | none => otherwise

/-- The branch `SCROLL,` and `HSCROLL,` share. -/
def scrollBranch (command : List Char) (act : Int → Int → Int → Int → Action)
    (usage : String) : Action :=
  match scrollFields command with
  | some (x, y, direction, amount) => act x y direction amount
  | none => .invalidFormat usage

/-- The branch `SCROLL_UP,` and `SCROLL_DOWN,` share: a scroll in `direction`. -/
def scrollStepBranch (command : List Char) (direction : Int) (usage : String) : Action :=
  match scrollStepFields command with
  | some (x, y, amount) => .scrollAt x y direction amount
  | none => .invalidFormat usage

/-- **`handleCommand`**, while `bleMouse.isConnected()` is `connected`. -/
def handleCommand (connected : Bool) (command : List Char) : Action :=
  if !connected && !startsWith command "STATUS".toList then .notConnected
  else if startsWith command "GOTO,".toList then
    pairBranch command .moveTo (.invalidFormat "❌ Invalid format. Use: GOTO,x,y")
  else if startsWith command "CLICK,".toList then
    pairBranch command .clickAt (.invalidFormat "❌ Invalid format. Use: CLICK,x,y")
  else if startsWith command "SCROLL,".toList then
    scrollBranch command .scrollAt "❌ Invalid format. Use: SCROLL,x,y,direction,amount"
  else if startsWith command "SCROLL_UP,".toList then
    scrollStepBranch command 1 "❌ Invalid format. Use: SCROLL_UP,x,y,amount"
  else if startsWith command "SCROLL_DOWN,".toList then
    scrollStepBranch command (-1) "❌ Invalid format. Use: SCROLL_DOWN,x,y,amount"
  else if startsWith command "HSCROLL,".toList then
    scrollBranch command .hscroll "❌ Invalid format. Use: HSCROLL,x,y,direction,amount"
  else if command = "HOME".toList then .home
  else if startsWith command "CALIBRATE,".toList then
    pairBranch command .setCurrentPosition .nothing
  else if startsWith command "SCREEN,".toList then
    pairBranch command .setScreenResolution .nothing
  else if startsWith command "FACTOR,".toList then
    if indexOf command ',' 0 > 0 then
      .setCorrectionFactor (substring command (indexOf command ',' 0 + 1).toNat command.length)
    else .nothing
  else if command = "STATUS".toList then .showStatus
  else .unknownCommand

/-- The serial half of **`loop()`**: with bytes waiting, read a line up to
`\n`, trim it and hand it to `handleCommand`. -/
def loop (connected : Bool) (rx : List Char) : Option Action × List Char :=
  if rx = [] then (none, [])
  else (some (handleCommand connected (trim (readStringUntil '\n' rx).1)),
    (readStringUntil '\n' rx).2)

/-! ## What the index arithmetic reads -/

section

variable {verb : List Char} (hne : verb ≠ []) (hv : ',' ∉ verb)
include hne hv

/-- **The two-field branches split what follows the verb at its first
comma.** -/
theorem fieldPair_eq (rest : List Char) :
    fieldPair (verb ++ ',' :: rest) = (splitComma rest).map fun q => (toInt q.1, toInt q.2) := by
  have h₀ : (verb ++ ',' :: rest).drop (verb.length + 1) = rest := by simp
  have hpos : (0 : Int) < verb.length := by simpa using List.length_pos.2 hne
  unfold fieldPair
  simp only [indexOf_verb hv, Int.toNat_ofNat_add_one, substring_length]
  cases hs : splitComma rest with
  | none => rw [indexOf_of_drop h₀ hs]; exact if_neg (by omega)
  | some q =>
    obtain ⟨i₁, s₁, d₁⟩ := field_of_drop h₀ hs
    rw [i₁, if_pos ⟨hpos, by omega⟩]
    simp only [Int.toNat_natCast, Int.toNat_ofNat_add_one, s₁, d₁, Option.map_some']

/-- **The three-field branches** read `x` and `y`, and the amount when a
third comma follows `y`. -/
theorem scrollStepFields_eq (rest : List Char) :
    scrollStepFields (verb ++ ',' :: rest) =
      (splitComma rest).map fun q =>
        match splitComma q.2 with
        | some r => (toInt q.1, toInt r.1, toInt r.2)
        | none => (toInt q.1, toInt q.2, 3) := by
  have h₀ : (verb ++ ',' :: rest).drop (verb.length + 1) = rest := by simp
  have hpos : (0 : Int) < verb.length := by simpa using List.length_pos.2 hne
  unfold scrollStepFields
  simp only [indexOf_verb hv, Int.toNat_ofNat_add_one, substring_length]
  cases hs : splitComma rest with
  | none => rw [indexOf_of_drop h₀ hs]; exact if_neg (by omega)
  | some q =>
    obtain ⟨i₁, s₁, d₁⟩ := field_of_drop h₀ hs
    rw [i₁, if_pos ⟨hpos, by omega⟩]
    simp only [Int.toNat_natCast, Int.toNat_ofNat_add_one, s₁, Option.map_some']
    cases hr : splitComma q.2 with
    | none =>
      rw [indexOf_of_drop d₁ hr, if_neg (by omega), if_neg (by omega), substring_length, d₁]
    | some r =>
      obtain ⟨i₂, s₂, d₂⟩ := field_of_drop d₁ hr
      rw [i₂, if_pos (by omega), if_pos (by omega)]
      simp only [Int.toNat_natCast, Int.toNat_ofNat_add_one, s₂, d₂]

/-- **The four-field branches** read `x`, `y` and the direction, and the
amount when a fourth comma follows the direction. -/
theorem scrollFields_eq (rest : List Char) :
    scrollFields (verb ++ ',' :: rest) =
      (splitComma rest).bind fun q => (splitComma q.2).map fun r =>
        match splitComma r.2 with
        | some s => (toInt q.1, toInt r.1, toInt s.1, toInt s.2)
        | none => (toInt q.1, toInt r.1, toInt r.2, 1) := by
  have h₀ : (verb ++ ',' :: rest).drop (verb.length + 1) = rest := by simp
  have hpos : (0 : Int) < verb.length := by simpa using List.length_pos.2 hne
  unfold scrollFields
  simp only [indexOf_verb hv, Int.toNat_ofNat_add_one, substring_length]
  cases hs : splitComma rest with
  | none => rw [indexOf_of_drop h₀ hs]; exact if_neg (by omega)
  | some q =>
    obtain ⟨i₁, s₁, d₁⟩ := field_of_drop h₀ hs
    simp only [i₁, Int.toNat_natCast, Int.toNat_ofNat_add_one, s₁, Option.some_bind]
    cases hr : splitComma q.2 with
    | none => rw [indexOf_of_drop d₁ hr]; exact if_neg (by omega)
    | some r =>
      obtain ⟨i₂, s₂, d₂⟩ := field_of_drop d₁ hr
      rw [i₂, if_pos ⟨hpos, by omega, by omega⟩]
      simp only [Int.toNat_natCast, Int.toNat_ofNat_add_one, s₂, Option.map_some']
      cases hd : splitComma r.2 with
      | none =>
        rw [indexOf_of_drop d₂ hd, if_neg (by omega), if_neg (by omega), substring_length, d₂]
      | some t =>
        obtain ⟨i₃, s₃, d₃⟩ := field_of_drop d₂ hd
        rw [i₃, if_pos (by omega), if_pos (by omega)]
        simp only [Int.toNat_natCast, Int.toNat_ofNat_add_one, s₃, d₃]

end

end Goto

/-! ## The MOVE dialect's fields -/

/-- `parseFields` is `fieldPair` with the MOVE dialect's actions. -/
theorem parseFields_eq_fieldPair (command : List Char) (act : Int → Int → Action)
    (usage : String) :
    parseFields command act usage =
      match Goto.fieldPair command with
      | some p => act p.1 p.2
      | none => .invalidFormat usage := by
  unfold parseFields Goto.fieldPair
  dsimp only
  split_ifs <;> rfl

section

variable {verb : List Char} (hne : verb ≠ []) (hv : ',' ∉ verb)
include hne hv

/-- **`parseFields` splits what follows the verb at its first comma.** -/
theorem parseFields_eq (rest : List Char) (act : Int → Int → Action) (usage : String) :
    parseFields (verb ++ ',' :: rest) act usage =
      match splitComma rest with
      | some q => act (toInt q.1) (toInt q.2)
      | none => .invalidFormat usage := by
  rw [parseFields_eq_fieldPair, Goto.fieldPair_eq hne hv]
  cases splitComma rest <;> rfl

/-- **`parseScroll` reads a direction and an amount**, the amount `1`
without a second comma. -/
theorem parseScroll_eq (rest : List Char) :
    parseScroll (verb ++ ',' :: rest) =
      match splitComma rest with
      | some q => .scroll (toInt q.1) (toInt q.2)
      | none => .scroll (toInt rest) 1 := by
  have h₀ : (verb ++ ',' :: rest).drop (verb.length + 1) = rest := by simp
  have hpos : (0 : Int) < verb.length := by simpa using List.length_pos.2 hne
  unfold parseScroll
  simp only [indexOf_verb hv, Int.toNat_ofNat_add_one, if_pos hpos]
  cases hs : splitComma rest with
  | none =>
    rw [indexOf_of_drop h₀ hs, if_neg (by omega), if_neg (by omega), substring_length, h₀]
  | some q =>
    obtain ⟨i₁, s₁, d₁⟩ := field_of_drop h₀ hs
    rw [i₁, if_pos (by omega), if_pos (by omega)]
    simp only [Int.toNat_natCast, Int.toNat_ofNat_add_one, s₁, substring_length, d₁]

end

end Firmware

end TouchBridge
