import TouchBridge.Firmware.GotoDialect
/-!
# The command grammars of the two firmwares

Both firmwares document their commands as a verb followed by
comma-separated integer fields, a scroll's amount optional. `Goto.Command`
and `Command` are those lines, over the type of their fields. What the two
share is stated once, over `FieldCommand`: with the fields as text, `text`
is the line; a line is *framed* when every field a branch reads up to the
next comma holds none (`Framed`): the second of a pair and an amount run to
the end of the line. With the fields as integers, `action` is what the
branch does with them.

Each parser reads a framed line as its command, each field through `toInt`
(`Goto.handleCommand_text`, `handleCommand_text`), and it touches the mouse
only on such a line or on one of the commands without fields
(`Goto.touchesMouse_framed`, `touchesMouse_framed`). On the documented
grammar, where every field is an optionally signed decimal integer
(`DecimalInt`), the arguments are exactly those integers
(`Goto.handleCommand_decimal`, `handleCommand_decimal`). Nothing checks that
a field is a number: `toInt` reads other text as `0`.

A line is read as a whole `String`. The firmware's `==` is `strcmp` and its
`indexOf` is `strchr`, which stop at a NUL: the two readings agree on a line
without one, and the converse is stated for those lines.
-/

namespace TouchBridge

namespace DecimalInt

/-- Every character of a decimal integer is a sign or a digit. -/
theorem mem_text {n : DecimalInt} {c : Char} (h : c ∈ n.text) :
    c = '+' ∨ c = '-' ∨ c.isDigit = true := by
  rcases List.mem_append.1 h with hs | hd
  · rcases n.sign_mem with h' | h' | h' <;> simp_all
  · exact .inr (.inr (n.isDigit c hd))

/-- So it holds no comma. -/
theorem comma_not_mem_text (n : DecimalInt) : ',' ∉ n.text := fun h => by
  rcases mem_text h with h | h | h <;> revert h <;> decide

end DecimalInt

namespace Firmware

/-! ## Lines of fields -/

/-- Fields, each after a comma. -/
def fieldsText : List (List Char) → List Char
  | [] => []
  | f :: fs => ',' :: (f ++ fieldsText fs)

theorem mem_fieldsText {c : Char} : ∀ {fs : List (List Char)},
    c ∈ fieldsText fs → c = ',' ∨ ∃ f ∈ fs, c ∈ f
  | [], h => by simp [fieldsText] at h
  | f :: fs, h => by
    simp only [fieldsText, List.mem_cons, List.mem_append] at h
    rcases h with h | h | h
    · exact .inl h
    · exact .inr ⟨f, List.mem_cons_self _ _, h⟩
    · obtain h | ⟨g, hg, hc⟩ := mem_fieldsText h
      · exact .inl h
      · exact .inr ⟨g, List.mem_cons_of_mem _ hg, hc⟩

/-- **A line with a character of no verb, sign, digit or comma is no verb
followed by decimal integers.** -/
theorem verb_fieldsText_ne {line : List Char} {c : Char} (hc : c ∈ line) {verb : String}
    (hverb : c ∉ verb.toList) (hsym : c ≠ ',' ∧ c ≠ '+' ∧ c ≠ '-' ∧ c.isDigit = false)
    (ns : List DecimalInt) : verb.toList ++ fieldsText (ns.map DecimalInt.text) ≠ line := by
  rintro rfl
  rcases List.mem_append.1 hc with h | h
  · exact hverb h
  obtain h | ⟨f, hf, hcf⟩ := mem_fieldsText h
  · exact hsym.1 h
  obtain ⟨n, -, rfl⟩ := List.mem_map.1 hf
  rcases DecimalInt.mem_text hcf with h | h | h
  exacts [hsym.2.1 h, hsym.2.2.1 h, absurd h (by rw [hsym.2.2.2]; decide)]

theorem toList_optionMap {α β : Type} (f : α → β) (a : Option α) :
    (a.map f).toList = a.toList.map f := by
  cases a <;> rfl

/-- A chain of tests: what holds of an `if` holds of the branch taken. -/
theorem of_apply_ite {α : Type} {p : α → Bool} {c : Prop} [Decidable c] {a b : α}
    (h : p (if c then a else b) = true) : (c ∧ p a = true) ∨ (¬c ∧ p b = true) := by
  by_cases hc : c
  · exact .inl ⟨hc, by rwa [if_pos hc] at h⟩
  · exact .inr ⟨hc, by rwa [if_neg hc] at h⟩

/-- A line that passes a verb's `startsWith` test is the verb, a comma and
the rest. -/
theorem eq_of_startsWith {s : List Char} (verb : String)
    (h : startsWith s (verb.toList ++ [',']) = true) : ∃ t, s = verb.toList ++ ',' :: t := by
  obtain ⟨t, rfl⟩ := List.isPrefixOf_iff_prefix.1 h
  exact ⟨t, by simp⟩

/-! ## Commands with fields -/

/-- **A command with fields**, over the type of its fields: the verb the
line starts with, the fields in the order of the line, those a branch reads
up to the next comma (`heads`; the one after them runs to the end of the
line), and `map`, which changes every field and nothing else. -/
class FieldCommand (C : Type → Type) where
  map {α β : Type} : (α → β) → C α → C β
  verb {α : Type} : C α → String
  fields {α : Type} : C α → List α
  heads {α : Type} : C α → List α
  verb_map {α β : Type} (f : α → β) (cmd : C α) : verb (map f cmd) = verb cmd
  fields_map {α β : Type} (f : α → β) (cmd : C α) : fields (map f cmd) = (fields cmd).map f
  heads_map {α β : Type} (f : α → β) (cmd : C α) : heads (map f cmd) = (heads cmd).map f
  map_map {α β γ : Type} (f : α → β) (g : β → γ) (cmd : C α) :
    map g (map f cmd) = map (g ∘ f) cmd

namespace FieldCommand

variable {C : Type → Type} [FieldCommand C] {α : Type}

/-- The line: the verb, then each field after a comma. -/
def text (cmd : C (List Char)) : List Char :=
  (verb cmd).toList ++ fieldsText (fields cmd)

/-- **A framed command**: no field a branch reads up to a comma holds one. -/
def Framed (cmd : C (List Char)) : Prop :=
  ∀ f ∈ heads cmd, ',' ∉ f

instance : DecidablePred (Framed (C := C)) := fun _ =>
  inferInstanceAs (Decidable (∀ _ ∈ _, _))

theorem text_map (f : α → List Char) (cmd : C α) :
    text (map f cmd) = (verb cmd).toList ++ fieldsText ((fields cmd).map f) := by
  rw [text, verb_map, fields_map]

/-- The lines of the documented grammar are framed. -/
theorem framed_map_text (cmd : C DecimalInt) : Framed (map DecimalInt.text cmd) := by
  intro f hf
  rw [heads_map] at hf
  obtain ⟨n, -, rfl⟩ := List.mem_map.1 hf
  exact n.comma_not_mem_text

/-- The documented lines hold only the verb's letters, commas, signs and
digits. -/
theorem text_map_text_ne {line : List Char} {c : Char} (hc : c ∈ line)
    (hverb : ∀ cmd : C DecimalInt, c ∉ (verb cmd).toList)
    (hsym : c ≠ ',' ∧ c ≠ '+' ∧ c ≠ '-' ∧ c.isDigit = false)
    (cmd : C DecimalInt) : text (map DecimalInt.text cmd) ≠ line := by
  rw [text_map]
  exact verb_fieldsText_ne hc (hverb cmd) hsym _

end FieldCommand

namespace Goto

/-! ## The GOTO dialect -/

/-- **A GOTO-dialect command with fields**, over the type of its fields. -/
inductive Command (α : Type)
  | goto (x y : α)
  | click (x y : α)
  | scroll (x y direction : α) (amount : Option α)
  | scrollUp (x y : α) (amount : Option α)
  | scrollDown (x y : α) (amount : Option α)
  | hscroll (x y direction : α) (amount : Option α)
  | calibrate (x y : α)
  | screen (width height : α)
deriving DecidableEq, Repr

namespace Command

variable {α β : Type}

/-- The same command with `f` applied to every field. -/
def map (f : α → β) : Command α → Command β
  | goto x y => goto (f x) (f y)
  | click x y => click (f x) (f y)
  | scroll x y d a => scroll (f x) (f y) (f d) (a.map f)
  | scrollUp x y a => scrollUp (f x) (f y) (a.map f)
  | scrollDown x y a => scrollDown (f x) (f y) (a.map f)
  | hscroll x y d a => hscroll (f x) (f y) (f d) (a.map f)
  | calibrate x y => calibrate (f x) (f y)
  | screen w h => screen (f w) (f h)

/-- The verb the line starts with. -/
def verb : Command α → String
  | goto .. => "GOTO"
  | click .. => "CLICK"
  | scroll .. => "SCROLL"
  | scrollUp .. => "SCROLL_UP"
  | scrollDown .. => "SCROLL_DOWN"
  | hscroll .. => "HSCROLL"
  | calibrate .. => "CALIBRATE"
  | screen .. => "SCREEN"

/-- The fields, in the order of the line. -/
def fields : Command α → List α
  | goto x y | click x y | calibrate x y | screen x y => [x, y]
  | scroll x y d a | hscroll x y d a => [x, y, d] ++ a.toList
  | scrollUp x y a | scrollDown x y a => [x, y] ++ a.toList

/-- The fields a branch reads up to the next comma. The one after them, the
second of a pair or an amount, runs to the end of the line. -/
def heads : Command α → List α
  | goto x _ | click x _ | calibrate x _ | screen x _ => [x]
  | scroll x y d _ | hscroll x y d _ => [x, y, d]
  | scrollUp x y _ | scrollDown x y _ => [x, y]

/-- What the branch does with these values of the fields: without an
amount, `1` for `SCROLL,` and `HSCROLL,` and `3` for `SCROLL_UP,` and
`SCROLL_DOWN,`. -/
def action : Command Int → Action
  | goto x y => .moveTo x y
  | click x y => .clickAt x y
  | scroll x y d a => .scrollAt x y d (a.getD 1)
  | scrollUp x y a => .scrollAt x y 1 (a.getD 3)
  | scrollDown x y a => .scrollAt x y (-1) (a.getD 3)
  | hscroll x y d a => .hscroll x y d (a.getD 1)
  | calibrate x y => .setCurrentPosition x y
  | screen w h => .setScreenResolution w h

end Command

instance : FieldCommand Command where
  map := Command.map
  verb := Command.verb
  fields := Command.fields
  heads := Command.heads
  verb_map _ cmd := by cases cmd <;> rfl
  fields_map _ cmd := by cases cmd <;> simp [Command.map, Command.fields, toList_optionMap]
  heads_map _ cmd := by cases cmd <;> rfl
  map_map _ _ cmd := by cases cmd <;> simp [Command.map, Option.map_map]

open FieldCommand

/-! ### Reading a framed line -/

section

variable {verb : List Char} (hne : verb ≠ []) (hv : ',' ∉ verb) {x y d : List Char}
include hne hv

/-- A two-field line. -/
theorem fieldPair_text (h : ∀ f ∈ [x], ',' ∉ f) :
    fieldPair (verb ++ fieldsText [x, y]) = some (toInt x, toInt y) := by
  simp [fieldsText, fieldPair_eq hne hv, splitComma_append (h x (List.mem_singleton_self x))]

/-- A `SCROLL_UP,` or `SCROLL_DOWN,` line, with or without its amount. -/
theorem scrollStepFields_text (a : Option (List Char)) (h : ∀ f ∈ [x, y], ',' ∉ f) :
    scrollStepFields (verb ++ fieldsText ([x, y] ++ a.toList)) =
      some (toInt x, toInt y, (a.map toInt).getD 3) := by
  have hx := h x (by simp)
  have hy := h y (by simp)
  cases a <;> simp [fieldsText, scrollStepFields_eq hne hv, splitComma_append hx,
    splitComma_append hy, splitComma_eq_none_iff.2 hy]

/-- A `SCROLL,` or `HSCROLL,` line, with or without its amount. -/
theorem scrollFields_text (a : Option (List Char)) (h : ∀ f ∈ [x, y, d], ',' ∉ f) :
    scrollFields (verb ++ fieldsText ([x, y, d] ++ a.toList)) =
      some (toInt x, toInt y, toInt d, (a.map toInt).getD 1) := by
  have hx := h x (by simp)
  have hy := h y (by simp)
  have hd := h d (by simp)
  cases a <;> simp [fieldsText, scrollFields_eq hne hv, splitComma_append hx,
    splitComma_append hy, splitComma_append hd, splitComma_eq_none_iff.2 hd]

/-- What a two-field branch reads comes from a pair of fields, the first
without a comma. -/
theorem fields_of_fieldPair {t : List Char} {p : Int × Int}
    (h : fieldPair (verb ++ ',' :: t) = some p) :
    ∃ x y, (∀ f ∈ [x], ',' ∉ f) ∧ ',' :: t = fieldsText [x, y] := by
  rw [fieldPair_eq hne hv] at h
  obtain ⟨⟨x, y⟩, hs, -⟩ := Option.map_eq_some'.1 h
  obtain ⟨rfl, hx⟩ := eq_of_splitComma hs
  exact ⟨x, y, by simpa using hx, by simp [fieldsText]⟩

/-- What a three-field branch reads comes from `x`, `y` and maybe an amount. -/
theorem fields_of_scrollStepFields {t : List Char} {p : Int × Int × Int}
    (h : scrollStepFields (verb ++ ',' :: t) = some p) :
    ∃ x y a, (∀ f ∈ [x, y], ',' ∉ f) ∧
      ',' :: t = fieldsText ([x, y] ++ Option.toList a) := by
  rw [scrollStepFields_eq hne hv] at h
  obtain ⟨⟨x, r⟩, hs, -⟩ := Option.map_eq_some'.1 h
  obtain ⟨rfl, hx⟩ := eq_of_splitComma hs
  cases hr : splitComma r with
  | none => exact ⟨x, r, none, by simp [hx, splitComma_eq_none_iff.1 hr], by simp [fieldsText]⟩
  | some q =>
    obtain ⟨rfl, hy⟩ := eq_of_splitComma hr
    exact ⟨x, q.1, some q.2, by simp [hx, hy], by simp [fieldsText]⟩

/-- What a four-field branch reads comes from `x`, `y`, a direction and
maybe an amount. -/
theorem fields_of_scrollFields {t : List Char} {p : Int × Int × Int × Int}
    (h : scrollFields (verb ++ ',' :: t) = some p) :
    ∃ x y d a, (∀ f ∈ [x, y, d], ',' ∉ f) ∧
      ',' :: t = fieldsText ([x, y, d] ++ Option.toList a) := by
  rw [scrollFields_eq hne hv] at h
  obtain ⟨⟨x, r⟩, hs, h⟩ := Option.bind_eq_some.1 h
  obtain ⟨⟨y, r'⟩, hr, -⟩ := Option.map_eq_some'.1 h
  obtain ⟨rfl, hx⟩ := eq_of_splitComma hs
  obtain ⟨rfl, hy⟩ := eq_of_splitComma hr
  cases hd : splitComma r' with
  | none =>
    exact ⟨x, y, r', none, by simp [hx, hy, splitComma_eq_none_iff.1 hd], by simp [fieldsText]⟩
  | some q =>
    obtain ⟨rfl, hd'⟩ := eq_of_splitComma hd
    exact ⟨x, y, q.1, some q.2, by simp [hx, hy, hd'], by simp [fieldsText]⟩

end

/-- **Every framed command's line is read as its command**, each field
through `toInt`. -/
theorem handleCommand_text (cmd : Command (List Char)) (h : Framed cmd) :
    handleCommand true (text cmd) = (map toInt cmd).action := by
  show handleCommand true (cmd.verb.toList ++ fieldsText cmd.fields) = (cmd.map toInt).action
  unfold handleCommand pairBranch scrollBranch scrollStepBranch
  cases cmd with
  | goto _ _ | click _ _ | calibrate _ _ | screen _ _ =>
    rw [Command.verb, Command.fields, fieldPair_text (by decide) (by decide) h]
    simp [startsWith, List.isPrefixOf, fieldsText, Command.map, Command.action]
  | scroll _ _ _ a | hscroll _ _ _ a =>
    rw [Command.verb, Command.fields, scrollFields_text (by decide) (by decide) a h]
    simp [startsWith, List.isPrefixOf, fieldsText, Command.map, Command.action]
  | scrollUp _ _ a | scrollDown _ _ a =>
    rw [Command.verb, Command.fields, scrollStepFields_text (by decide) (by decide) a h]
    simp [startsWith, List.isPrefixOf, fieldsText, Command.map, Command.action]

/-- **On the documented grammar the arguments are the fields' integers.** -/
theorem handleCommand_decimal (cmd : Command DecimalInt) :
    handleCommand true (text (map DecimalInt.text cmd)) = (map DecimalInt.value cmd).action := by
  rw [handleCommand_text _ (framed_map_text cmd), map_map]
  congr
  funext n
  exact DecimalInt.atol_text n

/-! ### Which lines touch the mouse -/

/-- The actions that call into `mouseTo`: all but the replies. -/
def Action.touchesMouse : Action → Bool
  | .showStatus | .notConnected | .invalidFormat _ | .unknownCommand | .nothing => false
  | _ => true

section

variable {line : List Char} (verb : String) (hne : verb.toList ≠ []) (hv : ',' ∉ verb.toList)
  (hs : startsWith line (verb.toList ++ [',']) = true)
include hne hv hs

/-- A two-field branch that touches the mouse was handed a framed line. -/
theorem framed_of_pairBranch {act : Int → Int → Action} {otherwise : Action}
    (h : (pairBranch line act otherwise).touchesMouse = true)
    (ho : otherwise.touchesMouse = false) :
    ∃ x y, (∀ f ∈ [x], ',' ∉ f) ∧ line = verb.toList ++ fieldsText [x, y] := by
  obtain ⟨t, rfl⟩ := eq_of_startsWith verb hs
  unfold pairBranch at h
  split at h
  next heq =>
    obtain ⟨x, y, hx, ht⟩ := fields_of_fieldPair hne hv heq
    exact ⟨x, y, hx, by rw [← ht]⟩
  next => rw [ho] at h; cases h

/-- So was a four-field branch. -/
theorem framed_of_scrollBranch {act : Int → Int → Int → Int → Action} {usage : String}
    (h : (scrollBranch line act usage).touchesMouse = true) :
    ∃ x y d a, (∀ f ∈ [x, y, d], ',' ∉ f) ∧
      line = verb.toList ++ fieldsText ([x, y, d] ++ Option.toList a) := by
  obtain ⟨t, rfl⟩ := eq_of_startsWith verb hs
  unfold scrollBranch at h
  split at h
  next heq =>
    obtain ⟨x, y, d, a, hf, ht⟩ := fields_of_scrollFields hne hv heq
    exact ⟨x, y, d, a, hf, by rw [← ht]⟩
  next => cases h

/-- And a three-field branch. -/
theorem framed_of_scrollStepBranch {direction : Int} {usage : String}
    (h : (scrollStepBranch line direction usage).touchesMouse = true) :
    ∃ x y a, (∀ f ∈ [x, y], ',' ∉ f) ∧
      line = verb.toList ++ fieldsText ([x, y] ++ Option.toList a) := by
  obtain ⟨t, rfl⟩ := eq_of_startsWith verb hs
  unfold scrollStepBranch at h
  split at h
  next heq =>
    obtain ⟨x, y, a, hf, ht⟩ := fields_of_scrollStepFields hne hv heq
    exact ⟨x, y, a, hf, by rw [← ht]⟩
  next => cases h

end

/-- **Only a framed command's line, `HOME` or a `FACTOR,` line touches the
mouse**, and only while the phone is connected. The proof walks the chain of
`handleCommand`, one test at a time. -/
theorem touchesMouse_framed {connected : Bool} {line : List Char}
    (h : (handleCommand connected line).touchesMouse = true) :
    connected = true ∧ (line = "HOME".toList ∨ (∃ f, line = "FACTOR,".toList ++ f) ∨
      ∃ cmd : Command (List Char), Framed cmd ∧ line = text cmd) := by
  cases connected with
  | false =>
    by_cases hs : startsWith line "STATUS".toList = true
    · obtain ⟨t, rfl⟩ := List.isPrefixOf_iff_prefix.1 hs
      simp [handleCommand, startsWith, List.isPrefixOf] at h
      split at h <;> cases h
    · rw [handleCommand, if_pos (by simpa using hs)] at h
      cases h
  | true =>
    refine ⟨rfl, ?_⟩
    rw [handleCommand, if_neg (by simp)] at h
    obtain ⟨hG, h⟩ | ⟨-, h⟩ := of_apply_ite h
    · obtain ⟨x, y, hx, rfl⟩ := framed_of_pairBranch "GOTO" (by decide) (by decide) hG h rfl
      exact .inr (.inr ⟨.goto x y, hx, rfl⟩)
    obtain ⟨hC, h⟩ | ⟨-, h⟩ := of_apply_ite h
    · obtain ⟨x, y, hx, rfl⟩ := framed_of_pairBranch "CLICK" (by decide) (by decide) hC h rfl
      exact .inr (.inr ⟨.click x y, hx, rfl⟩)
    obtain ⟨hS, h⟩ | ⟨-, h⟩ := of_apply_ite h
    · obtain ⟨x, y, d, a, hf, rfl⟩ :=
        framed_of_scrollBranch "SCROLL" (by decide) (by decide) hS h
      exact .inr (.inr ⟨.scroll x y d a, hf, rfl⟩)
    obtain ⟨hU, h⟩ | ⟨-, h⟩ := of_apply_ite h
    · obtain ⟨x, y, a, hf, rfl⟩ :=
        framed_of_scrollStepBranch "SCROLL_UP" (by decide) (by decide) hU h
      exact .inr (.inr ⟨.scrollUp x y a, hf, rfl⟩)
    obtain ⟨hD, h⟩ | ⟨-, h⟩ := of_apply_ite h
    · obtain ⟨x, y, a, hf, rfl⟩ :=
        framed_of_scrollStepBranch "SCROLL_DOWN" (by decide) (by decide) hD h
      exact .inr (.inr ⟨.scrollDown x y a, hf, rfl⟩)
    obtain ⟨hH, h⟩ | ⟨-, h⟩ := of_apply_ite h
    · obtain ⟨x, y, d, a, hf, rfl⟩ :=
        framed_of_scrollBranch "HSCROLL" (by decide) (by decide) hH h
      exact .inr (.inr ⟨.hscroll x y d a, hf, rfl⟩)
    obtain ⟨hHome, -⟩ | ⟨-, h⟩ := of_apply_ite h
    · exact .inl hHome
    obtain ⟨hCal, h⟩ | ⟨-, h⟩ := of_apply_ite h
    · obtain ⟨x, y, hx, rfl⟩ :=
        framed_of_pairBranch "CALIBRATE" (by decide) (by decide) hCal h rfl
      exact .inr (.inr ⟨.calibrate x y, hx, rfl⟩)
    obtain ⟨hScr, h⟩ | ⟨-, h⟩ := of_apply_ite h
    · obtain ⟨x, y, hx, rfl⟩ :=
        framed_of_pairBranch "SCREEN" (by decide) (by decide) hScr h rfl
      exact .inr (.inr ⟨.screen x y, hx, rfl⟩)
    obtain ⟨hF, -⟩ | ⟨-, h⟩ := of_apply_ite h
    · obtain ⟨f, rfl⟩ := List.isPrefixOf_iff_prefix.1 hF
      exact .inr (.inl ⟨f, rfl⟩)
    obtain ⟨-, h⟩ | ⟨-, h⟩ := of_apply_ite h <;> cases h

end Goto

/-! ## The MOVE dialect -/

/-- **A MOVE-dialect command with fields**, over the type of its fields. -/
inductive Command (α : Type)
  | move (x y : α)
  | click (x y : α)
  | scroll (direction : α) (amount : Option α)
  | reset (x y : α)
  | screen (width height : α)
deriving DecidableEq, Repr

namespace Command

variable {α β : Type}

/-- The same command with `f` applied to every field. -/
def map (f : α → β) : Command α → Command β
  | move x y => move (f x) (f y)
  | click x y => click (f x) (f y)
  | scroll d a => scroll (f d) (a.map f)
  | reset x y => reset (f x) (f y)
  | screen w h => screen (f w) (f h)

/-- The verb the line starts with. -/
def verb : Command α → String
  | move .. => "MOVE"
  | click .. => "CLICK"
  | scroll .. => "SCROLL"
  | reset .. => "RESET"
  | screen .. => "SCREEN"

/-- The fields, in the order of the line. -/
def fields : Command α → List α
  | move x y | click x y | reset x y | screen x y => [x, y]
  | scroll d a => [d] ++ a.toList

/-- The fields a branch reads up to the next comma. -/
def heads : Command α → List α
  | move x _ | click x _ | reset x _ | screen x _ => [x]
  | scroll d _ => [d]

/-- What the branch does with these values of the fields: a scroll without
an amount scrolls by `1`. -/
def action : Command Int → Action
  | move x y => .moveToAbsolute x y
  | click x y => .clickAt x y
  | scroll d a => .scroll d (a.getD 1)
  | reset x y => .resetPosition x y
  | screen w h => .setScreenResolution w h

end Command

instance : FieldCommand Command where
  map := Command.map
  verb := Command.verb
  fields := Command.fields
  heads := Command.heads
  verb_map _ cmd := by cases cmd <;> rfl
  fields_map _ cmd := by cases cmd <;> simp [Command.map, Command.fields, toList_optionMap]
  heads_map _ cmd := by cases cmd <;> rfl
  map_map _ _ cmd := by cases cmd <;> simp [Command.map, Option.map_map]

open FieldCommand

/-- A `SCROLL,` line, with or without its amount. -/
theorem parseScroll_text {verb d : List Char} (hne : verb ≠ []) (hv : ',' ∉ verb)
    (a : Option (List Char)) (h : ∀ f ∈ [d], ',' ∉ f) :
    parseScroll (verb ++ fieldsText ([d] ++ a.toList)) =
      .scroll (toInt d) ((a.map toInt).getD 1) := by
  have hd := h d (List.mem_singleton_self d)
  cases a <;> simp [fieldsText, parseScroll_eq hne hv, splitComma_append hd,
    splitComma_eq_none_iff.2 hd]

/-- **Every framed command's line is read as its command**, each field
through `toInt`. -/
theorem handleCommand_text (cmd : Command (List Char)) (h : Framed cmd) :
    handleCommand (text cmd) = (map toInt cmd).action := by
  show handleCommand (cmd.verb.toList ++ fieldsText cmd.fields) = (cmd.map toInt).action
  unfold handleCommand
  simp only [parseFields_eq_fieldPair]
  cases cmd with
  | move _ _ | click _ _ | reset _ _ | screen _ _ =>
    rw [Command.verb, Command.fields, Goto.fieldPair_text (by decide) (by decide) h]
    simp [startsWith, List.isPrefixOf, fieldsText, Command.map, Command.action]
  | scroll _ a =>
    rw [Command.verb, Command.fields, parseScroll_text (by decide) (by decide) a h]
    simp [startsWith, List.isPrefixOf, fieldsText, Command.map, Command.action]

/-- **On the documented grammar the arguments are the fields' integers.** -/
theorem handleCommand_decimal (cmd : Command DecimalInt) :
    handleCommand (text (map DecimalInt.text cmd)) = (map DecimalInt.value cmd).action := by
  rw [handleCommand_text _ (framed_map_text cmd), map_map]
  congr
  funext n
  exact DecimalInt.atol_text n

/-- The actions that call into `mouse`: all but the replies. -/
def Action.touchesMouse : Action → Bool
  | .showStatus | .invalidFormat _ | .unknownCommand => false
  | _ => true

/-- A two-field branch that touches the mouse was handed a framed line. -/
theorem framed_of_parseFields {line : List Char} (verb : String) (hne : verb.toList ≠ [])
    (hv : ',' ∉ verb.toList) (hs : startsWith line (verb.toList ++ [',']) = true)
    {act : Int → Int → Action} {usage : String}
    (h : (parseFields line act usage).touchesMouse = true) :
    ∃ x y, (∀ f ∈ [x], ',' ∉ f) ∧ line = verb.toList ++ fieldsText [x, y] := by
  obtain ⟨t, rfl⟩ := eq_of_startsWith verb hs
  rw [parseFields_eq_fieldPair] at h
  split at h
  next heq =>
    obtain ⟨x, y, hx, ht⟩ := Goto.fields_of_fieldPair hne hv heq
    exact ⟨x, y, hx, by rw [← ht]⟩
  next => cases h

/-- Every `SCROLL,` line is framed: the direction runs up to a second comma
or to the end. -/
theorem framed_of_scroll (t : List Char) :
    ∃ d a, (∀ f ∈ [d], ',' ∉ f) ∧ ',' :: t = fieldsText ([d] ++ Option.toList a) := by
  cases hs : splitComma t with
  | none => exact ⟨t, none, by simpa using splitComma_eq_none_iff.1 hs, by simp [fieldsText]⟩
  | some q =>
    obtain ⟨rfl, hd⟩ := eq_of_splitComma hs
    exact ⟨q.1, some q.2, by simpa using hd, by simp [fieldsText]⟩

/-- **Only a framed command's line, `CLICK` or `RESET` touches the mouse.** -/
theorem touchesMouse_framed {line : List Char} (h : (handleCommand line).touchesMouse = true) :
    line = "CLICK".toList ∨ line = "RESET".toList ∨
      ∃ cmd : Command (List Char), Framed cmd ∧ line = text cmd := by
  rw [handleCommand] at h
  obtain ⟨-, h⟩ | ⟨-, h⟩ := of_apply_ite h
  · cases h
  obtain ⟨hM, h⟩ | ⟨-, h⟩ := of_apply_ite h
  · obtain ⟨x, y, hx, rfl⟩ := framed_of_parseFields "MOVE" (by decide) (by decide) hM h
    exact .inr (.inr ⟨.move x y, hx, rfl⟩)
  obtain ⟨hC, h⟩ | ⟨-, h⟩ := of_apply_ite h
  · obtain ⟨x, y, hx, rfl⟩ := framed_of_parseFields "CLICK" (by decide) (by decide) hC h
    exact .inr (.inr ⟨.click x y, hx, rfl⟩)
  obtain ⟨hClick, -⟩ | ⟨-, h⟩ := of_apply_ite h
  · exact .inl hClick
  obtain ⟨hS, -⟩ | ⟨-, h⟩ := of_apply_ite h
  · obtain ⟨t, rfl⟩ := eq_of_startsWith "SCROLL" hS
    obtain ⟨d, a, hd, ht⟩ := framed_of_scroll t
    exact .inr (.inr ⟨.scroll d a, hd, by rw [ht]; rfl⟩)
  obtain ⟨hR, h⟩ | ⟨-, h⟩ := of_apply_ite h
  · obtain ⟨x, y, hx, rfl⟩ := framed_of_parseFields "RESET" (by decide) (by decide) hR h
    exact .inr (.inr ⟨.reset x y, hx, rfl⟩)
  obtain ⟨hReset, -⟩ | ⟨-, h⟩ := of_apply_ite h
  · exact .inr (.inl hReset)
  obtain ⟨hScr, h⟩ | ⟨-, h⟩ := of_apply_ite h
  · obtain ⟨x, y, hx, rfl⟩ := framed_of_parseFields "SCREEN" (by decide) (by decide) hScr h
    exact .inr (.inr ⟨.screen x y, hx, rfl⟩)
  cases h

/-! ## Both parsers -/

/-- **The parsers read the documented commands, and only lines of a
command's shape touch the mouse.** On every line of the documented grammar
(the verb, then its fields, each an optionally signed decimal integer in
`int` range, a scroll's amount present or not) the GOTO dialect's
`handleCommand` while connected and the MOVE dialect's `handleCommand` take
the verb's action with exactly those integers. A line without a NUL touches
the mouse only if it is `HOME` or starts with `FACTOR,` (GOTO dialect), is
`CLICK` or `RESET` (MOVE dialect), or is a verb followed by fields of which
those read up to a comma hold none; the arguments are then `toInt` of those
fields. -/
theorem handleCommand_reads_fields :
    (∀ cmd : Goto.Command DecimalInt,
      Goto.handleCommand true (text (map DecimalInt.text cmd)) =
        (map DecimalInt.value cmd).action) ∧
    (∀ connected line, '\x00' ∉ line → (Goto.handleCommand connected line).touchesMouse = true →
      line = "HOME".toList ∨ (∃ f, line = "FACTOR,".toList ++ f) ∨
      ∃ cmd : Goto.Command (List Char), Framed cmd ∧ line = text cmd ∧
        Goto.handleCommand connected line = (map toInt cmd).action) ∧
    (∀ cmd : Command DecimalInt,
      handleCommand (text (map DecimalInt.text cmd)) = (map DecimalInt.value cmd).action) ∧
    (∀ line, '\x00' ∉ line → (handleCommand line).touchesMouse = true →
      line = "CLICK".toList ∨ line = "RESET".toList ∨
      ∃ cmd : Command (List Char), Framed cmd ∧ line = text cmd ∧
        handleCommand line = (map toInt cmd).action) := by
  refine ⟨Goto.handleCommand_decimal, fun connected line _ h => ?_, handleCommand_decimal,
    fun line _ h => ?_⟩
  · obtain ⟨rfl, hl | hl | ⟨cmd, hf, rfl⟩⟩ := Goto.touchesMouse_framed h
    exacts [.inl hl, .inr (.inl hl), .inr (.inr ⟨cmd, hf, rfl, Goto.handleCommand_text cmd hf⟩)]
  · obtain hl | hl | ⟨cmd, hf, rfl⟩ := touchesMouse_framed h
    exacts [.inl hl, .inr (.inl hl), .inr (.inr ⟨cmd, hf, rfl, handleCommand_text cmd hf⟩)]

/-- **A field that is no number is read as `0`.** `CLICK,abc,5` is no line
of either grammar, yet the GOTO dialect clicks at `(0, 5)`; so does the MOVE
dialect, which upper-cases the line to `CLICK,ABC,5` first. -/
theorem click_reads_non_numeric_field :
    Goto.handleCommand true "CLICK,abc,5".toList = .clickAt 0 5 ∧
    (∀ cmd : Goto.Command DecimalInt, text (map DecimalInt.text cmd) ≠ "CLICK,abc,5".toList) ∧
    loop "CLICK,abc,5\n".toList = (some (.clickAt 0 5), []) ∧
    handleCommand "CLICK,ABC,5".toList = .clickAt 0 5 ∧
    (∀ cmd : Command DecimalInt, text (map DecimalInt.text cmd) ≠ "CLICK,ABC,5".toList) :=
  ⟨by decide,
    text_map_text_ne (c := 'a') (by decide)
      (fun cmd => by cases cmd <;> simp [verb, Goto.Command.verb]) (by decide),
    by decide, by decide,
    text_map_text_ne (c := 'A') (by decide)
      (fun cmd => by cases cmd <;> simp [verb, Command.verb]) (by decide)⟩

end Firmware

end TouchBridge
