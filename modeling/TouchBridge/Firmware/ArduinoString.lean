import TouchBridge.Serial.Decimal
/-!
# The Arduino `String` operations the firmware parses with

The MOVE-dialect firmware reads a command with `Serial.readStringUntil`,
normalises it with `trim` and `toUpperCase`, and splits it with `indexOf`,
`substring` and `toInt`, as the ESP32 core's `WString.cpp` implements them.
A `String` is its characters. Several of these operations take its C
string view, which stops at the first NUL: `==` is `strcmp`, `indexOf` is
`strchr`, `toUpperCase` loops up to the NUL, `startsWith` is `strncmp`. On a
string without a NUL that view is the whole string and the two readings
agree; no line the host writes holds one, and what is proved of an
arbitrary line assumes it holds none.

Each operation gets the one lemma the round trip needs: what it does to a
line of the shape the host writes (`readStringUntil_append`,
`indexOf_append`, `substring_append`, ...).
-/

namespace TouchBridge

namespace Firmware

/-- **`String::trim`**: step over white space from the front, then from the back. -/
def trim (s : List Char) : List Char :=
  ((s.dropWhile isspace).reverse.dropWhile isspace).reverse

/-- **`String::toUpperCase`**: `toupper` on every character. -/
def toUpperCase (s : List Char) : List Char :=
  s.map Char.toUpper

/-- **`String::startsWith`**: the length check, then `strncmp` over the prefix. -/
def startsWith (s p : List Char) : Bool :=
  p.isPrefixOf s

/-- **`strchr`**: the offset of the first `ch`. -/
def strchr (ch : Char) : List Char → Option Nat
  | [] => none
  | c :: s => if c = ch then some 0 else (strchr ch s).map (· + 1)

/-- **`String::indexOf(ch, fromIndex)`**: the first index at or after
`fromIndex` holding `ch`, or `-1`. -/
def indexOf (s : List Char) (ch : Char) (fromIndex : Nat) : Int :=
  if fromIndex ≥ s.length then -1
  else match strchr ch (s.drop fromIndex) with
    | some i => (fromIndex + i : Nat)
    | none => -1

/-- **`String::substring(left, right)`**: the bounds are swapped when out of
order and the right one is cut to the length. `substring(left)` is
`substring(left, length())`. -/
def substring (s : List Char) (left right : Nat) : List Char :=
  if min left right ≥ s.length then [] else (s.take (max left right)).drop (min left right)

/-- **`String::toInt`**: `atol` of the buffer. -/
def toInt (s : List Char) : Int :=
  atol s

/-- **`Stream::readStringUntil(terminator)`**: the characters before the
first terminator, and what follows it. -/
def readStringUntil (terminator : Char) : List Char → List Char × List Char
  | [] => ([], [])
  | c :: s =>
    if c = terminator then ([], s)
    else ((c :: (readStringUntil terminator s).1), (readStringUntil terminator s).2)

/-! ## On the lines the host writes -/

section

variable {s p q : List Char} {ch : Char}

theorem dropWhile_isspace (h : ∀ c ∈ s, isspace c = false) : s.dropWhile isspace = s := by
  cases s with
  | nil => rfl
  | cons c t => exact List.dropWhile_cons_of_neg (by simp [h c (List.mem_cons_self _ _)])

/-- A line without white space is its own trim. -/
theorem trim_eq_self (h : ∀ c ∈ s, isspace c = false) : trim s = s := by
  rw [trim, dropWhile_isspace h, dropWhile_isspace (by simpa using h), List.reverse_reverse]

theorem toUpperCase_eq_self (h : ∀ c ∈ s, c.toUpper = c) : toUpperCase s = s :=
  (List.map_congr_left h).trans (List.map_id s)

theorem strchr_append (h : ch ∉ p) : strchr ch (p ++ ch :: s) = some p.length := by
  induction p with
  | nil => simp [strchr]
  | cons c p ih =>
    rw [List.mem_cons, not_or] at h
    simp [strchr, Ne.symm h.1, ih h.2]

/-- `indexOf` from the end of `q` finds the first `ch` after it. -/
theorem indexOf_append (h : ch ∉ p) :
    indexOf (q ++ p ++ ch :: s) ch q.length = (q.length + p.length : Nat) := by
  have hlt : ¬ q.length ≥ (q ++ p ++ ch :: s).length := by simp
  rw [indexOf, if_neg hlt, List.append_assoc, List.drop_left, strchr_append h]

/-- `substring` cuts out the middle of a three-part line. -/
theorem substring_append (s : List Char) :
    substring (p ++ q ++ s) p.length (p.length + q.length) = q := by
  rw [substring, min_eq_left (by omega), max_eq_right (by omega)]
  split_ifs with h
  · simp only [List.length_append] at h
    rw [List.length_eq_zero.1 (by omega : q.length = 0)]
  · rw [List.append_assoc, List.take_append, List.take_left, List.drop_left]

/-- `substring(begin)` is everything from `begin` on. -/
theorem substring_drop : substring (p ++ s) p.length (p ++ s).length = s := by
  rw [substring, min_eq_left (by simp), max_eq_right (by simp)]
  split_ifs with h
  · simp only [List.length_append] at h
    exact (List.length_eq_zero.1 (by omega)).symm
  · rw [List.take_length, List.drop_left]

theorem readStringUntil_append {t : Char} (h : t ∉ p) (rest : List Char) :
    readStringUntil t (p ++ t :: rest) = (p, rest) := by
  induction p with
  | nil => simp [readStringUntil]
  | cons c p ih =>
    rw [List.mem_cons, not_or] at h
    simp [readStringUntil, Ne.symm h.1, ih h.2]

end

/-! ## Fields between commas

The branches read their fields with `indexOf(',', from)` and `substring`:
from just past a comma, `indexOf` finds the next comma of what follows
(`indexOf_comma`), so each field is the text up to it (`splitComma`). -/

/-- **The text before the first comma and the text after it**, if there is
a comma. -/
def splitComma : List Char → Option (List Char × List Char)
  | [] => none
  | c :: s => if c = ',' then some ([], s) else (splitComma s).map fun p => (c :: p.1, p.2)

theorem splitComma_append {a : List Char} (ha : ',' ∉ a) (b : List Char) :
    splitComma (a ++ ',' :: b) = some (a, b) := by
  induction a with
  | nil => simp [splitComma]
  | cons c a ih =>
    rw [List.mem_cons, not_or] at ha
    simp [splitComma, Ne.symm ha.1, ih ha.2]

/-- There is no comma to split at exactly when the text holds none. -/
theorem splitComma_eq_none_iff {s : List Char} : splitComma s = none ↔ ',' ∉ s := by
  induction s with
  | nil => simp [splitComma]
  | cons c s ih =>
    by_cases hc : c = ','
    · simp [splitComma, hc]
    · simp [splitComma, hc, ih, Ne.symm hc]

/-- What `splitComma` finds is a comma-free field, a comma, and the rest. -/
theorem eq_of_splitComma {s a b : List Char} (h : splitComma s = some (a, b)) :
    s = a ++ ',' :: b ∧ ',' ∉ a := by
  induction s generalizing a with
  | nil => simp [splitComma] at h
  | cons c s ih =>
    by_cases hc : c = ','
    · simp only [splitComma, hc, if_true, Option.some.injEq, Prod.mk.injEq] at h
      obtain ⟨rfl, rfl⟩ := h
      simp [hc]
    · simp only [splitComma, hc, if_false, Option.map_eq_some', Prod.exists, Prod.mk.injEq] at h
      obtain ⟨a', b', hs, rfl, rfl⟩ := h
      obtain ⟨rfl, ha'⟩ := ih hs
      simp [hc, ha', Ne.symm hc]

theorem strchr_comma (s : List Char) : strchr ',' s = (splitComma s).map (·.1.length) := by
  induction s with
  | nil => rfl
  | cons c s ih =>
    by_cases hc : c = ',' <;> simp [strchr, splitComma, hc, ih, Option.map_map, Function.comp_def]

/-- **`indexOf(',', from)` finds the first comma after `from`.** -/
theorem indexOf_comma (q s : List Char) :
    indexOf (q ++ s) ',' q.length =
      match splitComma s with
      | some p => ((q.length + p.1.length : Nat) : Int)
      | none => -1 := by
  unfold indexOf
  split_ifs with h
  · rw [List.length_append] at h
    rw [List.eq_nil_of_length_eq_zero (by omega : s.length = 0)]
    rfl
  · rw [List.drop_left, strchr_comma]
    cases splitComma s <;> rfl

end Firmware

end TouchBridge
