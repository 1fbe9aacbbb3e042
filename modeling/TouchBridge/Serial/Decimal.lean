import Mathlib
/-!
# Decimal integers on the serial link

The host writes each `int` argument of a command with `std::ostringstream`'s
`operator<<` (`formatInt`), and the firmware reads it back with
`String::toInt`, that is newlib's `atol` (`atol`). On the ESP32 a `long` has
32 bits, so `atol` saturates outside the range of a C `int`; inside it the two
are inverse (`atol_formatInt`). The written form never holds a comma, a line
feed, white space or a lower-case letter (`formatInt_subset`), which is what
lets the firmware's field splitting find it again.
-/

namespace TouchBridge

/-- **A C `int`**: 32 bits on both sides of the link. -/
structure CInt where
  val : Int
  min_le : -2147483648 ≤ val
  le_max : val ≤ 2147483647
deriving DecidableEq, Repr

instance : Zero CInt := ⟨⟨0, by decide, by decide⟩⟩

/-- A value a C `int` can hold. -/
def InInt (v : Int) : Prop := -2147483648 ≤ v ∧ v ≤ 2147483647

instance : DecidablePred InInt := fun _ => inferInstanceAs (Decidable (_ ∧ _))

/-- **The `int` an operation yields**, or `none` when the exact result
leaves the range: signed overflow, where C's behaviour is undefined. -/
def CInt.checked (v : Int) : Option CInt :=
  if h : InInt v then some ⟨v, h.1, h.2⟩ else none

theorem CInt.checked_of_inInt {v : Int} (h : InInt v) : CInt.checked v = some ⟨v, h.1, h.2⟩ :=
  dif_pos h

/-- **`operator<<(int)`** on an `ostringstream` in the default locale: the
decimal digits of `|n|`, most significant first, after a `-` when `n < 0`. -/
def formatInt (n : Int) : List Char :=
  if n < 0 then '-' :: Nat.toDigits 10 n.natAbs else Nat.toDigits 10 n.natAbs

/-- C's `isspace` in the default locale. -/
def isspace (c : Char) : Bool :=
  c = ' ' || c = '\t' || c = '\n' || c = '\x0b' || c = '\x0c' || c = '\r'

/-- The value of a run of decimal digits, accumulated from the left as
`strtol` does. -/
def digitsValue (ds : List Char) : Nat :=
  ds.foldl (fun acc c => 10 * acc + (c.toNat - '0'.toNat)) 0

/-- `LONG_MIN` of the firmware, whose `long` has 32 bits. -/
def longMin : Int := -2147483648

/-- `LONG_MAX` of the firmware. -/
def longMax : Int := 2147483647

/-- **`atol`**, as newlib's `strtol(s, NULL, 10)`: skip white space, take one
optional sign, then the longest run of digits; a value out of range
saturates to `LONG_MIN` or `LONG_MAX`. -/
def atol (s : List Char) : Int :=
  match s.dropWhile isspace with
  | [] => 0
  | c :: t =>
    let digits := (if c = '-' ∨ c = '+' then t else c :: t).takeWhile Char.isDigit
    max longMin (min longMax (if c = '-' then -(digitsValue digits : Int) else digitsValue digits))

/-! ## The digits `operator<<` writes -/

/-- The characters `operator<<` writes for an `int`. -/
def decimalChars : List Char := "-0123456789".toList

/-- What a digit character is, checked once for the ten of them. -/
theorem digitChar_spec : ∀ d < 10, (Nat.digitChar d).isDigit = true ∧
    (Nat.digitChar d).toNat - '0'.toNat = d ∧ Nat.digitChar d ∈ decimalChars ∧
    Nat.digitChar d ≠ '-' ∧ Nat.digitChar d ≠ '+' := by
  decide

/-- What no character `operator<<` writes is. -/
theorem decimalChars_spec : ∀ c ∈ decimalChars, c ≠ ',' ∧ c ≠ '\n' ∧ isspace c = false ∧
    c.toUpper = c := by
  decide

theorem toDigitsCore_append (b f n : Nat) (acc : List Char) :
    Nat.toDigitsCore b f n acc = Nat.toDigitsCore b f n [] ++ acc := by
  induction f generalizing n acc with
  | zero => rfl
  | succ f ih =>
    simp only [Nat.toDigitsCore]
    split_ifs
    · rfl
    · rw [ih _ (_ :: acc), ih _ [_]]
      simp

/-- The last digit comes off the end. -/
theorem toDigitsCore_succ (b f n : Nat) :
    Nat.toDigitsCore b (f + 1) n [] =
      (if n / b = 0 then [] else Nat.toDigitsCore b f (n / b) []) ++ [Nat.digitChar (n % b)] := by
  simp only [Nat.toDigitsCore]
  split_ifs
  · rfl
  · exact toDigitsCore_append _ _ _ _

theorem digitsValue_append_digitChar (ds : List Char) {d : Nat} (hd : d < 10) :
    digitsValue (ds ++ [Nat.digitChar d]) = 10 * digitsValue ds + d := by
  simp only [digitsValue, List.foldl_append, List.foldl_cons, List.foldl_nil,
    (digitChar_spec d hd).2.1]

/-- With fuel to spare, the digits read back to the number. -/
theorem toDigitsCore_spec {f n : Nat} (hf : n < f) :
    digitsValue (Nat.toDigitsCore 10 f n []) = n ∧
      ∀ c ∈ Nat.toDigitsCore 10 f n [], ∃ d < 10, c = Nat.digitChar d := by
  induction f generalizing n with
  | zero => omega
  | succ f ih =>
    have hlast : n % 10 < 10 := Nat.mod_lt _ (by omega)
    rw [toDigitsCore_succ, digitsValue_append_digitChar _ hlast]
    split_ifs with h0
    · refine ⟨by simp [digitsValue]; omega, fun c hc => ⟨_, hlast, by simpa using hc⟩⟩
    · obtain ⟨hv, hc⟩ := ih (n := n / 10) (by omega)
      refine ⟨by omega, fun c hmem => ?_⟩
      rcases List.mem_append.1 hmem with h | h
      · exact hc c h
      · exact ⟨_, hlast, List.mem_singleton.1 h⟩

/-- Every character `operator<<` writes is a sign or a digit. -/
theorem formatInt_subset (n : Int) : ∀ c ∈ formatInt n, c ∈ decimalChars := by
  have hd : ∀ c ∈ Nat.toDigits 10 n.natAbs, c ∈ decimalChars := fun c hc => by
    obtain ⟨d, hd, rfl⟩ := (toDigitsCore_spec (Nat.lt_succ_self _)).2 c hc
    exact (digitChar_spec d hd).2.2.1
  unfold formatInt
  split_ifs
  · exact List.forall_mem_cons.2 ⟨by decide, hd⟩
  · exact hd

/-- `atol` of a run of digits, bare or after a `-`, before saturation. -/
theorem atol_digits {ds : List Char} (hds : ∀ c ∈ ds, ∃ d < 10, c = Nat.digitChar d) :
    atol ds = max longMin (min longMax (digitsValue ds)) ∧
      atol ('-' :: ds) = max longMin (min longMax (-(digitsValue ds : Int))) := by
  have htake : ds.takeWhile Char.isDigit = ds := List.takeWhile_eq_self_iff.2 fun c hc => by
    obtain ⟨d, hd, rfl⟩ := hds c hc
    exact (digitChar_spec d hd).1
  have hminus : ('-' :: ds).dropWhile isspace = '-' :: ds := List.dropWhile_cons_of_neg (by decide)
  refine ⟨?_, by simp only [atol, hminus, true_or, if_true, htake]⟩
  match ds, hds, htake with
  | [], _, _ => rfl
  | c :: t, hds, htake =>
    obtain ⟨d, hd, rfl⟩ := hds c (List.mem_cons_self _ _)
    obtain ⟨-, -, hmem, hm, hp⟩ := digitChar_spec d hd
    have hdrop : (Nat.digitChar d :: t).dropWhile isspace = Nat.digitChar d :: t :=
      List.dropWhile_cons_of_neg (by simp [(decimalChars_spec _ hmem).2.2.1])
    simp only [atol, hdrop, hm, hp, or_self, if_false, htake]

/-- Saturation leaves a value of the range alone. -/
theorem saturate_of_mem {v : Int} (h : longMin ≤ v ∧ v ≤ longMax) :
    max longMin (min longMax v) = v := by
  rw [min_eq_right h.2, max_eq_right h.1]

/-- **`atol` reads back every `int` `operator<<` writes.** -/
theorem atol_formatInt (n : CInt) : atol (formatInt n.val) = n.val := by
  obtain ⟨hv, hc⟩ := toDigitsCore_spec (Nat.lt_succ_self n.val.natAbs)
  obtain ⟨hpos, hneg⟩ := atol_digits hc
  have hrange : longMin ≤ n.val ∧ n.val ≤ longMax := ⟨n.min_le, n.le_max⟩
  unfold formatInt Nat.toDigits
  split_ifs with h
  · rw [hneg, hv, Int.ofNat_natAbs_of_nonpos h.le, neg_neg, saturate_of_mem hrange]
  · rw [hpos, hv, Int.natAbs_of_nonneg (not_lt.1 h), saturate_of_mem hrange]

/-! ## Decimal integers as a command spells them -/

/-- **An optionally signed decimal integer**, as a command's grammar spells
one: no sign, `+` or `-`, then one or more digits, of a value an `int`
holds. -/
structure DecimalInt where
  sign : List Char
  digits : List Char
  sign_mem : sign = [] ∨ sign = ['+'] ∨ sign = ['-']
  digits_ne : digits ≠ []
  isDigit : ∀ c ∈ digits, c.isDigit = true
  inInt : InInt (if sign = ['-'] then -(digitsValue digits : Int) else digitsValue digits)

namespace DecimalInt

/-- The characters of the field. -/
def text (n : DecimalInt) : List Char := n.sign ++ n.digits

/-- The integer it spells. -/
def value (n : DecimalInt) : Int :=
  if n.sign = ['-'] then -(digitsValue n.digits : Int) else digitsValue n.digits

/-- A digit is no sign, no comma and no white space. -/
theorem ne_of_isDigit {c : Char} (h : c.isDigit = true) :
    c ≠ '-' ∧ c ≠ '+' ∧ c ≠ ',' ∧ isspace c = false := by
  refine ⟨?_, ?_, ?_, ?_⟩
  · rintro rfl; exact absurd h (by decide)
  · rintro rfl; exact absurd h (by decide)
  · rintro rfl; exact absurd h (by decide)
  · by_contra hs
    simp only [isspace, Bool.not_eq_false, Bool.or_eq_true, decide_eq_true_eq] at hs
    rcases hs with (((((rfl | rfl) | rfl) | rfl) | rfl) | rfl) <;> exact absurd h (by decide)

/-- `atol` of a run of digits, bare or after one sign, before saturation. -/
theorem atol_sign_digits {ds : List Char} (hne : ds ≠ []) (hds : ∀ c ∈ ds, c.isDigit = true) :
    atol ds = max longMin (min longMax (digitsValue ds)) ∧
      atol ('+' :: ds) = max longMin (min longMax (digitsValue ds)) ∧
      atol ('-' :: ds) = max longMin (min longMax (-(digitsValue ds : Int))) := by
  have htake : ds.takeWhile Char.isDigit = ds := List.takeWhile_eq_self_iff.2 hds
  have hplus : ('+' :: ds).dropWhile isspace = '+' :: ds := List.dropWhile_cons_of_neg (by decide)
  have hminus : ('-' :: ds).dropWhile isspace = '-' :: ds := List.dropWhile_cons_of_neg (by decide)
  refine ⟨?_, by simp only [atol, hplus, Char.reduceEq, ↓reduceIte, or_true, htake],
    by simp only [atol, hminus, ↓reduceIte, Char.reduceEq, or_false, htake]⟩
  obtain ⟨c, t, rfl⟩ := List.exists_cons_of_ne_nil hne
  obtain ⟨hm, hp, -, hs⟩ := ne_of_isDigit (hds c (List.mem_cons_self _ _))
  have hdrop : (c :: t).dropWhile isspace = c :: t := List.dropWhile_cons_of_neg (by simp [hs])
  simp only [atol, hdrop, hm, hp, or_self, if_false, htake]

/-- **`atol` reads every decimal integer back.** -/
theorem atol_text (n : DecimalInt) : atol n.text = n.value := by
  obtain ⟨hd, hp, hm⟩ := atol_sign_digits n.digits_ne n.isDigit
  have hr : longMin ≤ n.value ∧ n.value ≤ longMax := n.inInt
  unfold text
  rcases n.sign_mem with h | h | h
  · rw [h, List.nil_append, hd, ← saturate_of_mem hr, value, h, if_neg (by simp)]
  · rw [h, List.singleton_append, hp, ← saturate_of_mem hr, value, h, if_neg (by simp)]
  · rw [h, List.singleton_append, hm, ← saturate_of_mem hr, value, h, if_pos rfl]

end DecimalInt

end TouchBridge
