import NodeFlow.Number
import NodeFlow.Proofs.Binary64.Nearest
import NodeFlow.Proofs.Layout
import Mathlib.Data.List.Forall2
import Mathlib.Data.List.TakeWhile
import Mathlib.Data.Nat.Digits.Defs

/-!
# The grammar of number texts

Which texts stand for numbers, and for which ones, told without reading: signs, rows of digits of
any script, points, exponents, and the other bases. Main statements: numerals are read from their
parts as the grammar has them and from nothing else, and what such a numeral becomes is the nearest
number to what its parts denote.
-/

namespace NodeFlow

open Text (digitValue? digitsValue isDecimalDigit)

/-! ## The grammar -/

/-- A row of characters denotes a number in a base: each of them is a digit of some value. -/
def Denotes (base : Nat) (digit : Char → Nat → Prop) (row : List Char) (n : Nat) : Prop :=
  ∃ values, List.Forall₂ digit row values ∧ n = Nat.ofDigits base values.reverse

/-- A character is a decimal digit of some script. -/
def DecimalDigit (c : Char) (value : Nat) : Prop :=
  digitValue? c = some value

/-- A character is an ASCII digit of a base; letters of either case follow the nine. -/
def RadixDigit (base : Nat) (c : Char) (value : Nat) : Prop :=
  value < base ∧ (c = value.digitChar ∨ c = value.digitChar.toUpper)

/-- The letters behind a leading zero that announce another base. -/
def radixMarks : List (Char × Nat) :=
  [('x', 16), ('X', 16), ('o', 8), ('O', 8), ('b', 2), ('B', 2)]

/-- A sign, which may be missing; it tells whether a number is negative. -/
inductive SignText : List Char → Bool → Prop
  | none : SignText [] false
  | plus : SignText ['+'] false
  | minus : SignText ['-'] true

/-- An exponent. -/
inductive ExponentText : List Char → Int → Prop
  | marked {mark : Char} {sign digits : List Char} {negative : Bool} {n : Nat}
      (isMark : mark = 'e' ∨ mark = 'E') (isSign : SignText sign negative)
      (nonempty : digits ≠ []) (row : Denotes 10 DecimalDigit digits n) :
      ExponentText (mark :: (sign ++ digits)) (signed negative n)

/-- A text without blanks at its ends stands for a number, or is refused. -/
inductive Spelled : List Char → Except ConversionError Number → Prop
  | blank : Spelled [] (.ok (.int 0))
  | infinity {sign : List Char} {negative : Bool} (isSign : SignText sign negative) :
      Spelled (sign ++ "Infinity".toList) (.ok (.float (.infinite negative)))
  | whole {sign digits : List Char} {negative : Bool} {n : Nat} (isSign : SignText sign negative)
      (nonempty : digits ≠ []) (row : Denotes 10 DecimalDigit digits n)
      (short : digits.length ≤ 4300) :
      Spelled (sign ++ digits) (.ok (.int (signed negative n)))
  | tooLong {sign digits : List Char} {negative : Bool} {n : Nat} (isSign : SignText sign negative)
      (row : Denotes 10 DecimalDigit digits n) (long : 4300 < digits.length) :
      Spelled (sign ++ digits) (.error (.digitsRead digits.length))
  /-- Digits and an exponent. -/
  | scaled {sign digits exponent : List Char} {negative : Bool} {n : Nat} {power : Int}
      {x : Binary64} (isSign : SignText sign negative) (nonempty : digits ≠ [])
      (row : Denotes 10 DecimalDigit digits n) (isExponent : ExponentText exponent power)
      (nearest : Binary64.NearestTo negative (n * 10 ^ power) x) :
      Spelled (sign ++ (digits ++ exponent)) (.ok (.float x))
  /-- Digits with a point before, between or behind them, and possibly an exponent. -/
  | pointed {sign before behind exponent : List Char} {negative : Bool} {m n : Nat} {power : Int}
      {x : Binary64} (isSign : SignText sign negative) (nonempty : before ≠ [] ∨ behind ≠ [])
      (row : Denotes 10 DecimalDigit before m) (row' : Denotes 10 DecimalDigit behind n)
      (isExponent : exponent = [] ∧ power = 0 ∨ ExponentText exponent power)
      (nearest : Binary64.NearestTo negative ((m + n / 10 ^ behind.length) * 10 ^ power) x) :
      Spelled (sign ++ (before ++ '.' :: (behind ++ exponent))) (.ok (.float x))
  /-- Another base, without a sign and at any length. -/
  | radix {mark : Char} {base n : Nat} {digits : List Char} (isMark : (mark, base) ∈ radixMarks)
      (nonempty : digits ≠ []) (row : Denotes base (RadixDigit base) digits n) :
      Spelled ('0' :: mark :: digits) (.ok (.int n))

/-- A text without blanks at its ends is read as what it stands for, and else as NaN. -/
def ReadsAs (chars : List Char) (result : Except ConversionError Number) : Prop :=
  Spelled chars result ∨ (∀ other, ¬ Spelled chars other) ∧ result = .ok (.float .nan)

/-- What is left of a text without the blanks at its ends. -/
structure Stripped (chars middle : List Char) : Prop where
  around : ∃ before behind, chars = before ++ (middle ++ behind) ∧
    (∀ c ∈ before, Text.isBlank c = true) ∧ ∀ c ∈ behind, Text.isBlank c = true
  first : ∀ c ∈ middle.head?, Text.isBlank c = false
  last : ∀ c ∈ middle.getLast?, Text.isBlank c = false

/-! ## Rows of digits -/

theorem foldl_eq_ofDigits (base : Nat) (value : Char → Nat) (row : List Char) :
    row.foldl (fun total c => total * base + value c) 0 =
      Nat.ofDigits base (row.map value).reverse := by
  induction row using List.reverseRecOn with
  | nil => rfl
  | append_singleton row c ih =>
    rw [List.foldl_append, ih, List.map_append, List.reverse_append]
    show _ * base + value c = Nat.ofDigits base (value c :: (row.map value).reverse)
    rw [Nat.ofDigits_cons, Nat.mul_comm, Nat.add_comm]

/-- A row denotes what adding up the values of its digits gives. -/
theorem denotes_iff {base : Nat} {digit : Char → Nat → Prop} {isDigit : Char → Prop}
    {value : Char → Nat} (ofDigit : ∀ c v, digit c v ↔ isDigit c ∧ value c = v)
    {row : List Char} {n : Nat} : Denotes base digit row n ↔
      (∀ c ∈ row, isDigit c) ∧ row.foldl (fun total c => total * base + value c) 0 = n := by
  have values : ∀ values, List.Forall₂ digit row values ↔
      (∀ c ∈ row, isDigit c) ∧ row.map value = values := by
    induction row with
    | nil =>
      intro values
      cases values <;> simp
    | cons c row ih =>
      intro values
      cases values with
      | nil => simp
      | cons v values => simp [ih, ofDigit, and_and_and_comm]
  rw [foldl_eq_ofDigits]
  constructor
  · rintro ⟨list, each, rfl⟩
    obtain ⟨all, rfl⟩ := (values list).1 each
    exact ⟨all, rfl⟩
  · rintro ⟨all, rfl⟩
    exact ⟨_, (values _).2 ⟨all, rfl⟩, rfl⟩

theorem decimalDigit_iff (c : Char) (v : Nat) :
    DecimalDigit c v ↔ isDecimalDigit c = true ∧ (digitValue? c).getD 0 = v := by
  unfold DecimalDigit isDecimalDigit
  cases digitValue? c <;> simp

theorem denotes_decimal_iff {row : List Char} {n : Nat} : Denotes 10 DecimalDigit row n ↔
    (∀ c ∈ row, isDecimalDigit c = true) ∧ digitsValue row = n := by
  have order : digitsValue row =
      row.foldl (fun total c => total * 10 + (digitValue? c).getD 0) 0 := by
    simp only [digitsValue, Nat.mul_comm]
  rw [order]
  exact denotes_iff decimalDigit_iff

theorem digitsValue_append_row (left right : List Char) :
    digitsValue (left ++ right) =
      digitsValue left * 10 ^ right.length + digitsValue right := by
  induction right using List.reverseRecOn with
  | nil => simp [digitsValue]
  | append_singleton right c ih =>
    rw [← List.append_assoc, Text.digitsValue_append, Text.digitsValue_append, ih,
      List.length_append, List.length_singleton]
    ring

/-! ## Signs -/

theorem exists_signText (chars : List Char) :
    ∃ sign, SignText sign (takeSign chars).1 ∧ chars = sign ++ (takeSign chars).2 := by
  unfold takeSign
  split
  · exact ⟨_, .minus, rfl⟩
  · exact ⟨_, .plus, rfl⟩
  · exact ⟨_, .none, rfl⟩

theorem takeSign_append {sign : List Char} {negative : Bool} (isSign : SignText sign negative)
    {rest : List Char} (first : ∀ c ∈ rest.head?, c ≠ '+' ∧ c ≠ '-') :
    takeSign (sign ++ rest) = (negative, rest) := by
  cases isSign with
  | none =>
    rw [List.nil_append]
    unfold takeSign
    split
    · exact absurd rfl (first '-' rfl).2
    · exact absurd rfl (first '+' rfl).1
    · rfl
  | plus => rfl
  | minus => rfl

theorem not_sign_of_digit {c : Char} (digit : isDecimalDigit c = true) : c ≠ '+' ∧ c ≠ '-' := by
  constructor <;>
  · rintro rfl
    exact absurd digit (by decide)

/-! ## Exponents and fractions -/

theorem readExponent?_eq_some_iff {chars : List Char} {exponent : Option Int} :
    Numeral.readExponent? chars = some exponent ↔
      chars = [] ∧ exponent = none ∨ ∃ power, exponent = some power ∧ ExponentText chars power := by
  constructor
  · intro read
    cases chars with
    | nil => exact .inl ⟨rfl, (Option.some.inj read).symm⟩
    | cons mark rest =>
      right
      obtain ⟨sign, isSign, shape⟩ := exists_signText rest
      unfold Numeral.readExponent? at read
      dsimp only at read
      generalize takeSign rest = parts at read isSign shape
      split at read
      · rename_i fits
        simp only [Bool.and_eq_true, Bool.or_eq_true, beq_iff_eq, Bool.not_eq_true',
          List.isEmpty_eq_false_iff, List.all_eq_true] at fits
        refine ⟨_, (Option.some.inj read).symm, ?_⟩
        rw [shape]
        exact .marked fits.1.1 isSign fits.1.2 (denotes_decimal_iff.2 ⟨fits.2, rfl⟩)
      · cases read
  · rintro (⟨rfl, rfl⟩ | ⟨power, rfl, isExponent⟩)
    · rfl
    · obtain ⟨isMark, isSign, nonempty, row⟩ := isExponent
      obtain ⟨all, rfl⟩ := denotes_decimal_iff.1 row
      have split := takeSign_append isSign fun c head =>
        not_sign_of_digit (all c (List.mem_of_mem_head? head))
      unfold Numeral.readExponent?
      simp only [split]
      rw [if_pos]
      simpa [nonempty] using ⟨isMark, all⟩

theorem takeFraction_eq (chars : List Char) :
    chars = pointText (Numeral.takeFraction chars).1 ++ (Numeral.takeFraction chars).2 ∧
      ∀ c ∈ (Numeral.takeFraction chars).1.getD [], isDecimalDigit c = true := by
  unfold Numeral.takeFraction
  split
  · refine ⟨?_, fun c member => List.mem_takeWhile_imp member⟩
    rw [pointText, List.cons_append, List.takeWhile_append_dropWhile]
  · exact ⟨rfl, by simp⟩

/-- A row of digits ends where no digit follows. -/
theorem span_row {digits rest : List Char} (all : ∀ c ∈ digits, isDecimalDigit c = true)
    (closed : ∀ c ∈ rest.head?, isDecimalDigit c = false) :
    (digits ++ rest).takeWhile isDecimalDigit = digits ∧
      (digits ++ rest).dropWhile isDecimalDigit = rest := by
  rw [List.takeWhile_append_of_pos all, List.dropWhile_append_of_pos all]
  cases rest with
  | nil => simp
  | cons c rest => simp [closed c rfl]

/-! ## Numerals -/

/-- What a numeral is read from. -/
structure Numeral.IsReadFrom (numeral : Numeral) (sign exponent : List Char) : Prop where
  sign : SignText sign numeral.negative
  whole : ∀ c ∈ numeral.whole, isDecimalDigit c = true
  fraction : ∀ c ∈ numeral.fraction.getD [], isDecimalDigit c = true
  nonempty : numeral.whole ≠ [] ∨ numeral.fraction.getD [] ≠ []
  exponent : exponent = [] ∧ numeral.exponent = none ∨
    ∃ power, numeral.exponent = some power ∧ ExponentText exponent power

/-- The parts of a numeral in their order. -/
def Numeral.text (numeral : Numeral) (sign exponent : List Char) : List Char :=
  sign ++ (numeral.whole ++ (pointText numeral.fraction ++ exponent))

namespace Numeral.IsReadFrom

variable {numeral : Numeral} {sign exponent : List Char}

/-- An exponent begins with its mark, so it goes on neither with digits nor with a point. -/
theorem head?_exponent (parts : numeral.IsReadFrom sign exponent) :
    ∀ c ∈ exponent.head?, isDecimalDigit c = false ∧ c ≠ '.' := by
  intro c head
  rcases parts.exponent with ⟨rfl, _⟩ | ⟨_, _, isMark, _, _, _⟩
  · cases head
  · cases head
    rcases isMark with rfl | rfl <;> decide

theorem takeFraction (parts : numeral.IsReadFrom sign exponent) :
    Numeral.takeFraction (pointText numeral.fraction ++ exponent) =
      (numeral.fraction, exponent) := by
  cases fraction : numeral.fraction with
  | none =>
    unfold Numeral.takeFraction
    split
    · rename_i rest shape
      have first : '.' ∈ exponent.head? := by
        rw [show exponent = '.' :: rest from shape]
        rfl
      exact absurd rfl (parts.head?_exponent '.' first).2
    · rfl
  | some digits =>
    have allDigits : ∀ c ∈ digits, isDecimalDigit c = true := by
      simpa [fraction] using parts.fraction
    have span := span_row allDigits fun c head => (parts.head?_exponent c head).1
    show (some ((digits ++ exponent).takeWhile isDecimalDigit),
      (digits ++ exponent).dropWhile isDecimalDigit) = _
    rw [span.1, span.2]

/-- No digit follows the digits in front of the point. -/
theorem head?_behind_whole (parts : numeral.IsReadFrom sign exponent) :
    ∀ c ∈ (pointText numeral.fraction ++ exponent).head?, isDecimalDigit c = false := by
  intro c head
  cases fraction : numeral.fraction with
  | none =>
    rw [fraction] at head
    exact (parts.head?_exponent c head).1
  | some digits =>
    rw [fraction] at head
    cases head
    decide

/-- A numeral has one sign at most. -/
theorem head?_behind_sign (parts : numeral.IsReadFrom sign exponent) :
    ∀ c ∈ (numeral.whole ++ (pointText numeral.fraction ++ exponent)).head?,
      c ≠ '+' ∧ c ≠ '-' := by
  intro c head
  cases whole : numeral.whole with
  | cons d rest =>
    rw [whole] at head
    cases head
    exact not_sign_of_digit (parts.whole _ (whole ▸ List.mem_cons_self))
  | nil =>
    have nonempty := parts.nonempty
    cases fraction : numeral.fraction with
    | none => simp [whole, fraction] at nonempty
    | some digits =>
      rw [whole, fraction] at head
      cases head
      decide

/-- What is written of parts is read as their numeral. -/
theorem read? (parts : numeral.IsReadFrom sign exponent) :
    Numeral.read? (numeral.text sign exponent) = some numeral := by
  have span := span_row parts.whole parts.head?_behind_whole
  have nonempty := parts.nonempty
  unfold Numeral.read? Numeral.text
  simp only [takeSign_append parts.sign parts.head?_behind_sign, span.1, span.2,
    parts.takeFraction]
  rw [if_neg, readExponent?_eq_some_iff.2 parts.exponent, Option.map_some]
  simpa [or_iff_not_imp_left] using nonempty

end Numeral.IsReadFrom

theorem Numeral.exists_isReadFrom {chars : List Char} {numeral : Numeral}
    (read : Numeral.read? chars = some numeral) :
    ∃ sign exponent, numeral.IsReadFrom sign exponent ∧ chars = numeral.text sign exponent := by
  unfold Numeral.read? at read
  obtain ⟨sign, isSign, signed⟩ := exists_signText chars
  generalize takeSign chars = split at read isSign signed
  obtain ⟨negative, unsigned⟩ := split
  obtain ⟨pointed, allFraction⟩ := takeFraction_eq (unsigned.dropWhile isDecimalDigit)
  dsimp only at read isSign signed
  generalize Numeral.takeFraction (unsigned.dropWhile isDecimalDigit) = parts
    at read pointed allFraction
  obtain ⟨fraction, rest⟩ := parts
  dsimp only at read pointed allFraction
  split at read
  · cases read
  · rename_i nonempty
    obtain ⟨exponent, isExponent, rfl⟩ := Option.map_eq_some_iff.1 read
    refine ⟨sign, rest, ⟨isSign, fun c member => List.mem_takeWhile_imp member, allFraction, ?_,
      readExponent?_eq_some_iff.1 isExponent⟩, ?_⟩
    · simpa [or_iff_not_imp_left] using nonempty
    · rw [Numeral.text, ← pointed, List.takeWhile_append_dropWhile]
      exact signed

/-- The magnitude of a numeral is what its parts denote. -/
theorem Numeral.magnitude_eq (numeral : Numeral) :
    (numeral.magnitude.coefficient * 10 ^ numeral.magnitude.exponent : ℚ) =
      (digitsValue numeral.whole +
          digitsValue (numeral.fraction.getD []) / 10 ^ (numeral.fraction.getD []).length) *
        10 ^ numeral.exponent.getD 0 := by
  have ten : (10 : ℚ) ≠ 0 := by norm_num
  rw [Numeral.magnitude]
  dsimp only
  rw [digitsValue_append_row, zpow_sub₀ ten, zpow_natCast]
  push_cast
  field_simp

/-- The number that a numeral is read as is the nearest one to what its parts denote. -/
theorem Numeral.toBinary64_nearestTo (numeral : Numeral) :
    Binary64.NearestTo numeral.negative
      ((digitsValue numeral.whole +
          digitsValue (numeral.fraction.getD []) / 10 ^ (numeral.fraction.getD []).length) *
        10 ^ numeral.exponent.getD 0) numeral.toBinary64 := by
  have nearest := Binary64.ofDecimal_nearestTo numeral.negative numeral.magnitude
  rwa [numeral.magnitude_eq] at nearest

end NodeFlow
