import NodeFlow.Json.Style
import NodeFlow.Json.Reader
import NodeFlow.Proofs.Binary64.Decimal
import NodeFlow.Proofs.Layout
import NodeFlow.Proofs.Numeral

/-!
# Numbers in JSON text

A number that is written is read back, whatever may follow a value in a text. The layout
of a binary64 number is taken apart into the digits before the point, those after it and the
exponent; that the reader puts the same value together is arithmetic on powers of ten.
-/

namespace NodeFlow.Json

open Text (digitsValue)

/-- The characters that may stand after a value: the marks of its container, and blanks. -/
def closers : List Char :=
  [',', ']', '}', ' ', '\t', '\n', '\r']

/-- What may stand after a value inside a text: one of these characters, or nothing. -/
def Closed (rest : List Char) : Prop :=
  ∀ c ∈ rest.head?, c ∈ closers

/-- A text that does not begin with a digit. -/
def NoDigit (rest : List Char) : Prop :=
  ∀ c ∈ rest.head?, c.isDigit = false

theorem forall_mem_closers {holds : Char → Prop} : (∀ c ∈ closers, holds c) ↔
    holds ',' ∧ holds ']' ∧ holds '}' ∧ holds ' ' ∧ holds '\t' ∧ holds '\n' ∧ holds '\r' := by
  simp [closers]

theorem Closed.noDigit {rest : List Char} (closed : Closed rest) : NoDigit rest := by
  have other : ∀ c ∈ closers, c.isDigit = false := forall_mem_closers.2 (by decide)
  exact fun c head => other c (closed c head)

theorem Closed.no_point {rest : List Char} (closed : Closed rest) :
    ∀ c ∈ rest.head?, c ≠ '.' := by
  have other : ∀ c ∈ closers, c ≠ '.' := forall_mem_closers.2 (by decide)
  exact fun c head => other c (closed c head)

theorem noDigit_cons {c : Char} (other : c.isDigit = false) (rest : List Char) :
    NoDigit (c :: rest) := by
  intro d head
  cases head
  exact other

/-! ## The parts of a number -/

theorem takeWhile_isDigit {digits rest : List Char} (all : Digits digits) (stops : NoDigit rest) :
    (digits ++ rest).takeWhile Char.isDigit = digits := by
  rw [List.takeWhile_append_of_pos all]
  cases rest with
  | nil => simp
  | cons c rest => simp [stops c rfl]

theorem dropWhile_isDigit {digits rest : List Char} (all : Digits digits) (stops : NoDigit rest) :
    (digits ++ rest).dropWhile Char.isDigit = rest := by
  rw [List.dropWhile_append_of_pos all]
  cases rest with
  | nil => rfl
  | cons c rest => simp [stops c rfl]

theorem takeWhole_append {whole rest : List Char} (isWhole : IsWhole whole)
    (stops : NoDigit rest) : takeWhole (whole ++ rest) = (whole, rest) := by
  rcases isWhole with rfl | significand
  · rfl
  · have taken := takeWhile_isDigit significand.all stops
    have dropped := dropWhile_isDigit significand.all stops
    obtain ⟨first, others, shape, nonzero⟩ := significand.leads
    subst shape
    rw [List.cons_append] at taken dropped ⊢
    unfold takeWhole
    split
    · rename_i same
      exact absurd (List.cons.inj same).1 nonzero
    · rw [taken, dropped]

theorem takeFraction_of_ne {rest : List Char} (other : ∀ c ∈ rest.head?, c ≠ '.') :
    takeFraction rest = (none, rest) := by
  unfold takeFraction
  split
  · exact absurd rfl (other '.' rfl)
  · rfl

theorem takeFraction_pointText {fraction : Option (List Char)} {rest : List Char}
    (all : Digits (fraction.getD [])) (filled : fraction ≠ some []) (stops : NoDigit rest)
    (other : ∀ c ∈ rest.head?, c ≠ '.') :
    takeFraction (pointText fraction ++ rest) = (fraction, rest) := by
  cases fraction with
  | none => exact takeFraction_of_ne other
  | some digits =>
    have nonempty : digits ≠ [] := by simpa using filled
    have row : Digits digits := all
    simp only [pointText, List.cons_append, takeFraction, takeWhile_isDigit row stops,
      dropWhile_isDigit row stops, List.isEmpty_eq_false_iff.2 nonempty]
    rfl

theorem takeExponent_mark (negative : Bool) {digits rest : List Char} (all : Digits digits)
    (filled : digits ≠ []) (stops : NoDigit rest) :
    takeExponent ('e' :: (if negative then '-' else '+') :: (digits ++ rest)) =
      (some (signed negative (digitsValue digits)), rest) := by
  have sign : takeSign ((if negative then '-' else '+') :: (digits ++ rest)) =
      (negative, digits ++ rest) := by
    cases negative <;> rfl
  simp only [takeExponent, sign, takeWhile_isDigit all stops, dropWhile_isDigit all stops,
    List.isEmpty_eq_false_iff.2 filled]
  rfl

theorem takeExponent_of_closed {rest : List Char} (closed : Closed rest) :
    takeExponent rest = (none, rest) := by
  unfold takeExponent
  split
  · rename_i mark others
    have other : ∀ c ∈ closers, (c == 'e' || c == 'E') = false :=
      forall_mem_closers.2 (by decide)
    simp only [other mark (closed mark rfl), Bool.false_and, Bool.false_eq_true, if_false]
  · rfl

theorem takeMinus_sign (negative : Bool) {whole rest : List Char} (isWhole : IsWhole whole) :
    takeMinus ((if negative then ['-'] else []) ++ (whole ++ rest)) =
      (negative, whole ++ rest) := by
  obtain ⟨first, others, shape, digit⟩ := isWhole.cons
  cases negative with
  | true => rfl
  | false =>
    subst shape
    unfold takeMinus
    split
    · rename_i same
      have minus := (List.cons.inj same).1
      subst minus
      exact absurd digit (by decide)
    · rfl

/-- A number is read from its parts. -/
theorem readNumber_of_parts (negative : Bool) {whole afterWhole afterFraction rest : List Char}
    {fraction : Option (List Char)} {exponent : Option Int} (isWhole : IsWhole whole)
    (stops : NoDigit afterWhole)
    (fractionTaken : takeFraction afterWhole = (fraction, afterFraction))
    (exponentTaken : takeExponent afterFraction = (exponent, rest)) :
    readNumber ((if negative then ['-'] else []) ++ (whole ++ afterWhole)) =
      (numeralValue ⟨negative, whole, fraction, exponent⟩).map fun value => (value, rest) := by
  obtain ⟨first, others, shape, _⟩ := isWhole.cons
  have filled : whole.isEmpty = false := by simp [shape]
  simp only [readNumber, takeMinus_sign negative isWhole, takeWhole_append isWhole stops,
    fractionTaken, exponentTaken, filled]
  rfl

/-! ## Whole numbers -/

theorem isWhole_toDigits (n : Nat) : IsWhole (Nat.toDigits 10 n) := by
  by_cases zero : n = 0
  · exact .inl (zero ▸ Nat.toDigits_zero 10)
  · exact .inr (.toDigits zero)

/-- The text of a whole number that is not too long. -/
theorem writeInt_eq_ok {n : Int} {text : List Char} (written : writeInt n = .ok text) :
    (Nat.toDigits 10 n.natAbs).length ≤ digitLimit ∧
      text = (if decide (n < 0) then ['-'] else []) ++ Nat.toDigits 10 n.natAbs := by
  unfold writeInt at written
  dsimp only at written
  split at written
  · cases written
  · rename_i short
    refine ⟨Nat.not_lt.1 short, ?_⟩
    split at written <;> cases written <;> simp_all

/-- A whole number that can be written is read back. -/
theorem readNumber_writeInt {n : Int} {text : List Char} (written : writeInt n = .ok text)
    {rest : List Char} (closed : Closed rest) :
    readNumber (text ++ rest) = .ok (.int n, rest) := by
  obtain ⟨short, shape⟩ := writeInt_eq_ok written
  have unpointed := takeFraction_of_ne closed.no_point
  have parts := readNumber_of_parts (decide (n < 0)) (isWhole_toDigits n.natAbs) closed.noDigit
    unpointed (takeExponent_of_closed closed)
  rw [shape, List.append_assoc, parts]
  simp only [numeralValue, Numeral.isWhole, Option.isNone_none, Bool.and_true, if_true,
    if_neg (Nat.not_lt.2 short), Text.digitsValue_toDigits, signed_natAbs]
  rfl

/-! ## Binary64 numbers -/

/-- Digits that are spread over parts are read as the digits with the point at its place, unless
the parts make up a whole number. -/
theorem readNumber_spreads (negative : Bool) {digits whole after rest : List Char} {point : Int}
    {fraction : Option (List Char)} {exponent : Option Int}
    (spreads : Layout.Spreads digits point whole fraction (exponent.getD 0))
    (filled : fraction ≠ some []) (stops : NoDigit after) (other : ∀ c ∈ after.head?, c ≠ '.')
    (exponentTaken : takeExponent after = (exponent, rest))
    (fractional : (fraction.isNone && exponent.isNone) = false) :
    readNumber ((if negative then ['-'] else []) ++ (whole ++ (pointText fraction ++ after))) =
      .ok (.float (Binary64.ofDecimal negative ⟨digitsValue digits, point - digits.length⟩),
        rest) := by
  have fractionTaken := takeFraction_pointText spreads.all filled stops other
  have afterWhole : NoDigit (pointText fraction ++ after) := by
    cases fraction with
    | none => exact stops
    | some text => exact noDigit_cons (by decide) _
  obtain ⟨zeros, value, exponents⟩ := spreads.value
  have nearest : (Numeral.mk negative whole fraction exponent).toBinary64 =
      Binary64.ofDecimal negative ⟨digitsValue digits, point - digits.length⟩ := by
    rw [Numeral.toBinary64, Numeral.magnitude, value, Binary64.ofDecimal_shift, exponents]
  rw [readNumber_of_parts negative spreads.isWhole afterWhole fractionTaken exponentTaken]
  simp only [numeralValue, Numeral.isWhole, fractional, nearest]
  rfl

theorem takeExponent_exponentText (power : Int) {rest : List Char} (closed : Closed rest) :
    takeExponent (Layout.data.exponentText power ++ rest) = (some power, rest) := by
  have all := Digits.append
    (.zeros (2 - (Nat.toDigits 10 power.natAbs).length)) (.toDigits power.natAbs)
  have filled : List.replicate (2 - (Nat.toDigits 10 power.natAbs).length) '0' ++
      Nat.toDigits 10 power.natAbs ≠ [] := by simp
  have taken := takeExponent_mark (decide (power < 0)) all filled closed.noDigit
  rw [Text.digitsValue_zeros_append, Text.digitsValue_toDigits, signed_natAbs] at taken
  simp only [decide_eq_true_eq] at taken
  exact taken

/-- The parts of a decimal that is not zero. -/
theorem exists_writes_data {d : Decimal} (positive : d.coefficient ≠ 0) (negative : Bool) :
    ∃ whole fraction power, Layout.data.write negative d =
        (if negative then ['-'] else []) ++
          (whole ++ (pointText fraction ++ Layout.data.powerText power)) ∧
      Layout.data.Writes (some ['0']) d whole fraction power :=
  @Layout.exists_writes .data (some ['0']) 1 rfl rfl d positive negative

/-- A zero has a fraction. -/
theorem write_data_of_zero {d : Decimal} (zero : d.coefficient = 0) (negative : Bool) :
    Layout.data.write negative d =
      (if negative then ['-'] else []) ++ (['0'] ++ (pointText (some ['0']) ++ [])) := by
  unfold Layout.write
  rw [if_pos zero]
  cases negative <;> rfl

/-- There are digits behind a point. -/
theorem fraction_ne_of_writes {d : Decimal} {whole : List Char} {fraction : Option (List Char)}
    {power : Option Int} (writes : Layout.data.Writes (some ['0']) d whole fraction power) :
    fraction ≠ some [] := by
  rintro rfl
  cases writes with
  | plain _ _ _ tight =>
    rcases tight with same | ⟨text, same, ends⟩
    · cases same
    · exact ends.ne_nil (Option.some.inj same).symm
  | scientific _ _ _ tight => exact (tight [] rfl).ne_nil rfl

/-- The parts of a decimal are read as the number nearest to it. -/
theorem readNumber_writes {d : Decimal} {whole : List Char} {fraction : Option (List Char)}
    {power : Option Int} (writes : Layout.data.Writes (some ['0']) d whole fraction power)
    (negative : Bool) {rest : List Char} (closed : Closed rest) :
    readNumber ((if negative then ['-'] else []) ++
        (whole ++ (pointText fraction ++ (Layout.data.powerText power ++ rest)))) =
      .ok (.float (Binary64.ofDecimal negative
        ⟨digitsValue d.significant, d.point - d.significant.length⟩), rest) := by
  have spreads := writes.spreads
  have filled := fraction_ne_of_writes writes
  cases writes with
  | plain _ _ _ tight =>
    have pointed : fraction.isNone = false := by
      rcases tight with rfl | ⟨text, rfl, _⟩ <;> rfl
    exact readNumber_spreads negative spreads filled closed.noDigit closed.no_point
      (takeExponent_of_closed closed) (by rw [pointed, Bool.false_and])
  | scientific =>
    refine readNumber_spreads negative spreads filled (noDigit_cons (by decide) _) ?_
      (takeExponent_exponentText (d.point - 1) closed) (Bool.and_false _)
    intro c head
    cases head
    decide

/-- A decimal that is written is read as the number nearest to it. -/
theorem readNumber_write (d : Decimal) (negative : Bool) {rest : List Char} (closed : Closed rest) :
    readNumber (Layout.data.write negative d ++ rest) =
      .ok (.float (Binary64.ofDecimal negative d), rest) := by
  by_cases zero : d.coefficient = 0
  · have spreads : Layout.Spreads ['0'] 1 ['0'] (some ['0']) 0 :=
      ⟨.inl rfl, .zeros 1, 1, rfl, rfl⟩
    have nothing : Binary64.ofDecimal negative d = Binary64.ofDecimal negative ⟨0, 0⟩ := by
      unfold Binary64.ofDecimal
      rw [if_pos zero, if_pos rfl]
    have read := readNumber_spreads negative spreads (by simp) closed.noDigit closed.no_point
      (takeExponent_of_closed closed) rfl
    rw [write_data_of_zero zero, nothing, List.append_assoc]
    exact read
  · obtain ⟨whole, fraction, power, shape, writes⟩ := exists_writes_data zero negative
    obtain ⟨zeros, coefficient, point⟩ := d.exists_shift
    have value : Binary64.ofDecimal negative ⟨digitsValue d.significant,
        d.point - d.significant.length⟩ = Binary64.ofDecimal negative d := by
      have exponent : d.point - d.significant.length = d.exponent + zeros := by omega
      rw [exponent, ← Binary64.ofDecimal_shift, ← coefficient]
    rw [← value, ← readNumber_writes writes negative closed, shape]
    simp only [List.append_assoc]

/-- A decimal begins with a digit behind its sign. -/
theorem exists_digit_of_write (d : Decimal) (negative : Bool) :
    ∃ c tail, Layout.data.write negative d = (if negative then ['-'] else []) ++ c :: tail ∧
      c.isDigit = true := by
  by_cases zero : d.coefficient = 0
  · exact ⟨'0', ['.', '0'], write_data_of_zero zero negative, by decide⟩
  · obtain ⟨whole, fraction, power, shape, writes⟩ := exists_writes_data zero negative
    obtain ⟨first, others, rfl, digit⟩ := writes.spreads.isWhole.cons
    exact ⟨first, _, shape, digit⟩

end NodeFlow.Json
