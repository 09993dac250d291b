import NodeFlow.Proofs.Number.Reading
import NodeFlow.Proofs.Numeral
import Mathlib.Algebra.Order.Field.Power

/-!
# Decimal notation

What a decimal text denotes, exactly and without rounding, and the forms of texts in which nothing
is superfluous. Main statements: a text denotes one rational at most; what a layout writes for a
decimal denotes that decimal; and the layout of the run's log writes plain notation from
`10 ^ (-6)` to below `10 ^ 21` and an exponent for all other magnitudes.
-/

namespace NodeFlow

open Text (digitsValue)

/-! ## What a text denotes -/

/-- A magnitude with a sign. -/
def signedValue (negative : Bool) (magnitude : ℚ) : ℚ :=
  if negative then -magnitude else magnitude

/-- The magnitude of a decimal. -/
def Decimal.value (d : Decimal) : ℚ :=
  d.coefficient * 10 ^ d.exponent

/-- A decimal text denotes a rational: a sign, digits with a point before, between or behind them,
and an exponent, of which only the digits are needed. -/
inductive DecimalText : List Char → ℚ → Prop
  | intro {sign before exponent : List Char} {fraction : Option (List Char)} {negative : Bool}
      {m n : Nat} {power : Int} (isSign : SignText sign negative)
      (nonempty : before ≠ [] ∨ fraction.getD [] ≠ [])
      (row : Denotes 10 DecimalDigit before m) (row' : Denotes 10 DecimalDigit (fraction.getD []) n)
      (isExponent : exponent = [] ∧ power = 0 ∨ ExponentText exponent power) :
      DecimalText (sign ++ (before ++ (pointText fraction ++ exponent)))
        (signedValue negative ((m + n / 10 ^ (fraction.getD []).length) * 10 ^ power))

/-- What a numeral denotes. -/
def Numeral.value (numeral : Numeral) : ℚ :=
  signedValue numeral.negative numeral.magnitude.value

/-- The decimal texts are those that are read as numerals, and denote what their numerals do. -/
theorem decimalText_iff {chars : List Char} {q : ℚ} :
    DecimalText chars q ↔ ∃ numeral, Numeral.read? chars = some numeral ∧ numeral.value = q := by
  constructor
  · intro denotes
    cases denotes with
    | @intro sign before exponent fraction negative m n power isSign nonempty row row' isExponent =>
      obtain ⟨all, rfl⟩ := denotes_decimal_iff.1 row
      obtain ⟨all', rfl⟩ := denotes_decimal_iff.1 row'
      rcases isExponent with ⟨rfl, rfl⟩ | isExponent
      · have parts : Numeral.IsReadFrom ⟨negative, before, fraction, none⟩ sign [] :=
          ⟨isSign, all, all', nonempty, .inl ⟨rfl, rfl⟩⟩
        exact ⟨_, parts.read?, by rw [Numeral.value, Decimal.value, Numeral.magnitude_eq]; rfl⟩
      · have parts : Numeral.IsReadFrom ⟨negative, before, fraction, some power⟩ sign exponent :=
          ⟨isSign, all, all', nonempty, .inr ⟨power, rfl, isExponent⟩⟩
        exact ⟨_, parts.read?, by rw [Numeral.value, Decimal.value, Numeral.magnitude_eq]; rfl⟩
  · rintro ⟨numeral, read, rfl⟩
    obtain ⟨sign, exponent, parts, rfl⟩ := Numeral.exists_isReadFrom read
    rw [Numeral.value, Decimal.value, Numeral.magnitude_eq]
    refine .intro parts.sign parts.nonempty (denotes_decimal_iff.2 ⟨parts.whole, rfl⟩)
      (denotes_decimal_iff.2 ⟨parts.fraction, rfl⟩) ?_
    rcases parts.exponent with ⟨rfl, power⟩ | ⟨power, same, isExponent⟩
    · exact .inl ⟨rfl, by rw [power, Option.getD_none]⟩
    · exact .inr (by rwa [same, Option.getD_some])

theorem DecimalText.unique {chars : List Char} {q r : ℚ} (first : DecimalText chars q)
    (second : DecimalText chars r) : q = r := by
  obtain ⟨numeral, read, rfl⟩ := decimalText_iff.1 first
  obtain ⟨other, read', rfl⟩ := decimalText_iff.1 second
  rw [read] at read'
  rw [Option.some.inj read']

theorem DecimalText.iff_eq {chars : List Char} {q : ℚ} (denotes : DecimalText chars q) (r : ℚ) :
    DecimalText chars r ↔ r = q :=
  ⟨fun other => other.unique denotes, fun same => same ▸ denotes⟩

/-! ## What a layout writes -/

theorem signText_minus (negative : Bool) :
    SignText (if negative then ['-'] else []) negative := by
  cases negative
  · exact .none
  · exact .minus

theorem Digits.denotes {row : List Char} (all : Digits row) :
    Denotes 10 DecimalDigit row (digitsValue row) :=
  denotes_decimal_iff.2 ⟨fun c member => Text.isDecimalDigit_of_isDigit (all c member), rfl⟩

theorem Layout.exponentText_spec (layout : Layout) (power : Int) :
    ExponentText (layout.exponentText power) power := by
  have digits := Digits.append
    (.zeros (layout.exponentWidth - (Nat.toDigits 10 power.natAbs).length))
    (.toDigits power.natAbs)
  have row := digits.denotes
  rw [Text.digitsValue_zeros_append, Text.digitsValue_toDigits] at row
  have nonempty : List.replicate (layout.exponentWidth - (Nat.toDigits 10 power.natAbs).length) '0'
      ++ Nat.toDigits 10 power.natAbs ≠ [] := by simp
  have isSign : SignText [if power < 0 then '-' else '+'] (decide (power < 0)) := by
    by_cases negative : power < 0
    · simpa only [negative, if_true, decide_true] using SignText.minus
    · simpa only [negative, if_false, decide_false] using SignText.plus
  have text := ExponentText.marked (.inl rfl) isSign nonempty row
  rwa [signed_natAbs] at text

/-- The value of a decimal, by its significant digits. -/
theorem Decimal.value_eq (d : Decimal) :
    d.value = digitsValue d.significant * 10 ^ (d.point - d.significant.length) := by
  obtain ⟨zeros, coefficient, point⟩ := d.exists_shift
  have ten : (10 : ℚ) ≠ 0 := by norm_num
  have power : d.point - d.significant.length = zeros + d.exponent := by omega
  rw [value, coefficient, power, zpow_add₀ ten, zpow_natCast]
  push_cast
  ring

namespace Layout.Spreads

variable {digits whole : List Char} {point : Int} {fraction : Option (List Char)}
  {power : Option Int}

/-- What digits are spread over is the text of a numeral. -/
theorem isReadFrom (spreads : Spreads digits point whole fraction (power.getD 0))
    (layout : Layout) (negative : Bool) :
    Numeral.IsReadFrom ⟨negative, whole, fraction, power⟩ (if negative then ['-'] else [])
      (layout.powerText power) := by
  have nonempty : whole ≠ [] := by
    obtain ⟨first, rest, rfl, _⟩ := spreads.isWhole.cons
    exact List.cons_ne_nil _ _
  refine ⟨signText_minus negative, (denotes_decimal_iff.1 spreads.isWhole.digits.denotes).1,
    (denotes_decimal_iff.1 spreads.all.denotes).1, .inl nonempty, ?_⟩
  cases power with
  | none => exact .inl ⟨rfl, rfl⟩
  | some power => exact .inr ⟨power, rfl, layout.exponentText_spec power⟩

/-- The numeral denotes what the digits stand for. -/
theorem magnitude_value (spreads : Spreads digits point whole fraction (power.getD 0))
    (negative : Bool) : (Numeral.mk negative whole fraction power).magnitude.value =
      digitsValue digits * 10 ^ (point - digits.length) := by
  obtain ⟨zeros, value, exponents⟩ := spreads.value
  have ten : (10 : ℚ) ≠ 0 := by norm_num
  rw [Decimal.value, Numeral.magnitude]
  dsimp only
  rw [value, ← exponents, zpow_add₀ ten, zpow_natCast]
  push_cast
  ring

end Layout.Spreads

/-- A decimal that is not zero is written as a numeral that denotes it; without an exponent, its
point lies in the range of the layout. -/
theorem Layout.exists_numeral {layout : Layout} {mark : Option (List Char)} {zeros : Nat}
    (marked : layout.wholeMark = pointText mark) (idle : mark.getD [] = List.replicate zeros '0')
    {d : Decimal} (positive : d.coefficient ≠ 0) (negative : Bool) :
    ∃ numeral, Numeral.read? (layout.write negative d) = some numeral ∧
      numeral.negative = negative ∧ numeral.magnitude.value = d.value ∧ IsWhole numeral.whole ∧
      (numeral.exponent = none → d.point ≤ layout.highest) := by
  obtain ⟨whole, fraction, power, shape, writes⟩ := exists_writes marked idle positive negative
  have read := (writes.spreads.isReadFrom layout negative).read?
  rw [Numeral.text, ← shape] at read
  refine ⟨⟨negative, whole, fraction, power⟩, read, rfl, ?_, writes.spreads.isWhole, ?_⟩
  · rw [writes.spreads.magnitude_value, d.value_eq]
  · cases writes with
    | plain _ high => exact fun _ => high
    | scientific => rintro ⟨⟩

/-- What a layout writes for a decimal denotes it. -/
theorem Layout.decimalText_write {layout : Layout} {mark : Option (List Char)} {zeros : Nat}
    (marked : layout.wholeMark = pointText mark) (idle : mark.getD [] = List.replicate zeros '0')
    (d : Decimal) (negative : Bool) :
    DecimalText (layout.write negative d) (signedValue negative d.value) := by
  by_cases zero : d.coefficient = 0
  · have row : Denotes 10 DecimalDigit (mark.getD []) 0 := by
      have all : Digits (mark.getD []) := idle ▸ .zeros zeros
      have row := all.denotes
      have nothing : digitsValue (List.replicate zeros '0') = 0 := by
        simpa [digitsValue] using Text.digitsValue_zeros_append zeros []
      rwa [idle, nothing, ← idle] at row
    have text := DecimalText.intro (signText_minus (negative && layout.signedZero)) (.inl (by simp))
      (Digits.denotes (.zeros 1)) row (.inl ⟨rfl, rfl⟩)
    have value : signedValue (negative && layout.signedZero)
        ((digitsValue ['0'] + (0 : Nat) / 10 ^ (mark.getD []).length) * 10 ^ (0 : Int)) =
          signedValue negative d.value := by
      have nothing : digitsValue ['0'] = 0 := by decide
      simp [signedValue, Decimal.value, zero, nothing]
    have shape : layout.write negative d = (if (negative && layout.signedZero) = true then ['-'] else
        []) ++ (['0'] ++ (pointText mark ++ [])) := by
      rw [write, if_pos zero, marked, List.append_nil, List.singleton_append]
    rw [shape, ← value]
    exact text
  · obtain ⟨numeral, read, rfl, same, _⟩ := exists_numeral marked idle zero negative
    exact decimalText_iff.2 ⟨numeral, read, by rw [Numeral.value, same]⟩

/-! ## Magnitudes and the place of the point -/

/-- Digits without a leading zero denote what has that many digits. -/
theorem Significand.le_digitsValue {digits : List Char} (significand : Significand digits) :
    10 ^ (digits.length - 1) ≤ digitsValue digits := by
  obtain ⟨first, rest, rfl, nonzero⟩ := significand.leads
  have digit := significand.all first List.mem_cons_self
  have leading : 0 < digitsValue [first] := by
    have value : digitsValue [first] = first.toNat - 48 := by
      simp [digitsValue, Text.digitValue?_of_isDigit digit]
    simp only [Char.isDigit, Bool.and_eq_true, decide_eq_true_eq] at digit
    have low : 48 ≤ first.toNat := digit.1
    have other : first.toNat ≠ 48 := fun same => nonzero (Char.toNat_inj.1 same)
    omega
  rw [← List.singleton_append, digitsValue_append_row, List.length_append, List.length_singleton,
    Nat.add_sub_cancel_left]
  exact Nat.le_add_right_of_le (Nat.le_mul_of_pos_left _ leading)

theorem IsWhole.length_le {whole : List Char} (isWhole : IsWhole whole) {size : Nat}
    (positive : 0 < size) (below : digitsValue whole < 10 ^ size) : whole.length ≤ size := by
  rcases isWhole with rfl | significand
  · exact positive
  · have less := Nat.lt_of_le_of_lt significand.le_digitsValue below
    have shorter := (Nat.pow_lt_pow_iff_right (by omega)).1 less
    omega

namespace Decimal

theorem value_lt (d : Decimal) : d.value < 10 ^ d.point := by
  have digits := Text.digitsValue_lt (Nat.toDigits 10 d.coefficient)
  rw [Text.digitsValue_toDigits] at digits
  have cast : (d.coefficient : ℚ) < 10 ^ (Nat.toDigits 10 d.coefficient).length := by
    exact_mod_cast digits
  have ten : (10 : ℚ) ≠ 0 := by norm_num
  rw [value, point, zpow_add₀ ten, zpow_natCast]
  exact mul_lt_mul_of_pos_right cast (by positivity)

theorem le_value {d : Decimal} (positive : d.coefficient ≠ 0) :
    (10 : ℚ) ^ (d.point - 1) ≤ d.value := by
  have nonempty : (Nat.toDigits 10 d.coefficient).length ≠ 0 := by
    simp
  have digits : 10 ^ ((Nat.toDigits 10 d.coefficient).length - 1) ≤ d.coefficient := by
    by_contra fewer
    by_cases single : (Nat.toDigits 10 d.coefficient).length = 1
    · rw [single] at fewer
      omega
    · have short := Nat.toDigits_length 10 d.coefficient
        ((Nat.toDigits 10 d.coefficient).length - 1) (by omega) (by omega)
      omega
  have cast : (10 : ℚ) ^ ((Nat.toDigits 10 d.coefficient).length - 1) ≤ d.coefficient := by
    exact_mod_cast digits
  have ten : (10 : ℚ) ≠ 0 := by norm_num
  have power : d.point - 1 =
      ((Nat.toDigits 10 d.coefficient).length - 1 : Nat) + d.exponent := by
    unfold point
    omega
  rw [value, power, zpow_add₀ ten, zpow_natCast]
  exact mul_le_mul_of_nonneg_right cast (by positivity)

/-- The place of the point tells between which powers of ten a decimal lies. -/
theorem lt_point_iff {d : Decimal} (positive : d.coefficient ≠ 0) (power : Int) :
    power < d.point ↔ (10 : ℚ) ^ power ≤ d.value := by
  have low := le_value positive
  have high := d.value_lt
  constructor
  · intro less
    exact le_trans (zpow_le_zpow_right₀ (by norm_num) (by omega)) low
  · intro reaches
    exact (zpow_lt_zpow_iff_right₀ (by norm_num)).1 (lt_of_le_of_lt reaches high)

theorem point_le_iff {d : Decimal} (positive : d.coefficient ≠ 0) (power : Int) :
    d.point ≤ power ↔ d.value < (10 : ℚ) ^ power := by
  rw [← not_lt, lt_point_iff positive, not_le]

theorem value_nonneg (d : Decimal) : 0 ≤ d.value := by
  unfold value
  positivity

theorem value_eq_zero_iff (d : Decimal) : d.value = 0 ↔ d.coefficient = 0 := by
  have power : (10 : ℚ) ^ d.exponent ≠ 0 := by positivity
  simp [value, power]

end Decimal

/-! ## Decimals of the same value -/

/-- A layout writes a decimal alike when zeros go from its coefficient to its exponent. -/
theorem Layout.write_shift (layout : Layout) (negative : Bool) (coefficient zeros : Nat)
    (exponent : Int) : layout.write negative ⟨coefficient * 10 ^ zeros, exponent⟩ =
      layout.write negative ⟨coefficient, exponent + zeros⟩ := by
  by_cases zero : coefficient = 0
  · simp [write, zero]
  · have nonzero : coefficient * 10 ^ zeros ≠ 0 :=
      Nat.mul_ne_zero zero (Nat.pow_pos (by omega)).ne'
    simp only [write, if_neg zero, if_neg nonzero, Decimal.significant_shift zero,
      Decimal.point_shift zero]

/-- Of two decimals of the same value, the one with the lower exponent has more zeros. -/
theorem Decimal.coefficient_eq_of_value_eq {d other : Decimal} (same : d.value = other.value)
    (lower : d.exponent ≤ other.exponent) :
    d.coefficient = other.coefficient * 10 ^ (other.exponent - d.exponent).toNat := by
  have ten : (10 : ℚ) ≠ 0 := by norm_num
  have power : (10 : ℚ) ^ d.exponent ≠ 0 := by positivity
  have split : other.exponent = (other.exponent - d.exponent).toNat + d.exponent := by omega
  rw [value, value, split, zpow_add₀ ten, zpow_natCast, ← mul_assoc] at same
  exact_mod_cast mul_right_cancel₀ power same

private theorem Layout.write_congr_of_le (layout : Layout) (negative : Bool) {d other : Decimal}
    (same : d.value = other.value) (lower : d.exponent ≤ other.exponent) :
    layout.write negative d = layout.write negative other := by
  have shape : d = ⟨other.coefficient * 10 ^ (other.exponent - d.exponent).toNat, d.exponent⟩ := by
    rw [← Decimal.coefficient_eq_of_value_eq same lower]
  have power : d.exponent + (other.exponent - d.exponent).toNat = other.exponent := by omega
  rw [shape, layout.write_shift, power]

/-- A layout writes decimals of the same value alike. -/
theorem Layout.write_congr (layout : Layout) (negative : Bool) {d other : Decimal}
    (same : d.value = other.value) : layout.write negative d = layout.write negative other := by
  rcases le_total d.exponent other.exponent with lower | higher
  · exact layout.write_congr_of_le negative same lower
  · exact (layout.write_congr_of_le negative same.symm higher).symm

/-! ## Texts in which nothing is superfluous -/

/-- Plain notation: no zero is superfluous before the point or behind it. -/
inductive PlainText : List Char → Prop
  | intro (negative : Bool) {whole : List Char} {fraction : Option (List Char)}
      (isWhole : IsWhole whole) (tight : ∀ text ∈ fraction, IsFraction text) :
      PlainText ((if negative then ['-'] else []) ++ (whole ++ pointText fraction))

/-- Notation with an exponent: one digit before the point, which is not zero, no zero at the end of
the fraction, and a signed exponent without a leading zero. -/
inductive ScientificText : List Char → Prop
  | intro (negative : Bool) {first mark : Char} {fraction : Option (List Char)}
      {power : List Char} (leads : Significand [first]) (tight : ∀ text ∈ fraction, IsFraction text)
      (isMark : mark = '+' ∨ mark = '-') (isPower : Significand power) :
      ScientificText ((if negative then ['-'] else []) ++
        ([first] ++ (pointText fraction ++ 'e' :: mark :: power)))

theorem Digits.no_letter {digits : List Char} (all : Digits digits) : 'e' ∉ digits :=
  fun member => absurd (all 'e' member) (by decide)

/-- Plain notation has no exponent. -/
theorem PlainText.no_exponent {chars : List Char} (plain : PlainText chars) : 'e' ∉ chars := by
  cases plain with
  | @intro negative whole fraction isWhole tight =>
    have sign : 'e' ∉ (if negative then ['-'] else []) := by
      cases negative <;> decide
    have point : 'e' ∉ pointText fraction := by
      cases fraction with
      | none => simp [pointText]
      | some text => simpa [pointText] using (tight text rfl).all.no_letter
    simp only [List.mem_append, not_or]
    exact ⟨sign, isWhole.digits.no_letter, point⟩

theorem ScientificText.not_plain {chars : List Char} (scientific : ScientificText chars) :
    ¬ PlainText chars := by
  intro plain
  cases scientific
  exact plain.no_exponent (by simp)

namespace Layout

/-- The layout of the log writes a decimal that is not zero in plain notation if its point lies in
the range of the layout, and else with an exponent. -/
theorem console_form {d : Decimal} (positive : d.coefficient ≠ 0) (negative : Bool) :
    (console.lowest ≤ d.point ∧ d.point ≤ console.highest) ∧
        PlainText (console.write negative d) ∨
      ¬ (console.lowest ≤ d.point ∧ d.point ≤ console.highest) ∧
        ScientificText (console.write negative d) := by
  obtain ⟨whole, fraction, power, shape, writes⟩ :=
    @exists_writes console none 0 rfl rfl d positive negative
  rw [shape]
  cases writes with
  | plain low high spreads tight =>
    rw [powerText, List.append_nil]
    refine .inl ⟨⟨low, high⟩, .intro negative spreads.isWhole fun text member => ?_⟩
    rcases tight with rfl | ⟨other, rfl, ends⟩
    · cases member
    · cases member
      exact ends
  | @scientific first fraction outside spreads nonzero tight =>
    have leads : Significand [first] :=
      spreads.isWhole.resolve_left fun same => nonzero (List.singleton_inj.1 same)
    have power : (d.point - 1).natAbs ≠ 0 := by
      rcases outside with low | high
      · rw [show console.lowest = -5 from rfl] at low
        omega
      · rw [show console.highest = 21 from rfl] at high
        omega
    have digits := Significand.toDigits power
    have unpadded : 1 - (Nat.toDigits 10 (d.point - 1).natAbs).length = 0 := by
      have some := List.length_pos_of_ne_nil digits.ne_nil
      omega
    have text : console.exponentText (d.point - 1) = 'e' ::
        (if d.point - 1 < 0 then '-' else '+') :: Nat.toDigits 10 (d.point - 1).natAbs := by
      rw [exponentText, show console.exponentWidth = 1 from rfl, unpadded]
      rfl
    rw [powerText, text]
    refine .inr ⟨by omega, .intro negative leads tight ?_ digits⟩
    split
    · exact .inr rfl
    · exact .inl rfl

/-- The layout of the log writes plain notation from `10 ^ (-6)` to below `10 ^ 21`. -/
theorem plainText_console_iff {d : Decimal} (positive : d.coefficient ≠ 0) (negative : Bool) :
    (PlainText (console.write negative d) ↔ 1 / 10 ^ 6 ≤ d.value ∧ d.value < 10 ^ 21) ∧
      (PlainText (console.write negative d) ∨ ScientificText (console.write negative d)) := by
  have form := console_form positive negative
  have low : console.lowest ≤ d.point ↔ (1 / 10 ^ 6 : ℚ) ≤ d.value := by
    rw [show (1 / 10 ^ 6 : ℚ) = 10 ^ (-6 : Int) by norm_num, ← Decimal.lt_point_iff positive]
    exact Iff.rfl
  have high : d.point ≤ console.highest ↔ d.value < (10 : ℚ) ^ 21 := by
    rw [← zpow_natCast, ← Decimal.point_le_iff positive]
    exact Iff.rfl
  rw [low, high] at form
  rcases form with ⟨inside, plain⟩ | ⟨outside, scientific⟩
  · exact ⟨iff_of_true plain inside, .inl plain⟩
  · exact ⟨iff_of_false scientific.not_plain outside, .inr scientific⟩

end Layout

end NodeFlow
