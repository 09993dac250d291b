import NodeFlow.Proofs.Number.Reading
import NodeFlow.Proofs.Numeral

/-!
# The limits of numbers

A whole number can be of any size, but three conversions have limits: a text of too many digits is
not read, a whole number that would round to `2 ^ 1024` does not become binary64, and one of too
many digits is not written. Main statement: each conversion fails exactly beyond its limit.
-/

namespace NodeFlow

open Text (isDecimalDigit)

/-! ## Rounding up to the limit -/

namespace Binary64

/-- Of the counts below a power of two, the one with all 53 bits set is the greatest. -/
theorem le_of_lt_power {units scale : Nat} (fits : 2 ^ spareBits units ∣ units)
    (below : units < 2 ^ 53 * 2 ^ scale) : units ≤ (2 ^ 53 - 1) * 2 ^ scale := by
  by_contra above
  have reaches : 2 ^ (52 + scale) ≤ units := by
    rw [Nat.pow_add]
    exact Nat.le_trans (Nat.mul_le_mul_right _ (by decide)) (Nat.le_of_lt (Nat.not_le.1 above))
  obtain ⟨mantissa, rfl⟩ := Nat.dvd_trans (Nat.pow_dvd_pow 2 (le_spareBits_of_le reaches)) fits
  rw [Nat.mul_comm (2 ^ scale)] at above below
  have less := Nat.lt_of_mul_lt_mul_right below
  have more := Nat.lt_of_mul_lt_mul_right (Nat.not_le.1 above)
  omega

/-- The mantissa of that count is odd. -/
theorem not_dvd_power_pred (scale : Nat) :
    ¬ 2 ^ (spareBits ((2 ^ 53 - 1) * 2 ^ scale) + 1) ∣ (2 ^ 53 - 1) * 2 ^ scale := by
  intro divides
  have reaches : 2 ^ (52 + scale) ≤ (2 ^ 53 - 1) * 2 ^ scale := by
    rw [Nat.pow_add]
    exact Nat.mul_le_mul_right _ (by decide)
  have finer : 2 ^ (scale + 1) ∣ (2 ^ 53 - 1) * 2 ^ scale :=
    Nat.dvd_trans (Nat.pow_dvd_pow 2 (Nat.succ_le_succ (le_spareBits_of_le reaches))) divides
  rw [Nat.pow_succ, Nat.mul_comm] at finer
  exact absurd (Nat.dvd_of_mul_dvd_mul_right (Nat.two_pow_pos scale) finer) (by decide)

/-- A quantity is rounded up to a power of two from the middle between it and the count below on. -/
theorem RoundsTo.power_le_iff {quantity : ℚ} {units : Nat} (rounds : RoundsTo quantity units)
    (scale : Nat) :
    2 ^ (53 + scale) ≤ units ↔ (2 ^ 53 * 2 ^ scale : ℚ) - 2 ^ scale / 2 ≤ quantity := by
  rw [Nat.pow_add]
  have top : 2 ^ spareBits (2 ^ 53 * 2 ^ scale) ∣ 2 ^ 53 * 2 ^ scale :=
    dvd_of_mantissa_le (Nat.le_refl _)
  have pred : 2 ^ spareBits ((2 ^ 53 - 1) * 2 ^ scale) ∣ (2 ^ 53 - 1) * 2 ^ scale :=
    dvd_of_mantissa_le (by decide)
  have step : (0 : ℚ) < 2 ^ scale := by positivity
  have topCast : ((2 ^ 53 * 2 ^ scale : Nat) : ℚ) = 2 ^ 53 * 2 ^ scale := by push_cast; rfl
  have predCast : (((2 ^ 53 - 1) * 2 ^ scale : Nat) : ℚ) = 2 ^ 53 * 2 ^ scale - 2 ^ scale := by
    push_cast
    ring
  constructor
  · intro reaches
    by_contra low
    have unitsCast : (2 ^ 53 * 2 ^ scale : ℚ) ≤ units := by exact_mod_cast reaches
    have other : (2 ^ 53 - 1) * 2 ^ scale ≠ units := by
      rintro rfl
      rw [predCast] at unitsCast
      linarith
    -- The count below the power is nearer.
    have closer : |quantity - ((2 ^ 53 - 1) * 2 ^ scale : Nat)| < |quantity - units| := by
      rw [predCast, abs_of_neg (show quantity - units < 0 by linarith), abs_lt]
      constructor <;> linarith
    rcases rounds.nearest _ pred other with less | ⟨same, _⟩
    · exact less.asymm closer
    · exact closer.ne' same
  · intro high
    by_contra small
    have less := Nat.not_le.1 small
    have le := le_of_lt_power rounds.fits less
    have leCast : (units : ℚ) ≤ 2 ^ 53 * 2 ^ scale - 2 ^ scale := by
      rw [← predCast]
      exact_mod_cast le
    -- The power is at least as near.
    have closer : |quantity - (2 ^ 53 * 2 ^ scale : Nat)| ≤ |quantity - units| := by
      rw [topCast, abs_of_nonneg (show 0 ≤ quantity - units by linarith), abs_le]
      constructor <;> linarith
    rcases rounds.nearest _ top less.ne' with nearer | ⟨same, even⟩
    · exact closer.not_gt nearer
    · rw [topCast, abs_of_nonneg (show 0 ≤ quantity - units by linarith)] at same
      have equal : units = (2 ^ 53 - 1) * 2 ^ scale := by
        have equalCast : (units : ℚ) = ((2 ^ 53 - 1) * 2 ^ scale : Nat) := by
          rw [predCast]
          rcases abs_cases (quantity - 2 ^ 53 * 2 ^ scale) with ⟨shape, _⟩ | ⟨shape, _⟩ <;> linarith
        exact_mod_cast equalCast
      rw [equal] at even
      exact not_dvd_power_pred scale even

/-- A whole number does not convert from the middle between the greatest number of the format and
the next power of two on. -/
theorem ofInt?_eq_none_iff_le (n : Int) : ofInt? n = none ↔ 2 ^ 1024 - 2 ^ 970 ≤ |n| := by
  have rounds := roundRatio_roundsTo (n.natAbs * unitsPerOne) Nat.one_pos
  have bits : limitBits = 53 + 2045 := by
    unfold limitBits
    rfl
  have scale : scaleBits = 1074 := by
    unfold scaleBits
    rfl
  rw [ofInt?_eq_none_iff, unitLimit, bits, rounds.power_le_iff 2045]
  have one : (unitsPerOne : ℚ) = 2 ^ 1074 := by
    rw [unitsPerOne, Nat.cast_pow, scale, Nat.cast_ofNat]
  have middle : (2 : ℚ) ^ 2045 = 2 * 2 ^ 970 * 2 ^ 1074 := by
    rw [← pow_succ', ← pow_add]
  have power : (2 : ℚ) ^ 1024 = 2 ^ 54 * 2 ^ 970 := by
    rw [← pow_add]
  have cast : 2 ^ 1024 - 2 ^ 970 ≤ |n| ↔ (2 ^ 1024 - 2 ^ 970 : ℚ) ≤ n.natAbs := by
    rw [Nat.cast_natAbs, ← @Int.cast_le ℚ, Int.cast_sub, Int.cast_pow, Int.cast_pow,
      Int.cast_ofNat]
  rw [cast, Nat.cast_mul, Nat.cast_one]
  rw [one, middle, power]
  have positive : (0 : ℚ) < 2 ^ 1074 := by positivity
  generalize (2 : ℚ) ^ 1074 = unit at positive
  generalize (2 : ℚ) ^ 970 = step
  have shape :
      2 ^ 53 * (2 * step * unit) - 2 * step * unit / 2 = (2 ^ 54 * step - step) * unit := by
    ring
  rw [shape, div_one, mul_le_mul_iff_left₀ positive]

end Binary64

/-! ## Conversions of numbers -/

namespace Number

/-- A whole number that rounds beyond binary64. -/
def IsBeyondFloat : Number → Prop
  | .int n => 2 ^ 1024 - 2 ^ 970 ≤ |n|
  | .float _ => False

/-- A whole number of more than 4300 digits. -/
def IsOversized : Number → Prop
  | .int n => 10 ^ digitLimit ≤ |n|
  | .float _ => False

theorem toFloat_cases (number : Number) :
    (number.IsBeyondFloat ∧ number.toFloat = .error .beyondFloat) ∨
      (¬ number.IsBeyondFloat ∧ ∃ x, number.toFloat = .ok x) := by
  cases number with
  | float x => exact .inr ⟨not_false, x, rfl⟩
  | int n =>
    have limit := Binary64.ofInt?_eq_none_iff_le n
    rw [toFloat, IsBeyondFloat, ← limit]
    cases Binary64.ofInt? n with
    | none => exact .inl ⟨rfl, rfl⟩
    | some x => exact .inr ⟨by simp, x, rfl⟩

theorem isOversized_int_iff {n : Int} : (int n).IsOversized ↔ 10 ^ digitLimit ≤ n.natAbs := by
  rw [IsOversized, Int.abs_eq_natAbs]
  exact_mod_cast Iff.rfl

theorem not_isOversized_int_iff {n : Int} :
    ¬ (int n).IsOversized ↔ (Nat.toDigits 10 n.natAbs).length ≤ digitLimit := by
  rw [isOversized_int_iff, Nat.not_le, Nat.length_toDigits_le_iff (by decide) (by decide)]

theorem writeInt_cases (n : Int) :
    ((Number.int n).IsOversized ∧ writeInt n = .error .digitsWritten) ∨
      (¬ (Number.int n).IsOversized ∧ ∃ digits, writeInt n = .ok digits) := by
  have limit : (Number.int n).IsOversized ↔ digitLimit < (Nat.toDigits 10 n.natAbs).length := by
    rw [← Nat.not_le, ← not_isOversized_int_iff, not_not]
  rw [limit, writeInt]
  by_cases long : digitLimit < (Nat.toDigits 10 n.natAbs).length
  · exact .inl ⟨long, if_pos long⟩
  · exact .inr ⟨long, _, if_neg long⟩

theorem format_cases (number : Number) :
    (number.IsOversized ∧ number.format = .error .digitsWritten) ∨
      (¬ number.IsOversized ∧ ∃ text, number.format = .ok text) := by
  cases number with
  | int n =>
    rcases writeInt_cases n with ⟨long, unwritten⟩ | ⟨short, digits, written⟩
    · exact .inl ⟨long, by rw [format, unwritten]; rfl⟩
    · exact .inr ⟨short, _, by rw [format, written]; rfl⟩
  | float x =>
    refine .inr ⟨not_false, ?_⟩
    cases x with
    | nan => exact ⟨_, rfl⟩
    | infinite negative => exact ⟨_, rfl⟩
    | finite negative units fits => exact ⟨_, rfl⟩

end Number

/-! ## Texts of too many digits -/

theorem Stripped.of_nonblank {chars : List Char} (nonblank : ∀ c ∈ chars, Text.isBlank c = false) :
    Stripped chars chars where
  around := ⟨[], [], by simp, by simp, by simp⟩
  first c isFirst := nonblank c (List.mem_of_mem_head? isFirst)
  last c isLast := nonblank c (List.mem_of_getLast? isLast)

namespace Value

/-- A text that is more than 4300 digits behind at most a sign, without the blanks at its ends. -/
def IsOverlong : Value → Prop
  | .text s => ∃ sign negative digits, SignText sign negative ∧
      Stripped s.toList (sign ++ digits) ∧ (∀ c ∈ digits, isDecimalDigit c = true) ∧
      digitLimit < digits.length
  | _ => False

/-- A text is read as what is left of it without the blanks at its ends. -/
theorem exists_readsAs (s : String) :
    ∃ middle, Stripped s.toList middle ∧ ReadsAs middle (text s).toNumber :=
  ⟨_, Text.trim_eq_iff.1 rfl, Number.ofTrimmed_eq_iff.1 rfl⟩

theorem toNumber_of_spelled {s : String} {middle : List Char}
    {result : Except ConversionError Number} (stripped : Stripped s.toList middle)
    (spelled : Spelled middle result) : (text s).toNumber = result := by
  rw [toNumber, Number.ofText_eq, Text.trim_eq_iff.2 stripped, Number.ofTrimmed_of_spelled spelled]

theorem toNumber_cases (value : Value) :
    (value.IsOverlong ∧ ∃ count, value.toNumber = .error (.digitsRead count)) ∨
      (¬ value.IsOverlong ∧ ∃ number, value.toNumber = .ok number) := by
  cases value with
  | text s =>
    by_cases overlong : (text s).IsOverlong
    · left
      refine ⟨overlong, ?_⟩
      obtain ⟨sign, negative, digits, isSign, stripped, all, long⟩ := overlong
      exact ⟨digits.length, toNumber_of_spelled stripped
        (.tooLong isSign (denotes_decimal_iff.2 ⟨all, rfl⟩) long)⟩
    · right
      refine ⟨overlong, ?_⟩
      obtain ⟨middle, stripped, reads⟩ := exists_readsAs s
      generalize (text s).toNumber = result at reads
      rcases reads with spelled | ⟨_, rfl⟩
      · cases spelled with
        | tooLong isSign row long =>
          exact absurd ⟨_, _, _, isSign, stripped, (denotes_decimal_iff.1 row).1, long⟩ overlong
        | _ => exact ⟨_, rfl⟩
      · exact ⟨_, rfl⟩
  | _ => exact .inr ⟨not_false, _, rfl⟩

/-- A text that is, without the blanks at its ends, a whole number in another base, and one that has
more than 4300 decimal digits. -/
def IsOversizedText : Value → Prop
  | .text s => ∃ mark base digits n, (mark, base) ∈ radixMarks ∧
      Stripped s.toList ('0' :: mark :: digits) ∧ digits ≠ [] ∧
      Denotes base (RadixDigit base) digits n ∧ 10 ^ digitLimit ≤ n
  | _ => False

/-- Such a text is read all the same: the limit counts decimal digits that are read. -/
theorem IsOversizedText.toNumber {value : Value} (large : value.IsOversizedText) :
    ∃ number, value.toNumber = .ok number ∧ number.IsOversized := by
  cases value with
  | text s =>
    obtain ⟨mark, base, digits, n, isMark, stripped, nonempty, row, large⟩ := large
    exact ⟨.int n, toNumber_of_spelled stripped (.radix isMark nonempty row),
      Number.isOversized_int_iff.2 large⟩
  | _ => exact large.elim

/-- A number of too many digits is read from such a text only, or from itself. -/
theorem isOversized_of_toNumber {value : Value} {number : Number}
    (read : value.toNumber = .ok number) (large : number.IsOversized) :
    value.IsOversizedText ∨ value = .ofNumber number := by
  have limit : 1 < 10 ^ digitLimit := Nat.one_lt_pow (by decide) (by decide)
  cases value with
  | text s =>
    left
    obtain ⟨middle, stripped, reads⟩ := exists_readsAs s
    rw [read] at reads
    rcases reads with spelled | ⟨_, nan⟩
    · cases spelled with
      | blank =>
        have atMost := Number.isOversized_int_iff.1 large
        exact absurd atMost (by simp)
      | @whole _ digits negative n isSign nonempty row short =>
        have atMost := Number.isOversized_int_iff.1 large
        rw [natAbs_signed] at atMost
        have fewer : 10 ^ digits.length ≤ 10 ^ digitLimit := Nat.pow_le_pow_right (by decide) short
        have below := Text.digitsValue_lt digits
        rw [(denotes_decimal_iff.1 row).2] at below
        omega
      | radix isMark nonempty row =>
        exact ⟨_, _, _, _, isMark, stripped, nonempty, row, Number.isOversized_int_iff.1 large⟩
      | _ => exact large.elim
    · cases nan
      exact large.elim
  | null =>
    cases read
    exact absurd (Number.isOversized_int_iff.1 large) (by simp)
  | bool b =>
    cases read
    have atMost := Number.isOversized_int_iff.1 large
    have small : (ofBool b).natAbs ≤ 1 := by
      cases b <;> decide
    omega
  | int n =>
    cases read
    exact .inr rfl
  | _ =>
    cases read
    exact large.elim

/-- A row of too many digits is refused. -/
theorem toNumber_of_digits {digits : List Char} (all : Digits digits)
    (long : digitLimit < digits.length) :
    (text (String.ofList digits)).toNumber = .error (.digitsRead digits.length) := by
  have stripped : Stripped digits digits :=
    .of_nonblank fun c member => Text.isBlank_of_isDigit (all c member)
  have row : Denotes 10 DecimalDigit digits (Text.digitsValue digits) :=
    denotes_decimal_iff.2 ⟨fun c member => Text.isDecimalDigit_of_isDigit (all c member), rfl⟩
  exact toNumber_of_spelled (by rwa [String.toList_ofList]) (.tooLong .none row long)

end Value

end NodeFlow
