import NodeFlow.Proofs.Number.Notation
import NodeFlow.Value.Literal

/-!
# Rendered numbers

The text of a number in a run's log. Main statement: it denotes exactly the decimal that stands for
the number in diagnostics, in the one form that the notation has for it, and reading it gives the
number back.
-/

namespace NodeFlow

open Text (digitsValue)

namespace Number

/-- A number is shown by digits if it is a whole number that is not too long, or finite. -/
def Writable : Number → Prop
  | .int n => (Nat.toDigits 10 n.natAbs).length ≤ digitLimit
  | .float x => x.isFinite = true

instance (number : Number) : Decidable number.Writable := by
  unfold Writable
  cases number <;> infer_instance

/-- Whether a number is a zero of either sign. -/
def isZero : Number → Bool
  | .int n => n == 0
  | .float x => x.equalsInt 0

/-- A number is shown by the rational itself if it is whole, and else by one that it is the nearest
binary64 number to. -/
inductive Shows : Number → ℚ → Prop
  | int (n : Int) : Shows (.int n) n
  | float {negative : Bool} {magnitude : ℚ} {x : Binary64}
      (nearest : Binary64.NearestTo negative magnitude x) :
      Shows (.float x) (signedValue negative magnitude)

/-- What the text of a number is read as. -/
inductive ReadsBack : Number → Number → Prop
  /-- A whole number below `10 ^ 21` is read exactly. -/
  | exact {n : Int} (small : n.natAbs < 10 ^ 21) : ReadsBack (.int n) (.int n)
  /-- Other whole numbers have an exponent, so a binary64 number is read. -/
  | rounded {n : Int} {y : Binary64} (large : 10 ^ 21 ≤ n.natAbs)
      (nearest : Binary64.NearestTo (n < 0) n.natAbs y) : ReadsBack (.int n) (.float y)
  /-- For a binary64 number, a number is read that converts to it; zeros lose their sign. -/
  | converts {x y : Binary64} {read : Number} (converts : read.toFloat = .ok y)
      (equal : y.numEq x = true) (same : (Number.float x).isZero = true ∨ y = x) :
      ReadsBack (.float x) read

/-- The texts of a number in the log and in diagnostics, and the rational that both denote. -/
structure Rendered (number : Number) (text diagnostic : String) (q : ℚ) : Prop where
  format : number.format = .ok text
  literal : (Value.ofNumber number).literal = .ok diagnostic
  shows : number.Shows q
  denotes : ∀ r, DecimalText text.toList r ↔ r = q
  denotes_literal : ∀ r, DecimalText diagnostic.toList r ↔ r = q
  zero : number.isZero = true → text = "0"
  plain : number.isZero = false →
    (PlainText text.toList ↔ 1 / 10 ^ 6 ≤ |q| ∧ |q| < 10 ^ 21)
  form : number.isZero = false → PlainText text.toList ∨ ScientificText text.toList
  reads : ∃ read, (Value.text text).toNumber = .ok read ∧ number.ReadsBack read

end Number

/-! ## Reading what is written -/

theorem Digits.not_blank {digits : List Char} (all : Digits digits) :
    ∀ c ∈ digits, Text.isBlank c = false :=
  fun c member => Text.isBlank_of_isDigit (all c member)

namespace Layout

theorem not_blank_exponentText (layout : Layout) (power : Int) :
    ∀ c ∈ layout.exponentText power, Text.isBlank c = false := by
  have digits := (Digits.append
    (.zeros (layout.exponentWidth - (Nat.toDigits 10 power.natAbs).length))
    (.toDigits power.natAbs)).not_blank
  intro c member
  rcases List.mem_cons.1 member with rfl | member
  · decide
  · rcases List.mem_cons.1 member with rfl | member
    · split <;> decide
    · exact digits c member

theorem Spreads.not_blank {digits whole : List Char} {point : Int} {fraction : Option (List Char)}
    {power : Option Int} (spreads : Spreads digits point whole fraction (power.getD 0))
    (layout : Layout) (negative : Bool) :
    ∀ c ∈ (if negative then ['-'] else []) ++
        (whole ++ (pointText fraction ++ layout.powerText power)), Text.isBlank c = false := by
  intro c member
  simp only [List.mem_append] at member
  rcases member with sign | inWhole | inFraction | inPower
  · cases negative <;> simp at sign
    rw [sign]
    decide
  · exact spreads.isWhole.digits.not_blank c inWhole
  · cases fraction with
    | none => cases inFraction
    | some text =>
      rcases List.mem_cons.1 inFraction with rfl | inText
      · decide
      · exact spreads.all.not_blank c inText
  · cases power with
    | none => cases inPower
    | some power => exact layout.not_blank_exponentText power c inPower

/-- There are no blanks to trim in what the layout of the log writes. -/
theorem trim_console {d : Decimal} (positive : d.coefficient ≠ 0) (negative : Bool) :
    Text.trim (console.write negative d) = console.write negative d := by
  obtain ⟨whole, fraction, power, shape, writes⟩ :=
    @exists_writes console none 0 rfl rfl d positive negative
  have blank := writes.spreads.not_blank console negative
  rw [← shape] at blank
  exact Text.dropEnds_eq_self (fun c head => blank c (List.mem_of_mem_head? head))
    fun c last => blank c (List.mem_of_mem_getLast? last)

/-- The layout of the log writes what is read as a whole number below `10 ^ 21`, or as the binary64
number that is nearest. -/
theorem exists_read_console {d : Decimal} (positive : d.coefficient ≠ 0) (negative : Bool) :
    ∃ read, Number.ofText (String.ofList (console.write negative d)) = .ok read ∧
      ((∃ m : Nat, read = .int (signed negative m) ∧ d.value = m ∧ d.value < 10 ^ 21) ∨
        ∃ y, read = .float y ∧ Binary64.NearestTo negative d.value y) := by
  obtain ⟨numeral, read, rfl, same, isWhole, high⟩ :=
    @exists_numeral console none 0 rfl rfl d positive negative
  rw [Number.ofText_eq, String.toList_ofList, trim_console positive,
    Number.ofTrimmed_of_read? read]
  split
  · -- Whole numerals have few digits, since the layout keeps to plain notation for them.
    rename_i whole
    simp only [Numeral.isWhole, Bool.and_eq_true, Option.isNone_iff_eq_none] at whole
    have value : d.value = digitsValue numeral.whole := by
      rw [← same, Decimal.value, Numeral.magnitude, whole.1, whole.2]
      simp
    have below : d.value < 10 ^ 21 := by
      rw [← zpow_natCast]
      exact (Decimal.point_le_iff positive 21).1 (high whole.2)
    have short : numeral.whole.length ≤ 21 := by
      refine isWhole.length_le (by omega) ?_
      rw [value] at below
      exact_mod_cast below
    rw [readDigits, digitLimit, if_neg (by omega)]
    exact ⟨_, rfl, .inl ⟨_, rfl, value, below⟩⟩
  · refine ⟨_, rfl, .inr ⟨_, rfl, ?_⟩⟩
    have nearest := Binary64.ofDecimal_nearestTo numeral.negative numeral.magnitude
    rwa [← Decimal.value, same] at nearest

end Layout

/-! ## Signs and whole numbers -/

theorem abs_signedValue (negative : Bool) {magnitude : ℚ} (nonneg : 0 ≤ magnitude) :
    |signedValue negative magnitude| = magnitude := by
  cases negative
  · exact abs_of_nonneg nonneg
  · exact (abs_neg magnitude).trans (abs_of_nonneg nonneg)

theorem signedValue_natCast (negative : Bool) (magnitude : Nat) :
    signedValue negative magnitude = signed negative magnitude := by
  cases negative <;> simp [signedValue, signed]

/-- In plain notation a whole number is its digits, and the layout's mark. -/
theorem Layout.plain_whole (layout : Layout) {n : Nat} (positive : n ≠ 0) :
    layout.plain (Decimal.significant ⟨n, 0⟩) (Decimal.point ⟨n, 0⟩) =
      Nat.toDigits 10 n ++ layout.wholeMark := by
  obtain ⟨zeros, shape⟩ := Decimal.exists_zeros ⟨n, 0⟩
  have some := List.length_pos_of_ne_nil (Decimal.significand ⟨n, 0⟩ positive).ne_nil
  have size : Decimal.point ⟨n, 0⟩ = ((Decimal.significant ⟨n, 0⟩).length + zeros : Nat) := by
    have lengths := congrArg List.length shape
    rw [List.length_append, List.length_replicate] at lengths
    rw [← lengths]
    simp [Decimal.point]
  unfold plain
  rw [size, if_neg (by omega), if_pos (by omega), Int.natAbs_natCast, Nat.add_sub_cancel_left,
    ← shape]

theorem Layout.console_write_whole {n : Nat} (positive : n ≠ 0) (small : n < 10 ^ 21)
    (negative : Bool) :
    console.write negative ⟨n, 0⟩ = (if negative then ['-'] else []) ++ Nat.toDigits 10 n := by
  have high := Nat.toDigits_length 10 n 21 (by omega) small
  have low := List.length_pos_of_ne_nil (Significand.toDigits positive).ne_nil
  have inside : console.lowest ≤ Decimal.point ⟨n, 0⟩ ∧
      Decimal.point ⟨n, 0⟩ ≤ console.highest := by
    constructor
    · show (-5 : Int) ≤ (Nat.toDigits 10 n).length + 0
      omega
    · show ((Nat.toDigits 10 n).length + 0 : Int) ≤ 21
      omega
  rw [write_of_inside positive inside, console.plain_whole positive,
    show console.wholeMark = [] from rfl, List.append_nil]

/-- Below `10 ^ 21` the log shows a whole number by its digits. -/
theorem Layout.console_write_int {n : Int} (small : n.natAbs < 10 ^ 21) :
    console.write (decide (n < 0)) ⟨n.natAbs, 0⟩ =
      (if decide (n < 0) then ['-'] else []) ++ Nat.toDigits 10 n.natAbs := by
  by_cases zero : n.natAbs = 0
  · obtain rfl := Int.natAbs_eq_zero.1 zero
    rfl
  · exact console_write_whole zero small _

theorem decimalText_toDigits (negative : Bool) (n : Nat) :
    DecimalText ((if negative then ['-'] else []) ++ Nat.toDigits 10 n)
      (signedValue negative n) := by
  have row := (Digits.toDigits n).denotes
  rw [Text.digitsValue_toDigits] at row
  have text := @DecimalText.intro _ _ [] none _ n 0 0 (signText_minus negative)
    (.inl (by simp)) row ⟨[], .nil, rfl⟩ (.inl ⟨rfl, rfl⟩)
  simpa [pointText] using text

/-! ## The text of a number -/

namespace Number

/-- What is to be shown of a number that the log writes as a decimal. -/
theorem Rendered.of_decimal {number : Number} {diagnostic : String} {negative : Bool} {d : Decimal}
    (format : number.format = .ok (String.ofList (Layout.console.write negative d)))
    (literal : (Value.ofNumber number).literal = .ok diagnostic)
    (shows : number.Shows (signedValue negative d.value))
    (denotes : DecimalText diagnostic.toList (signedValue negative d.value))
    (zero : number.isZero = true ↔ d.coefficient = 0)
    (reads : d.coefficient ≠ 0 → ∃ read,
      ofText (String.ofList (Layout.console.write negative d)) = .ok read ∧ number.ReadsBack read)
    (readsZero : number.isZero = true → number.ReadsBack (.int 0)) :
    ∃ text diagnostic q, number.Rendered text diagnostic q := by
  have log := @Layout.decimalText_write .console none 0 rfl rfl d negative
  have nothing : d.coefficient = 0 → Layout.console.write negative d = ['0'] := by
    intro none
    rw [Layout.write, if_pos none]
    cases negative <;> rfl
  refine ⟨_, diagnostic, _, format, literal, shows, ?_, denotes.iff_eq, ?_, ?_, ?_, ?_⟩
  · rw [String.toList_ofList]
    exact log.iff_eq
  · intro isZero
    rw [nothing (zero.1 isZero)]
  · intro nonzero
    have positive : d.coefficient ≠ 0 := fun none => by simp [zero.2 none] at nonzero
    rw [String.toList_ofList, abs_signedValue negative d.value_nonneg]
    exact (Layout.plainText_console_iff positive negative).1
  · intro nonzero
    have positive : d.coefficient ≠ 0 := fun none => by simp [zero.2 none] at nonzero
    rw [String.toList_ofList]
    exact (Layout.plainText_console_iff positive negative).2
  · by_cases none : d.coefficient = 0
    · exact ⟨.int 0, by rw [nothing none]; decide +kernel, readsZero (zero.2 none)⟩
    · exact reads none

theorem exists_rendered_int {n : Int} (short : (Nat.toDigits 10 n.natAbs).length ≤ digitLimit) :
    ∃ text diagnostic q, Rendered (.int n) text diagnostic q := by
  have written := writeInt_of_short short
  have magnitude : Decimal.value ⟨n.natAbs, 0⟩ = n.natAbs := by
    rw [Decimal.value, zpow_zero, mul_one]
  have value : signedValue (decide (n < 0)) (Decimal.value ⟨n.natAbs, 0⟩) = n := by
    rw [magnitude, signedValue_natCast, signed_natAbs]
  refine @Rendered.of_decimal (.int n)
    (String.ofList ((if decide (n < 0) then ['-'] else []) ++ Nat.toDigits 10 n.natAbs))
    (decide (n < 0)) ⟨n.natAbs, 0⟩ ?_ ?_ ?_ ?_ ?_ ?_ ?_
  · rw [format, written]
    rfl
  · show (writeInt n).map String.ofList = _
    rw [written]
    rfl
  · rw [value]
    exact .int n
  · rw [String.toList_ofList, magnitude]
    exact decimalText_toDigits _ _
  · simp [isZero]
  · intro positive
    by_cases small : n.natAbs < 10 ^ 21
    · refine ⟨.int n, ?_, .exact small⟩
      have digits := (denotes_decimal_iff.1 (Digits.toDigits n.natAbs).denotes).1
      rw [ofText_eq, String.toList_ofList, Layout.trim_console positive,
        Layout.console_write_int small, ofTrimmed_digits (signText_minus _) (by simp) digits,
        readDigits, if_neg (Nat.not_lt.2 short), Text.digitsValue_toDigits, signed_natAbs]
      rfl
    · obtain ⟨read, text, ⟨m, _, whole, below⟩ | ⟨y, rfl, nearest⟩⟩ :=
        Layout.exists_read_console positive (decide (n < 0))
      · rw [magnitude] at below
        exact absurd (by exact_mod_cast below) small
      · rw [magnitude] at nearest
        exact ⟨.float y, text, .rounded (Nat.not_lt.1 small) nearest⟩
  · intro zero
    obtain rfl : n = 0 := by simpa [isZero] using zero
    exact .exact (by decide)

/-- Only zero has a shortest decimal without digits. -/
theorem coefficient_shortest_eq_zero_iff {units : Nat} (fits : Binary64.Representable units) :
    (Binary64.shortest units).coefficient = 0 ↔ units = 0 := by
  constructor
  · intro none
    have read := Binary64.ofDecimal_shortest false fits
    rw [Binary64.ofDecimal, if_pos none, Binary64.zero] at read
    injection read with _ same
    exact same.symm
  · rintro rfl
    decide +kernel

theorem isZero_finite_iff (negative : Bool) {units : Nat} (fits : Binary64.Representable units) :
    (Number.float (.finite negative units fits)).isZero = true ↔ units = 0 := by
  cases negative <;> simp [isZero, Binary64.equalsInt, Binary64.isFinite, Binary64.signedUnits]

/-- A whole number converts to the binary64 number that is nearest to it. -/
theorem toFloat_signed {negative : Bool} {m : Nat} (positive : m ≠ 0) {units : Nat}
    {fits : Binary64.Representable units}
    (nearest : Binary64.NearestTo negative m (.finite negative units fits)) :
    (Number.int (signed negative m)).toFloat = .ok (.finite negative units fits) := by
  have converted := Binary64.ofRatio_nearestTo negative (m * Binary64.unitsPerOne) Nat.one_pos
    (show (m * Binary64.unitsPerOne : ℚ) = (m * Binary64.unitsPerOne : Nat) / (1 : Nat) by simp)
  rw [toFloat, Binary64.ofInt?, decide_signed_neg negative positive, natAbs_signed,
    converted.eq nearest]
  rfl

theorem numEq_self (negative : Bool) {units : Nat} (fits : Binary64.Representable units) :
    (Binary64.finite negative units fits).numEq (.finite negative units fits) = true := by
  simp [Binary64.numEq]

theorem exists_rendered_float (negative : Bool) {units : Nat}
    (fits : Binary64.Representable units) :
    ∃ text diagnostic q,
      Rendered (.float (.finite negative units fits)) text diagnostic q := by
  have nearest := Binary64.ofDecimal_nearestTo negative (Binary64.shortest units)
  rw [← Decimal.value, Binary64.ofDecimal_shortest negative fits] at nearest
  refine @Rendered.of_decimal (.float (.finite negative units fits))
    (String.ofList (Layout.data.write negative (Binary64.shortest units))) negative
    (Binary64.shortest units) rfl rfl (.float nearest) ?_ ?_ ?_ ?_
  · rw [String.toList_ofList]
    exact @Layout.decimalText_write .data (some ['0']) 1 rfl rfl _ negative
  · rw [isZero_finite_iff, coefficient_shortest_eq_zero_iff fits]
  · intro positive
    obtain ⟨read, text, ⟨m, rfl, whole, _⟩ | ⟨y, rfl, nearest'⟩⟩ :=
      Layout.exists_read_console positive negative
    · have nonzero : m ≠ 0 := by
        rintro rfl
        exact positive ((Decimal.value_eq_zero_iff _).1 (whole.trans Nat.cast_zero))
      rw [whole] at nearest
      exact ⟨_, text, .converts (toFloat_signed nonzero nearest) (numEq_self negative fits)
        (.inr rfl)⟩
    · obtain rfl := nearest'.eq nearest
      exact ⟨_, text, .converts rfl (numEq_self negative fits) (.inr rfl)⟩
  · intro zero
    obtain rfl := (isZero_finite_iff negative fits).1 zero
    have converts : (Number.int 0).toFloat = .ok (Binary64.zero false) := by decide +kernel
    refine .converts converts ?_ (.inl zero)
    cases negative <;> rfl

/-- The text of a number denotes exactly the decimal that stands for the number in diagnostics. It is
`0` for zeros, plain notation from `10 ^ (-6)` to below `10 ^ 21`, and has an exponent for all other
numbers, without a superfluous zero. It is read as the number that it was written for. -/
theorem exists_rendered {number : Number} (writable : number.Writable) :
    ∃ text diagnostic q, number.Rendered text diagnostic q := by
  cases number with
  | int n => exact exists_rendered_int writable
  | float x =>
    cases x with
    | finite negative units fits => exact exists_rendered_float negative fits
    | nan => cases writable
    | infinite => cases writable

theorem exists_rendered_small :
    (Number.float (Binary64.ofDecimal true ⟨15, -8⟩)).Writable ∧ ∃ text diagnostic q,
      (Number.float (Binary64.ofDecimal true ⟨15, -8⟩)).Rendered text diagnostic q :=
  ⟨by decide +kernel, exists_rendered (by decide +kernel)⟩

example : (Number.float (Binary64.ofDecimal true ⟨15, -8⟩)).format = .ok "-1.5e-7" ∧
    (Number.int (10 ^ 21)).format = .ok "1e+21" := by
  decide +kernel

end Number

end NodeFlow
