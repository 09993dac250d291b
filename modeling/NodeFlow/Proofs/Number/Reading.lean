import NodeFlow.Proofs.Number.Grammar
import NodeFlow.Value.Coerce

/-!
# Reading number texts

Main statement: a text is read as the number that the grammar gives to what is left of it without
blanks at its ends, as NaN if the grammar gives none, and refused if it is a whole number of more
than 4300 digits.
-/

namespace NodeFlow

open Text (digitsValue isDecimalDigit)

/-! ## Other bases -/

namespace Number

/-- The base that a letter announces; zero if it announces none. -/
def radixBase (mark : Char) : Nat :=
  if mark == 'x' || mark == 'X' then 16
  else if mark == 'o' || mark == 'O' then 8
  else if mark == 'b' || mark == 'B' then 2
  else 0

/-- The value of a digit or a letter; it is not below the base for all other characters. -/
def radixValue (base : Nat) (c : Char) : Nat :=
  if c.isDigit then c.toNat - '0'.toNat
  else if c.isAlpha then c.toLower.toNat - 'a'.toNat + 10
  else base

theorem readRadix?_cons (mark : Char) (digits : List Char) :
    readRadix? (mark :: digits) =
      if !digits.isEmpty && digits.all fun c => radixValue (radixBase mark) c < radixBase mark then
        some (digits.foldl
          (fun total c => total * radixBase mark + radixValue (radixBase mark) c) 0)
      else none := rfl

theorem radixBase_of_mem {mark : Char} {base : Nat} (isMark : (mark, base) ∈ radixMarks) :
    radixBase mark = base ∧ base ∈ [2, 8, 16] := by
  have all : ∀ entry ∈ radixMarks, radixBase entry.1 = entry.2 ∧ entry.2 ∈ [2, 8, 16] := by decide
  exact all _ isMark

theorem mem_radixMarks {mark : Char} (positive : radixBase mark ≠ 0) :
    (mark, radixBase mark) ∈ radixMarks := by
  have either : ∀ {low up : Char} {base : Nat}, (mark == low || mark == up) = true →
      [(low, base), (up, base)] ⊆ radixMarks → (mark, base) ∈ radixMarks := by
    intro low up base isMark marks
    simp only [Bool.or_eq_true, beq_iff_eq] at isMark
    rcases isMark with rfl | rfl
    · exact marks List.mem_cons_self
    · exact marks (List.mem_cons_of_mem _ List.mem_cons_self)
  unfold radixBase at positive ⊢
  split
  · exact either ‹_› (by decide)
  · split
    · exact either ‹_› (by decide)
    · split
      · exact either ‹_› (by decide)
      · rename_i none octal hex
        simp [none, octal, hex] at positive

/-- Digits and letters are ASCII characters. -/
theorem toNat_lt_of_radixValue {base : Nat} {c : Char} (below : radixValue base c < base) :
    c.toNat < 128 := by
  unfold radixValue at below
  split at below
  · rename_i digit
    simp only [Char.isDigit, Bool.and_eq_true, decide_eq_true_eq] at digit
    have high : c.toNat ≤ 57 := digit.2
    omega
  · split at below
    · rename_i letter
      rcases Bool.or_eq_true_iff.1 letter with upper | lower
      · have high : c.toNat ≤ 90 := (of_decide_eq_true upper).2
        omega
      · have high : c.toNat ≤ 122 := of_decide_eq_true (Bool.and_eq_true_iff.1 lower).2
        omega
    · exact absurd below (Nat.lt_irrefl _)

theorem radixDigit_iff {base : Nat} (isBase : base ∈ [2, 8, 16]) (c : Char) (v : Nat) :
    RadixDigit base c v ↔ radixValue base c < base ∧ radixValue base c = v := by
  constructor
  · have all : ∀ base ∈ [2, 8, 16], ∀ v < base, radixValue base v.digitChar = v ∧
        radixValue base v.digitChar.toUpper = v := by decide +kernel
    rintro ⟨below, rfl | rfl⟩
    · rw [(all base isBase v below).1]
      exact ⟨below, rfl⟩
    · rw [(all base isBase v below).2]
      exact ⟨below, rfl⟩
  · have all : ∀ code < 128, ∀ base ∈ [2, 8, 16],
        radixValue base (Char.ofNat code) < base →
          Char.ofNat code = (radixValue base (Char.ofNat code)).digitChar ∨
            Char.ofNat code = (radixValue base (Char.ofNat code)).digitChar.toUpper := by
      decide +kernel
    rintro ⟨below, rfl⟩
    have ascii := all c.toNat (toNat_lt_of_radixValue below) base isBase
    rw [Char.ofNat_toNat] at ascii
    exact ⟨below, ascii below⟩

theorem readRadix?_eq_some_iff {chars : List Char} {n : Nat} : readRadix? chars = some n ↔
    ∃ mark base digits, chars = mark :: digits ∧ (mark, base) ∈ radixMarks ∧ digits ≠ [] ∧
      Denotes base (RadixDigit base) digits n := by
  constructor
  · intro read
    cases chars with
    | nil => cases read
    | cons mark digits =>
      rw [readRadix?_cons] at read
      split at read
      · rename_i fits
        simp only [Bool.and_eq_true, Bool.not_eq_true', List.isEmpty_eq_false_iff,
          List.all_eq_true, decide_eq_true_eq] at fits
        obtain ⟨nonempty, below⟩ := fits
        obtain ⟨c, rest, rfl⟩ := List.exists_cons_of_ne_nil nonempty
        have positive : radixBase mark ≠ 0 :=
          Nat.ne_of_gt (Nat.lt_of_le_of_lt (Nat.zero_le _) (below c List.mem_cons_self))
        have isMark := mem_radixMarks positive
        exact ⟨mark, _, _, rfl, isMark, nonempty,
          (denotes_iff (radixDigit_iff (radixBase_of_mem isMark).2)).2
            ⟨below, Option.some.inj read⟩⟩
      · cases read
  · rintro ⟨mark, base, digits, rfl, isMark, nonempty, row⟩
    obtain ⟨rfl, isBase⟩ := radixBase_of_mem isMark
    obtain ⟨below, rfl⟩ := (denotes_iff (radixDigit_iff isBase)).1 row
    rw [readRadix?_cons, if_pos]
    simpa [nonempty] using below

/-! ## Trimmed texts -/

/-- The number that a text without blanks at its ends stands for. -/
def ofTrimmed (chars : List Char) : Except ConversionError Number :=
  if chars.isEmpty then .ok (.int 0)
  else if chars == "Infinity".toList || chars == "+Infinity".toList then
    .ok (.float (.infinite false))
  else if chars == "-Infinity".toList then .ok (.float (.infinite true))
  else readNumeral chars

theorem ofText_eq (text : String) : ofText text = ofTrimmed (Text.trim text.toList) := rfl

theorem ofTrimmed_of_read? {chars : List Char} {numeral : Numeral}
    (read : Numeral.read? chars = some numeral) : ofTrimmed chars =
      if numeral.isWhole then (readDigits numeral.negative numeral.whole).map .int
      else .ok (.float numeral.toBinary64) := by
  have other : ∀ text : List Char, Numeral.read? text = none → chars ≠ text := by
    rintro text none rfl
    rw [none] at read
    cases read
  have nonempty := other [] rfl
  have infinity := other "Infinity".toList (by decide +kernel)
  have positive := other "+Infinity".toList (by decide +kernel)
  have negative := other "-Infinity".toList (by decide +kernel)
  rw [ofTrimmed, if_neg (by simpa using nonempty), if_neg (by simpa using ⟨infinity, positive⟩),
    if_neg (by simpa using negative)]
  unfold readNumeral
  rw [read]

/-- A letter that announces another base ends the numeral in front of it. -/
theorem read?_radix {mark : Char} {base : Nat} (isMark : (mark, base) ∈ radixMarks)
    (digits : List Char) : Numeral.read? ('0' :: mark :: digits) = none := by
  have zero : isDecimalDigit '0' = true := by decide
  have closed : ∀ entry ∈ radixMarks, isDecimalDigit entry.1 = false ∧ entry.1 ≠ '.' ∧
      entry.1 ≠ 'e' ∧ entry.1 ≠ 'E' := by decide
  obtain ⟨noDigit, noPoint, noMark, noMark'⟩ := closed _ isMark
  have sign : takeSign ('0' :: mark :: digits) = (false, '0' :: mark :: digits) := rfl
  have fraction : Numeral.takeFraction (mark :: digits) = (none, mark :: digits) := by
    unfold Numeral.takeFraction
    split
    · rename_i shape
      exact absurd (List.cons.inj shape).1 noPoint
    · rfl
  simp [Numeral.read?, sign, zero, noDigit, fraction, Numeral.readExponent?, noMark, noMark']

theorem ofTrimmed_radix {mark : Char} {base n : Nat} {digits : List Char}
    (isMark : (mark, base) ∈ radixMarks) (read : readRadix? (mark :: digits) = some n) :
    ofTrimmed ('0' :: mark :: digits) = .ok (.int n) := by
  simp [ofTrimmed, readNumeral, read?_radix isMark, read]

/-- Digits without point and exponent are read as a whole number. -/
theorem ofTrimmed_digits {sign digits : List Char} {negative : Bool}
    (isSign : SignText sign negative) (nonempty : digits ≠ [])
    (all : ∀ c ∈ digits, isDecimalDigit c = true) :
    ofTrimmed (sign ++ digits) = (readDigits negative digits).map .int := by
  have parts : Numeral.IsReadFrom ⟨negative, digits, none, none⟩ sign [] :=
    ⟨isSign, all, by simp, .inl nonempty, .inl ⟨rfl, rfl⟩⟩
  simpa [Numeral.text, pointText, Numeral.isWhole] using ofTrimmed_of_read? parts.read?

/-- With a point or an exponent the nearest binary64 number is read. -/
theorem ofTrimmed_inexact {numeral : Numeral} {sign exponent : List Char}
    (parts : numeral.IsReadFrom sign exponent) (inexact : numeral.isWhole = false) {x : Binary64}
    (nearest : Binary64.NearestTo numeral.negative
      ((digitsValue numeral.whole +
          digitsValue (numeral.fraction.getD []) / 10 ^ (numeral.fraction.getD []).length) *
        10 ^ numeral.exponent.getD 0) x) :
    ofTrimmed (numeral.text sign exponent) = .ok (.float x) := by
  rw [ofTrimmed_of_read? parts.read?, inexact, nearest.eq numeral.toBinary64_nearestTo]
  rfl

/-- What the grammar says a text stands for is what is read. -/
theorem ofTrimmed_of_spelled {chars : List Char} {result : Except ConversionError Number}
    (spelled : Spelled chars result) : ofTrimmed chars = result := by
  cases spelled with
  | blank => rfl
  | infinity isSign => cases isSign <;> decide +kernel
  | whole isSign nonempty row short =>
    obtain ⟨all, rfl⟩ := denotes_decimal_iff.1 row
    rw [ofTrimmed_digits isSign nonempty all, readDigits, digitLimit,
      if_neg (Nat.not_lt.2 short)]
    rfl
  | tooLong isSign row long =>
    have nonempty := List.ne_nil_of_length_pos (Nat.lt_trans (by decide) long)
    rw [ofTrimmed_digits isSign nonempty (denotes_decimal_iff.1 row).1, readDigits, digitLimit,
      if_pos long]
    rfl
  | @scaled sign digits exponent negative n power x isSign nonempty row isExponent nearest =>
    obtain ⟨all, rfl⟩ := denotes_decimal_iff.1 row
    have parts : Numeral.IsReadFrom ⟨negative, digits, none, some power⟩ sign exponent :=
      ⟨isSign, all, by simp, .inl nonempty, .inr ⟨power, rfl, isExponent⟩⟩
    exact ofTrimmed_inexact parts rfl (by simpa [digitsValue] using nearest)
  | @pointed sign before behind exponent negative m n power x isSign nonempty row row' isExponent
      nearest =>
    obtain ⟨all, rfl⟩ := denotes_decimal_iff.1 row
    obtain ⟨all', rfl⟩ := denotes_decimal_iff.1 row'
    rcases isExponent with ⟨rfl, rfl⟩ | isExponent
    · have parts : Numeral.IsReadFrom ⟨negative, before, some behind, none⟩ sign [] :=
        ⟨isSign, all, all', nonempty, .inl ⟨rfl, rfl⟩⟩
      exact ofTrimmed_inexact parts rfl nearest
    · have parts : Numeral.IsReadFrom ⟨negative, before, some behind, some power⟩ sign exponent :=
        ⟨isSign, all, all', nonempty, .inr ⟨power, rfl, isExponent⟩⟩
      exact ofTrimmed_inexact parts rfl nearest
  | radix isMark nonempty row =>
    exact ofTrimmed_radix isMark
      (readRadix?_eq_some_iff.2 ⟨_, _, _, rfl, isMark, nonempty, row⟩)

/-- A numeral that is read is in the grammar. -/
theorem spelled_of_read? {chars : List Char} {numeral : Numeral}
    (read : Numeral.read? chars = some numeral) : Spelled chars (ofTrimmed chars) := by
  rw [ofTrimmed_of_read? read]
  obtain ⟨sign, exponent, parts, rfl⟩ := Numeral.exists_isReadFrom read
  have nearest := numeral.toBinary64_nearestTo
  obtain ⟨negative, whole, fraction, power⟩ := numeral
  obtain ⟨isSign, all, all', nonempty, isExponent⟩ := parts
  have row := denotes_decimal_iff.2 ⟨all, rfl⟩
  cases fraction with
  | some behind =>
    have row' := denotes_decimal_iff.2 ⟨all', rfl⟩
    refine .pointed isSign nonempty row row' ?_ nearest
    rcases isExponent with ⟨rfl, rfl⟩ | ⟨power, rfl, isExponent⟩
    · exact .inl ⟨rfl, rfl⟩
    · exact .inr isExponent
  | none =>
    have hasDigits : whole ≠ [] := by simpa using nonempty
    rcases isExponent with ⟨rfl, rfl⟩ | ⟨power, rfl, isExponent⟩
    · have text : Numeral.text ⟨negative, whole, none, none⟩ sign [] = sign ++ whole := by
        simp [Numeral.text, pointText]
      rw [text, Numeral.isWhole, readDigits]
      by_cases long : digitLimit < whole.length
      · rw [if_pos long]
        exact .tooLong isSign row long
      · rw [if_neg long]
        exact .whole isSign hasDigits row (Nat.not_lt.1 long)
    · exact .scaled isSign hasDigits row isExponent (by simpa [digitsValue] using nearest)

/-- What is no numeral begins with a zero and announces another base, or it is NaN. -/
theorem spelled_or_nan_of_not_read? {chars : List Char} (unread : Numeral.read? chars = none) :
    Spelled chars (readNumeral chars) ∨ readNumeral chars = .ok (.float .nan) := by
  unfold readNumeral
  rw [unread]
  dsimp only
  split
  · rename_i rest
    cases read : readRadix? rest with
    | none => exact .inr rfl
    | some n =>
      obtain ⟨mark, base, digits, rfl, isMark, nonempty, row⟩ := readRadix?_eq_some_iff.1 read
      exact .inl (.radix isMark nonempty row)
  · exact .inr rfl

/-- What is read is in the grammar, or it is NaN. -/
theorem spelled_or_nan (chars : List Char) :
    Spelled chars (ofTrimmed chars) ∨ ofTrimmed chars = .ok (.float .nan) := by
  cases read : Numeral.read? chars with
  | some numeral => exact .inl (spelled_of_read? read)
  | none =>
    have others := spelled_or_nan_of_not_read? read
    rw [ofTrimmed]
    split
    · rename_i empty
      rw [List.isEmpty_iff.1 empty]
      exact .inl .blank
    · split
      · rename_i infinity
        simp only [Bool.or_eq_true, beq_iff_eq] at infinity
        rcases infinity with rfl | rfl
        · exact .inl (.infinity .none)
        · exact .inl (.infinity .plus)
      · split
        · rename_i infinity
          rw [eq_of_beq infinity]
          exact .inl (.infinity .minus)
        · exact others

/-- The grammar gives no text the number NaN. -/
theorem not_spelled_nan (chars : List Char) : ¬ Spelled chars (.ok (.float .nan)) := by
  intro spelled
  cases spelled with
  | scaled _ _ _ _ nearest => exact nearest.ne_nan rfl
  | pointed _ _ _ _ _ nearest => exact nearest.ne_nan rfl

theorem ofTrimmed_eq_iff {chars : List Char} {result : Except ConversionError Number} :
    ofTrimmed chars = result ↔ ReadsAs chars result := by
  constructor
  · rintro rfl
    rcases spelled_or_nan chars with spelled | nan
    · exact .inl spelled
    · refine .inr ⟨fun other spelled => ?_, nan⟩
      rw [← ofTrimmed_of_spelled spelled, nan] at spelled
      exact not_spelled_nan chars spelled
  · rintro (spelled | ⟨none, rfl⟩)
    · exact ofTrimmed_of_spelled spelled
    · exact (spelled_or_nan chars).resolve_left (none _)

end Number

/-! ## Texts -/

namespace Text

/-- What is dropped at the ends may be dropped before. -/
theorem dropEnds_append {drops : Char → Bool} {before behind : List Char}
    (first : ∀ c ∈ before, drops c = true) (last : ∀ c ∈ behind, drops c = true)
    (middle : List Char) :
    dropEnds drops (before ++ (middle ++ behind)) = dropEnds drops middle := by
  have last' : ∀ c ∈ behind.reverse, drops c = true :=
    fun c member => last c (List.mem_reverse.1 member)
  rw [dropEnds, dropEnds, List.dropWhile_append_of_pos first, List.dropWhile_append]
  split
  · rename_i empty
    rw [List.isEmpty_iff.1 empty, List.dropWhile_eq_nil_iff.2 last]
  · rw [List.reverse_append, List.dropWhile_append_of_pos last']

theorem trim_eq_iff {chars middle : List Char} : trim chars = middle ↔ Stripped chars middle := by
  constructor
  · rintro rfl
    refine ⟨⟨chars.takeWhile isBlank, ((chars.dropWhile isBlank).reverse.takeWhile isBlank).reverse,
      ?_, fun c member => List.mem_takeWhile_imp member, fun c member =>
        List.mem_takeWhile_imp (List.mem_reverse.1 member)⟩, head?_dropEnds chars,
      getLast?_dropEnds chars⟩
    rw [trim, dropEnds, ← List.reverse_append, List.takeWhile_append_dropWhile,
      List.reverse_reverse, List.takeWhile_append_dropWhile]
  · rintro ⟨⟨before, behind, rfl, blank, blank'⟩, first, last⟩
    rw [trim, dropEnds_append blank blank', dropEnds_eq_self first last]

end Text

namespace Value

/-- A text is read as what the grammar says of it without the blanks at its ends, and as NaN where
the grammar says nothing. It is refused, as a bad value, exactly if without these blanks it is more
than 4300 digits behind at most a sign. -/
theorem toNumber_text_iff (text : String) :
    (∀ result, (Value.text text).toNumber = result ↔
      ∃ middle, Stripped text.toList middle ∧ ReadsAs middle result) ∧
    (∀ cause, (Value.text text).toNumber = .error cause ↔
      ∃ sign negative digits, SignText sign negative ∧
        Stripped text.toList (sign ++ digits) ∧ (∀ c ∈ digits, isDecimalDigit c = true) ∧
        4300 < digits.length ∧ cause = .digitsRead digits.length) ∧
    ∀ cause, (Value.text text).toNumber = .error cause → cause.kind = .value := by
  have reads : ∀ result, (Value.text text).toNumber = result ↔
      ∃ middle, Stripped text.toList middle ∧ ReadsAs middle result := by
    intro result
    rw [toNumber, Number.ofText_eq, Number.ofTrimmed_eq_iff]
    constructor
    · exact fun readsAs => ⟨_, Text.trim_eq_iff.1 rfl, readsAs⟩
    · rintro ⟨middle, stripped, readsAs⟩
      rwa [Text.trim_eq_iff.2 stripped]
  have refuses : ∀ cause, (Value.text text).toNumber = .error cause ↔
      ∃ sign negative digits, SignText sign negative ∧
        Stripped text.toList (sign ++ digits) ∧ (∀ c ∈ digits, isDecimalDigit c = true) ∧
        4300 < digits.length ∧ cause = .digitsRead digits.length := by
    intro cause
    rw [reads]
    constructor
    · rintro ⟨middle, stripped, spelled | ⟨_, nan⟩⟩
      · cases spelled with
        | tooLong isSign row long =>
          exact ⟨_, _, _, isSign, stripped, (denotes_decimal_iff.1 row).1, long, rfl⟩
      · cases nan
    · rintro ⟨sign, negative, digits, isSign, stripped, all, long, rfl⟩
      exact ⟨_, stripped, .inl (.tooLong isSign (denotes_decimal_iff.2 ⟨all, rfl⟩) long)⟩
  refine ⟨reads, refuses, fun cause failed => ?_⟩
  obtain ⟨_, _, _, _, _, _, _, rfl⟩ := (refuses cause).1 failed
  rfl

example : (Value.text " \u0661\u0662. ").toNumber =
    .ok (.float ((Binary64.ofInt? 12).getD .nan)) := by
  decide +kernel
example : ["-0x10", "1_000", ".", "1e", "inf"].map (Value.toNumber ∘ Value.text) =
    List.replicate 5 (.ok (.float .nan)) := by
  decide +kernel

end Value

end NodeFlow
