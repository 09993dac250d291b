import NodeFlow.Proofs.Decimal
import NodeFlow.Text.Blank

/-!
# The parts of a written decimal

A layout spreads the significant digits of a decimal over a whole part, a fraction and an exponent.
Main statements: put together again, the parts stand for what the digits stood for; and none of
their zeros is superfluous, except for the mark that a layout sets behind whole numbers.
-/

namespace NodeFlow

open Text (digitsValue)

/-- The text of a fraction. -/
def pointText : Option (List Char) → List Char
  | none => []
  | some digits => '.' :: digits

/-- The digits before the point: a zero on its own, or digits without a leading zero. -/
def IsWhole (digits : List Char) : Prop :=
  digits = ['0'] ∨ Significand digits

/-- Digits that do not end in a zero, at least one. -/
structure IsFraction (digits : List Char) : Prop where
  all : Digits digits
  ends : ∃ front last, digits = front ++ [last] ∧ last ≠ '0'

theorem IsWhole.digits {whole : List Char} (isWhole : IsWhole whole) : Digits whole := by
  rcases isWhole with rfl | significand
  · exact .zeros 1
  · exact significand.all

theorem IsWhole.cons {whole : List Char} (isWhole : IsWhole whole) :
    ∃ first rest, whole = first :: rest ∧ first.isDigit = true := by
  rcases isWhole with rfl | significand
  · exact ⟨'0', [], rfl, by decide⟩
  · obtain ⟨first, rest, shape, _⟩ := significand.leads
    exact ⟨first, rest, shape, significand.all first (shape ▸ List.mem_cons_self)⟩

namespace IsFraction

variable {digits : List Char}

theorem ne_nil (fraction : IsFraction digits) : digits ≠ [] := by
  obtain ⟨front, last, rfl, _⟩ := fraction.ends
  simp

theorem prepend (fraction : IsFraction digits) {more : List Char} (all : Digits more) :
    IsFraction (more ++ digits) := by
  obtain ⟨front, last, rfl, nonzero⟩ := fraction.ends
  exact ⟨.append all fraction.all, more ++ front, last, (List.append_assoc ..).symm, nonzero⟩

theorem drop (fraction : IsFraction digits) {count : Nat} (inside : count < digits.length) :
    IsFraction (digits.drop count) := by
  obtain ⟨front, last, rfl, nonzero⟩ := fraction.ends
  have split : count ≤ front.length := by
    simp only [List.length_append, List.length_singleton] at inside
    omega
  exact ⟨fraction.all.drop count, front.drop count, last, List.drop_append_of_le_length split,
    nonzero⟩

end IsFraction

/-- No significant digit at the end is a zero. -/
theorem Decimal.isFraction_significant (d : Decimal) (positive : d.coefficient ≠ 0) :
    IsFraction d.significant := by
  have significand := d.significand positive
  obtain ⟨front, last, shape⟩ :=
    (List.eq_nil_or_concat d.significant).resolve_left significand.ne_nil
  rw [List.concat_eq_append] at shape
  refine ⟨significand.all, front, last, shape, ?_⟩
  rintro rfl
  have first : ((Nat.toDigits 10 d.coefficient).reverse.dropWhile (· == '0')).head? =
      some '0' := by
    rw [← List.getLast?_reverse, ← Decimal.significant, shape, List.getLast?_concat]
  exact absurd (Text.head?_dropWhile '0' first) (by decide)

namespace Layout

/-- An exponent. -/
def exponentText (layout : Layout) (power : Int) : List Char :=
  'e' :: (if power < 0 then '-' else '+') ::
    (List.replicate (layout.exponentWidth - (Nat.toDigits 10 power.natAbs).length) '0' ++
      Nat.toDigits 10 power.natAbs)

/-- A whole part, a fraction and a power of ten stand for digits with the point at its place. -/
structure Spreads (digits : List Char) (point : Int) (whole : List Char)
    (fraction : Option (List Char)) (power : Int) : Prop where
  isWhole : IsWhole whole
  all : Digits (fraction.getD [])
  value : ∃ zeros : Nat, digitsValue (whole ++ fraction.getD []) = digitsValue digits * 10 ^ zeros ∧
    power - (fraction.getD []).length + zeros = point - digits.length

section

variable {layout : Layout} {mark : Option (List Char)} {zeros : Nat} {digits : List Char}

theorem write_of_inside {d : Decimal} (positive : d.coefficient ≠ 0)
    (inside : layout.lowest ≤ d.point ∧ d.point ≤ layout.highest) (negative : Bool) :
    layout.write negative d =
      (if negative then ['-'] else []) ++ layout.plain d.significant d.point := by
  simp [write, positive, inside]

theorem write_of_outside {d : Decimal} (positive : d.coefficient ≠ 0)
    (outside : ¬ (layout.lowest ≤ d.point ∧ d.point ≤ layout.highest)) (negative : Bool) :
    layout.write negative d =
      (if negative then ['-'] else []) ++ layout.scientific d.significant d.point := by
  have test : (decide (layout.lowest ≤ d.point) && decide (d.point ≤ layout.highest)) = false := by
    simpa using outside
  simp [write, positive, test]

/-- In plain notation the digits are spread over a whole part and a fraction. The fraction does not
end in a zero, unless it is the mark of whole numbers. -/
theorem exists_plain (marked : layout.wholeMark = pointText mark)
    (idle : mark.getD [] = List.replicate zeros '0') (significand : Significand digits)
    (tight : IsFraction digits) (point : Int) :
    ∃ whole fraction, layout.plain digits point = whole ++ pointText fraction ∧
      Spreads digits point whole fraction 0 ∧
      (fraction = mark ∨ ∃ text, fraction = some text ∧ IsFraction text) := by
  unfold plain
  by_cases small : point ≤ 0
  · -- Below one, zeros stand between the point and the digits.
    rw [if_pos small]
    have filled := tight.prepend (.zeros point.natAbs)
    refine ⟨['0'], some (List.replicate point.natAbs '0' ++ digits), rfl,
      ⟨.inl rfl, filled.all, 0, ?_, ?_⟩, .inr ⟨_, rfl, filled⟩⟩
    · rw [Option.getD_some, ← List.append_assoc, Nat.pow_zero, Nat.mul_one]
      exact Text.digitsValue_zeros_append (point.natAbs + 1) digits
    · simp only [Option.getD_some, List.length_append, List.length_replicate]
      omega
  · rw [if_neg small]
    by_cases short : (digits.length : Int) ≤ point
    · -- A whole number has zeros behind its digits, and its mark.
      rw [if_pos short, marked]
      refine ⟨_, mark, rfl, ⟨.inr (significand.append (.zeros _)), ?_,
        point.natAbs - digits.length + zeros, ?_, ?_⟩, .inl rfl⟩
      · rw [idle]
        exact .zeros zeros
      · rw [idle, List.append_assoc, List.replicate_append_replicate,
          Text.digitsValue_append_zeros]
      · rw [idle, List.length_replicate]
        omega
    · -- Otherwise the point stands inside the digits.
      rw [if_neg short]
      have inside : 0 < point.natAbs ∧ point.natAbs < digits.length := by omega
      have behind := tight.drop inside.2
      refine ⟨_, some _, rfl, ⟨.inr (significand.take inside.1), behind.all, 0, ?_, ?_⟩,
        .inr ⟨_, rfl, behind⟩⟩
      · rw [Option.getD_some, List.take_append_drop, Nat.pow_zero, Nat.mul_one]
      · simp only [Option.getD_some, List.length_drop]
        omega

/-- With an exponent the first digit is the whole part and the others are the fraction. -/
theorem exists_scientific (layout : Layout) (significand : Significand digits)
    (tight : IsFraction digits) (point : Int) :
    ∃ first fraction, layout.scientific digits point =
        [first] ++ (pointText fraction ++ layout.exponentText (point - 1)) ∧
      Spreads digits point [first] fraction (point - 1) ∧ first ≠ '0' ∧
      ∀ text ∈ fraction, IsFraction text := by
  obtain ⟨first, others, rfl, nonzero⟩ := significand.leads
  have isWhole : IsWhole [first] := .inr (significand.take (n := 1) (by omega))
  cases others with
  | nil =>
    refine ⟨first, none, rfl, ⟨isWhole, .zeros 0, 0, ?_, ?_⟩, nonzero, by simp⟩
    · rw [Option.getD_none, List.append_nil, Nat.pow_zero, Nat.mul_one]
    · simp only [Option.getD_none, List.length_nil, List.length_singleton]
      omega
  | cons second others =>
    have behind := tight.drop (show 1 < (first :: second :: others).length by simp)
    refine ⟨first, some (second :: others), rfl, ⟨isWhole, behind.all, 0, ?_, ?_⟩, nonzero,
      by simpa using behind⟩
    · rw [Option.getD_some, List.singleton_append, Nat.pow_zero, Nat.mul_one]
    · simp only [Option.getD_some, List.length_cons]
      omega

/-- The parts in which a layout writes a decimal that is not zero. -/
inductive Writes (layout : Layout) (mark : Option (List Char)) (d : Decimal) :
    List Char → Option (List Char) → Option Int → Prop
  | plain {whole : List Char} {fraction : Option (List Char)} (low : layout.lowest ≤ d.point)
      (high : d.point ≤ layout.highest)
      (spreads : Spreads d.significant d.point whole fraction 0)
      (tight : fraction = mark ∨ ∃ text, fraction = some text ∧ IsFraction text) :
      Writes layout mark d whole fraction none
  | scientific {first : Char} {fraction : Option (List Char)}
      (outside : d.point < layout.lowest ∨ layout.highest < d.point)
      (spreads : Spreads d.significant d.point [first] fraction (d.point - 1))
      (nonzero : first ≠ '0') (tight : ∀ text ∈ fraction, IsFraction text) :
      Writes layout mark d [first] fraction (some (d.point - 1))

theorem Writes.spreads {d : Decimal} {whole : List Char} {fraction : Option (List Char)}
    {power : Option Int} (writes : layout.Writes mark d whole fraction power) :
    Spreads d.significant d.point whole fraction (power.getD 0) := by
  cases writes with
  | plain _ _ spreads => exact spreads
  | scientific _ spreads => exact spreads

/-- The text of an exponent, if there is one. -/
def powerText (layout : Layout) : Option Int → List Char
  | none => []
  | some power => layout.exponentText power

/-- A decimal that is not zero is written in its parts. -/
theorem exists_writes (marked : layout.wholeMark = pointText mark)
    (idle : mark.getD [] = List.replicate zeros '0') {d : Decimal} (positive : d.coefficient ≠ 0)
    (negative : Bool) :
    ∃ whole fraction power, layout.write negative d = (if negative then ['-'] else []) ++
        (whole ++ (pointText fraction ++ layout.powerText power)) ∧
      layout.Writes mark d whole fraction power := by
  have significand := d.significand positive
  have tight := d.isFraction_significant positive
  by_cases inside : layout.lowest ≤ d.point ∧ d.point ≤ layout.highest
  · obtain ⟨whole, fraction, shape, spreads, ends⟩ :=
      exists_plain marked idle significand tight d.point
    refine ⟨whole, fraction, none, ?_, .plain inside.1 inside.2 spreads ends⟩
    rw [write_of_inside positive inside, shape, powerText, List.append_nil]
  · obtain ⟨first, fraction, shape, spreads, nonzero, ends⟩ :=
      exists_scientific layout significand tight d.point
    refine ⟨[first], fraction, some (d.point - 1), ?_,
      .scientific (by omega) spreads nonzero ends⟩
    rw [write_of_outside positive inside, shape, powerText]

end

end Layout

end NodeFlow
