import NodeFlow.Numeral
import NodeFlow.Proofs.Decimal

/-!
# Reading rows of digits

Main statement: the lenient reader of whole numbers reads a row of ASCII digits as the number that
it denotes, unless the row is too long.
-/

namespace NodeFlow

open Text (isBlank isDecimalDigit isNumeralPadding digitsValue)

theorem Text.digitValue?_of_isDigit {c : Char} (digit : c.isDigit = true) :
    digitValue? c = some (c.toNat - 48) := by
  simp only [Char.isDigit, Bool.and_eq_true, decide_eq_true_eq] at digit
  have low : 48 ≤ c.toNat := digit.1
  have high : c.toNat ≤ 57 := digit.2
  simp [digitValue?, zeroDigits, low, show c.toNat < 58 by omega]

theorem Text.isDecimalDigit_of_isDigit {c : Char} (digit : c.isDigit = true) :
    isDecimalDigit c = true := by
  rw [isDecimalDigit, digitValue?_of_isDigit digit, Option.isSome_some]

theorem Text.isBlank_of_isDigit {c : Char} (digit : c.isDigit = true) : isBlank c = false := by
  simp only [Char.isDigit, Bool.and_eq_true, decide_eq_true_eq] at digit
  have low : 48 ≤ c.toNat := digit.1
  have high : c.toNat ≤ 57 := digit.2
  simp [isBlank, blankCodes]
  omega

theorem Text.isNumeralPadding_of_isDigit {c : Char} (digit : c.isDigit = true) :
    isNumeralPadding c = false := by
  rw [isNumeralPadding, isBlank_of_isDigit digit, Bool.false_and]

theorem signed_natAbs (n : Int) : signed (decide (n < 0)) n.natAbs = n := by
  by_cases negative : n < 0
  · simp only [signed, negative, decide_true, if_true]
    omega
  · simp only [signed, negative, decide_false, Bool.false_eq_true, if_false]
    omega

theorem natAbs_signed (negative : Bool) (m : Nat) : (signed negative m).natAbs = m := by
  cases negative <;> simp [signed]

theorem decide_signed_neg (negative : Bool) {m : Nat} (positive : m ≠ 0) :
    decide (signed negative m < 0) = negative := by
  cases negative <;> simp [signed]
  omega

theorem writeInt_of_short {n : Int} (short : (Nat.toDigits 10 n.natAbs).length ≤ digitLimit) :
    writeInt n = .ok ((if decide (n < 0) then ['-'] else []) ++ Nat.toDigits 10 n.natAbs) := by
  unfold writeInt
  dsimp only
  rw [if_neg (Nat.not_lt.2 short)]
  by_cases negative : n < 0 <;> simp [negative]

theorem takeSign_of_isDigit {digits : List Char} (first : ∀ c ∈ digits.head?, c.isDigit = true) :
    takeSign digits = (false, digits) := by
  unfold takeSign
  split
  · exact absurd (first '-' rfl) (by decide)
  · exact absurd (first '+' rfl) (by decide)
  · rfl

theorem separatorsFit_digits {digits : List Char} (all : Digits digits) (afterDigit : Bool) :
    separatorsFit afterDigit digits = true := by
  induction digits generalizing afterDigit with
  | nil => rfl
  | cons c rest ih =>
    have noMark : c ≠ '_' := by
      rintro rfl
      exact absurd (all '_' List.mem_cons_self) (by decide)
    rw [separatorsFit]
    · exact ih (fun d member => all d (List.mem_cons_of_mem _ member)) _
    · exact noMark

theorem readInteger_digits {digits : List Char} (all : Digits digits) (nonempty : digits ≠ []) :
    readInteger (String.ofList digits) =
      if digitLimit < digits.length then .error (.digitsRead digits.length)
      else .ok (digitsValue digits) := by
  have unpadded : Text.dropEnds isNumeralPadding digits = digits := by
    apply Text.dropEnds_eq_self
    · intro c head
      exact Text.isNumeralPadding_of_isDigit (all c (List.mem_of_mem_head? head))
    · intro c last
      exact Text.isNumeralPadding_of_isDigit (all c (List.mem_of_mem_getLast? last))
  have unsigned : takeSign digits = (false, digits) :=
    takeSign_of_isDigit fun c head => all c (List.mem_of_mem_head? head)
  have decimal : ∀ c ∈ digits, isDecimalDigit c = true :=
    fun c member => Text.isDecimalDigit_of_isDigit (all c member)
  have inRow : ∀ c ∈ digits, (isDecimalDigit c || c == '_') = true := by
    intro c member
    rw [decimal c member, Bool.true_or]
  have row : digits.takeWhile (fun c => isDecimalDigit c || c == '_') = digits :=
    List.takeWhile_eq_self_iff.2 inRow
  have rest : digits.dropWhile (fun c => isDecimalDigit c || c == '_') = [] :=
    List.dropWhile_eq_nil_iff.2 inRow
  have kept : digits.filter isDecimalDigit = digits := List.filter_eq_self.2 decimal
  simp [readInteger, unpadded, unsigned, row, rest, kept, separatorsFit_digits all, nonempty,
    signed]

end NodeFlow
