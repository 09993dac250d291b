import NodeFlow.Decimal
import NodeFlow.Text.Digit
import Mathlib.Data.List.Induction
import Mathlib.Data.List.TakeWhile
import Mathlib.Tactic.Ring

/-!
# Decimal digits

The digits that are written denote the number they were written for; zeros at the head do not
count, and each zero at the end counts as a factor of ten. Main statement: the coefficient of a
decimal is what its significant digits denote, times ten for every zero that was dropped.
-/

namespace NodeFlow

open Text (digitsValue)

/-! ## What digits denote -/

theorem Text.digitsValue_toDigits (n : Nat) : digitsValue (Nat.toDigits 10 n) = n := by
  induction n using Nat.strongRecOn with
  | _ n ih =>
    by_cases small : n < 10
    · rw [Nat.toDigits_of_lt_base small]
      simp [digitsValue, digitValue?_digitChar small]
    · have last : n % 10 < 10 := Nat.mod_lt n (by omega)
      have shorter : n / 10 < n := Nat.div_lt_self (by omega) (by omega)
      rw [Nat.toDigits_of_base_le (by omega) (by omega), digitsValue_append,
        digitValue?_digitChar last, ih (n / 10) shorter, Option.getD_some]
      omega

private theorem foldl_zeros (total count : Nat) :
    (List.replicate count '0').foldl
      (fun total c => 10 * total + (Text.digitValue? c).getD 0) total = total * 10 ^ count := by
  induction count generalizing total with
  | zero => simp
  | succ count ih =>
    have zero : Text.digitValue? '0' = some 0 := by decide
    rw [List.replicate_succ, List.foldl_cons, ih, zero, Option.getD_some]
    ring

theorem Text.digitsValue_append_zeros (digits : List Char) (count : Nat) :
    digitsValue (digits ++ List.replicate count '0') = digitsValue digits * 10 ^ count := by
  rw [digitsValue, List.foldl_append, foldl_zeros]
  rfl

theorem Text.digitsValue_zeros_append (count : Nat) (digits : List Char) :
    digitsValue (List.replicate count '0' ++ digits) = digitsValue digits := by
  rw [digitsValue, List.foldl_append, foldl_zeros, Nat.zero_mul]
  rfl

theorem Text.digitsValue_lt (digits : List Char) : digitsValue digits < 10 ^ digits.length := by
  have value : ∀ c, (digitValue? c).getD 0 < 10 := by
    intro c
    cases found : digitValue? c with
    | none => exact Nat.succ_pos 9
    | some value => exact digitValue?_lt_ten found
  induction digits using List.reverseRecOn with
  | nil => exact Nat.one_pos
  | append_singleton digits c ih =>
    have last := value c
    rw [digitsValue_append, List.length_append, List.length_singleton, Nat.pow_succ]
    omega

/-! ## Rows of digits -/

/-- A row of ASCII digits. -/
def Digits (chars : List Char) : Prop :=
  ∀ c ∈ chars, c.isDigit = true

namespace Digits

theorem toDigits (n : Nat) : Digits (Nat.toDigits 10 n) :=
  fun _ member => Nat.isDigit_of_mem_toDigits (by omega) (by omega) member

theorem zeros (count : Nat) : Digits (List.replicate count '0') := by
  intro c member
  rw [List.eq_of_mem_replicate member]
  decide

theorem append {left right : List Char} (first : Digits left) (second : Digits right) :
    Digits (left ++ right) := by
  intro c member
  rcases List.mem_append.1 member with inLeft | inRight
  · exact first c inLeft
  · exact second c inRight

theorem take {digits : List Char} (all : Digits digits) (n : Nat) : Digits (digits.take n) :=
  fun c member => all c (List.mem_of_mem_take member)

theorem drop {digits : List Char} (all : Digits digits) (n : Nat) : Digits (digits.drop n) :=
  fun c member => all c (List.mem_of_mem_drop member)

end Digits

/-- Digits without a leading zero, at least one. -/
structure Significand (digits : List Char) : Prop where
  all : Digits digits
  leads : ∃ first rest, digits = first :: rest ∧ first ≠ '0'

theorem Significand.ne_nil {digits : List Char} (significand : Significand digits) :
    digits ≠ [] := by
  obtain ⟨first, rest, shape, _⟩ := significand.leads
  simp [shape]

theorem Significand.append {digits more : List Char} (significand : Significand digits)
    (all : Digits more) : Significand (digits ++ more) := by
  obtain ⟨first, rest, shape, nonzero⟩ := significand.leads
  exact ⟨.append significand.all all, first, rest ++ more, by rw [shape, List.cons_append], nonzero⟩

theorem Significand.take {digits : List Char} (significand : Significand digits) {n : Nat}
    (positive : 0 < n) : Significand (digits.take n) := by
  obtain ⟨first, rest, shape, nonzero⟩ := significand.leads
  refine ⟨significand.all.take n, first, rest.take (n - 1), ?_, nonzero⟩
  rw [shape, List.take_cons positive]

theorem Significand.toDigits {n : Nat} (positive : n ≠ 0) : Significand (Nat.toDigits 10 n) := by
  refine ⟨.toDigits n, ?_⟩
  induction n using Nat.strongRecOn with
  | _ n ih =>
    by_cases small : n < 10
    · refine ⟨n.digitChar, [], Nat.toDigits_of_lt_base small, ?_⟩
      simpa using positive
    · have shorter : n / 10 < n := Nat.div_lt_self (by omega) (by omega)
      obtain ⟨first, rest, shape, nonzero⟩ := ih (n / 10) shorter (by omega)
      refine ⟨first, rest ++ [(n % 10).digitChar], ?_, nonzero⟩
      have large : 10 ≤ n := by omega
      rw [Nat.toDigits_of_base_le (by omega) large, shape, List.cons_append]

theorem toDigits_mul_ten_pow {n : Nat} (positive : n ≠ 0) (zeros : Nat) :
    Nat.toDigits 10 (n * 10 ^ zeros) = Nat.toDigits 10 n ++ List.replicate zeros '0' := by
  induction zeros with
  | zero => simp
  | succ zeros ih =>
    have power : 0 < 10 ^ zeros := Nat.pow_pos (by omega)
    have factor : n * 10 ^ (zeros + 1) = n * 10 ^ zeros * 10 := by
      rw [Nat.pow_succ, Nat.mul_assoc]
    have large : 10 ≤ n * 10 ^ zeros * 10 :=
      Nat.le_mul_of_pos_left 10 (Nat.mul_pos (Nat.pos_of_ne_zero positive) power)
    rw [factor, Nat.toDigits_of_base_le (by omega) large, Nat.mul_div_cancel _ (by omega),
      Nat.mul_mod_left, ih, List.append_assoc, List.replicate_succ']
    rfl

/-! ## Significant digits -/

namespace Decimal

/-- Zeros at the end of the coefficient may go to the exponent. -/
theorem significant_shift {coefficient : Nat} (positive : coefficient ≠ 0) (zeros : Nat)
    (exponent : Int) : significant ⟨coefficient * 10 ^ zeros, exponent⟩ =
      significant ⟨coefficient, exponent + zeros⟩ := by
  have dropped : ∀ c ∈ List.replicate zeros '0', (c == '0') = true := by
    intro c member
    rw [List.eq_of_mem_replicate member]
    rfl
  simp only [significant]
  rw [toDigits_mul_ten_pow positive, List.reverse_append, List.reverse_replicate,
    List.dropWhile_append_of_pos dropped]

theorem point_shift {coefficient : Nat} (positive : coefficient ≠ 0) (zeros : Nat)
    (exponent : Int) : point ⟨coefficient * 10 ^ zeros, exponent⟩ =
      point ⟨coefficient, exponent + zeros⟩ := by
  simp only [point]
  rw [toDigits_mul_ten_pow positive, List.length_append, List.length_replicate]
  push_cast
  omega

/-- The digits of the coefficient are the significant ones and zeros. -/
theorem exists_zeros (d : Decimal) :
    ∃ zeros, Nat.toDigits 10 d.coefficient = d.significant ++ List.replicate zeros '0' := by
  have split := @List.takeWhile_append_dropWhile Char (· == '0')
    (Nat.toDigits 10 d.coefficient).reverse
  have zeros : ∀ c ∈ (Nat.toDigits 10 d.coefficient).reverse.takeWhile (· == '0'), c = '0' := by
    intro c member
    simpa using List.mem_takeWhile_imp member
  have same := List.eq_replicate_of_mem zeros
  have reversed := congrArg List.reverse split
  rw [List.reverse_append, List.reverse_reverse, same, List.reverse_replicate] at reversed
  exact ⟨_, reversed.symm⟩

theorem significand (d : Decimal) (positive : d.coefficient ≠ 0) : Significand d.significant := by
  obtain ⟨zeros, shape⟩ := d.exists_zeros
  have whole := Significand.toDigits positive
  have digits : Digits d.significant := by
    intro c member
    exact whole.all c (shape ▸ List.mem_append_left _ member)
  obtain ⟨first, rest, leads, nonzero⟩ := whole.leads
  rw [leads] at shape
  cases significant : d.significant with
  | nil =>
    rw [significant, List.nil_append] at shape
    have zero : first ∈ List.replicate zeros '0' := shape ▸ List.mem_cons_self
    exact absurd (List.eq_of_mem_replicate zero) nonzero
  | cons c others =>
    rw [significant, List.cons_append] at shape
    have sameHead : first = c := (List.cons.inj shape).1
    exact ⟨significant ▸ digits, c, others, rfl, sameHead ▸ nonzero⟩

/-- The coefficient and the place of the point, by the significant digits and the zeros that were
dropped. -/
theorem exists_shift (d : Decimal) :
    ∃ zeros : Nat, d.coefficient = digitsValue d.significant * 10 ^ zeros ∧
      d.point = d.significant.length + zeros + d.exponent := by
  obtain ⟨zeros, shape⟩ := d.exists_zeros
  refine ⟨zeros, ?_, ?_⟩
  · have value := Text.digitsValue_toDigits d.coefficient
    rw [shape, Text.digitsValue_append_zeros] at value
    exact value.symm
  · unfold point
    rw [shape]
    simp

end Decimal

end NodeFlow
