/-!
# Binary64 numbers

The numbers of the binary64 format with exact rounding. A finite magnitude is a count of units,
one unit being `2 ^ (-1074)`, the least positive number of the format; so every operation is
integer arithmetic followed by one rounding to the nearest, ties to even. There is one NaN.
Main statements: rounded quotients and roots fit the format unless they overflow.
-/

-- Powers mean the same to every module, also where a library brings its own.
attribute [instance (2000), default_instance 20000] instPowNat

namespace NodeFlow

namespace Binary64

/-- The number one is `2 ^ scaleBits` units. -/
@[irreducible] def scaleBits : Nat := 1074

/-- The magnitudes of the format stay below `2 ^ limitBits` units. -/
@[irreducible] def limitBits : Nat := 2098

/-- The number one, in units. -/
def unitsPerOne : Nat := 2 ^ scaleBits

/-- The first power of two beyond the format, in units. -/
def unitLimit : Nat := 2 ^ limitBits

/-- How many low bits a magnitude leaves unused: all but its 53 leading ones. -/
def spareBits (units : Nat) : Nat := units.log2 - 52

/-- The magnitudes of the format: below the limit, with at most 53 significant bits. -/
def Representable (units : Nat) : Prop :=
  units < unitLimit ∧ 2 ^ spareBits units ∣ units

instance (units : Nat) : Decidable (Representable units) :=
  inferInstanceAs (Decidable (_ ∧ _))

end Binary64

/-- A binary64 number. -/
inductive Binary64 where
  | nan
  | infinite (negative : Bool)
  | finite (negative : Bool) (units : Nat) (fits : Binary64.Representable units)
  deriving DecidableEq

namespace Binary64

theorem representable_zero : Representable 0 :=
  ⟨Nat.two_pow_pos _, Nat.dvd_zero _⟩

/-- Zero with a sign. -/
def zero (negative : Bool) : Binary64 := .finite negative 0 representable_zero

instance : Inhabited Binary64 := ⟨zero false⟩

/-- The whole number nearest to a quotient; a tie goes to the even neighbour. -/
def roundQuotient (num den : Nat) : Nat :=
  let whole := num / den
  let rest := num % den
  if 2 * rest < den then whole
  else if den < 2 * rest then whole + 1
  else whole + whole % 2

/-- The representable count of units nearest to a quotient, were there no largest number. -/
def roundRatio (num den : Nat) : Nat :=
  let spare := spareBits (num / den)
  roundQuotient num (den * 2 ^ spare) * 2 ^ spare

/-- The greatest whole number whose square is at most the given one. -/
def floorSqrt (n : Nat) : Nat :=
  if n = 0 then 0
  else
    let root := 2 * floorSqrt (n / 4)
    if (root + 1) * (root + 1) ≤ n then root + 1 else root
termination_by n
decreasing_by omega

/-- The representable count of units nearest to a square root, were there no largest number. -/
def roundSqrt (n : Nat) : Nat :=
  let root := floorSqrt n
  let spare := spareBits root
  let whole := root / 2 ^ spare
  let middle := (2 * whole + 1) * 2 ^ spare
  let mantissa :=
    if 4 * n < middle * middle then whole
    else if middle * middle < 4 * n then whole + 1
    else whole + whole % 2
  mantissa * 2 ^ spare

theorem roundQuotient_le (num den : Nat) : roundQuotient num den ≤ num / den + 1 := by
  simp only [roundQuotient]
  split
  · omega
  · split <;> omega

/-- A mantissa of at most 53 bits, or the next power of two, fits at every scale. -/
theorem dvd_of_mantissa_le {mantissa scale : Nat} (bound : mantissa ≤ 2 ^ 53) :
    2 ^ spareBits (mantissa * 2 ^ scale) ∣ mantissa * 2 ^ scale := by
  rcases Nat.lt_or_eq_of_le bound with small | rfl
  · refine Nat.dvd_trans (Nat.pow_dvd_pow 2 ?_) (Nat.dvd_mul_left (2 ^ scale) mantissa)
    unfold spareBits
    by_cases zero : mantissa = 0
    · simp [zero]
    · have positive : mantissa * 2 ^ scale ≠ 0 :=
        Nat.mul_ne_zero zero (Nat.ne_of_gt (Nat.two_pow_pos scale))
      have below : mantissa * 2 ^ scale < 2 ^ (53 + scale) := by
        rw [Nat.pow_add]
        exact Nat.mul_lt_mul_of_pos_right small (Nat.two_pow_pos scale)
      have := (Nat.log2_lt positive).2 below
      omega
  · rw [← Nat.pow_add]
    refine Nat.pow_dvd_pow 2 ?_
    unfold spareBits
    rw [Nat.log2_two_pow]
    omega

/-- The leading bits of a magnitude make a mantissa. -/
theorem div_spareBits_lt (units : Nat) : units / 2 ^ spareBits units < 2 ^ 53 := by
  rw [Nat.div_lt_iff_lt_mul (Nat.two_pow_pos _), ← Nat.pow_add]
  refine Nat.lt_of_lt_of_le Nat.lt_log2_self (Nat.pow_le_pow_right (by decide) ?_)
  unfold spareBits
  omega

theorem roundRatio_dvd (num den : Nat) : 2 ^ spareBits (roundRatio num den) ∣ roundRatio num den := by
  refine dvd_of_mantissa_le (Nat.le_trans (roundQuotient_le _ _) ?_)
  rw [← Nat.div_div_eq_div_mul]
  exact div_spareBits_lt _

theorem roundSqrt_dvd (n : Nat) : 2 ^ spareBits (roundSqrt n) ∣ roundSqrt n := by
  refine dvd_of_mantissa_le ?_
  have := div_spareBits_lt (floorSqrt n)
  split
  · omega
  · split <;> omega

/-- The number with a rounded magnitude; beyond the format it is infinite. -/
def ofUnits (negative : Bool) (units : Nat) (fits : 2 ^ spareBits units ∣ units) : Binary64 :=
  if below : units < unitLimit then .finite negative units ⟨below, fits⟩ else .infinite negative

theorem ofUnits_of_lt {negative : Bool} {units : Nat} {fits : 2 ^ spareBits units ∣ units}
    (below : units < unitLimit) : ofUnits negative units fits = .finite negative units ⟨below, fits⟩ :=
  dif_pos below

theorem ofUnits_of_le {negative : Bool} {units : Nat} {fits : 2 ^ spareBits units ∣ units}
    (beyond : unitLimit ≤ units) : ofUnits negative units fits = .infinite negative :=
  dif_neg (Nat.not_lt.2 beyond)

/-- The number nearest to a quotient of units. -/
def ofRatio (negative : Bool) (num den : Nat) : Binary64 :=
  ofUnits negative (roundRatio num den) (roundRatio_dvd num den)

end Binary64

end NodeFlow
