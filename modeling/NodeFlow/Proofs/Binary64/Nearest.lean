import NodeFlow.Proofs.Binary64.Decimal
import Mathlib.Algebra.Order.Field.Rat
import Mathlib.Data.Nat.Cast.Order.Field
import Mathlib.Tactic.FieldSimp
import Mathlib.Tactic.Linarith
import Mathlib.Tactic.Positivity

/-!
# The nearest number

What it means for a number of the format to be nearest to an exact quantity: no other magnitude of
53 significant bits is nearer, and of two that are equally near it is the one with the even
mantissa. The exponent is not bounded in this; what then lies beyond the format is infinite. Main
statements: a quantity has only one nearest number, and reading a decimal gives it.
-/

namespace NodeFlow.Binary64

/-- The quantity, in units, is rounded to the count: every other count of at most 53 significant
bits is farther away, or as far away while this one has an even mantissa. -/
structure RoundsTo (quantity : ℚ) (units : Nat) : Prop where
  fits : 2 ^ spareBits units ∣ units
  nearest : ∀ other : Nat, 2 ^ spareBits other ∣ other → other ≠ units →
    |quantity - units| < |quantity - other| ∨
      |quantity - units| = |quantity - other| ∧ 2 ^ (spareBits units + 1) ∣ units

/-- The number with the sign that is nearest to a magnitude. -/
inductive NearestTo (negative : Bool) (magnitude : ℚ) : Binary64 → Prop
  | finite {units : Nat} (fits : Representable units)
      (rounds : RoundsTo (magnitude * unitsPerOne) units) :
      NearestTo negative magnitude (.finite negative units fits)
  | infinite {units : Nat} (beyond : unitLimit ≤ units)
      (rounds : RoundsTo (magnitude * unitsPerOne) units) :
      NearestTo negative magnitude (.infinite negative)

/-! ## Mantissas -/

theorem spareBits_le_of_lt {units scale : Nat} (below : units < 2 ^ (53 + scale)) :
    spareBits units ≤ scale := by
  unfold spareBits
  by_cases zero : units = 0
  · simp [zero]
  · have := (Nat.log2_lt zero).2 below
    omega

theorem le_spareBits_of_le {units scale : Nat} (reaches : 2 ^ (52 + scale) ≤ units) :
    scale ≤ spareBits units := by
  have nonzero : units ≠ 0 := Nat.ne_of_gt (Nat.lt_of_lt_of_le (Nat.two_pow_pos _) reaches)
  have := (Nat.le_log2 nonzero).2 reaches
  unfold spareBits
  omega

theorem spareBits_mono {units other : Nat} (le : units ≤ other) :
    spareBits units ≤ spareBits other := by
  have below : other < 2 ^ (53 + spareBits other) := by
    rw [Nat.pow_add, ← Nat.div_lt_iff_lt_mul (Nat.two_pow_pos _)]
    exact div_spareBits_lt other
  exact spareBits_le_of_lt (Nat.lt_of_le_of_lt le below)

/-- An even mantissa leaves one more bit unused. -/
theorem dvd_of_even_mantissa {mantissa scale : Nat} (even : 2 ∣ mantissa)
    (bound : mantissa ≤ 2 ^ 53) :
    2 ^ (spareBits (mantissa * 2 ^ scale) + 1) ∣ mantissa * 2 ^ scale := by
  rcases Nat.lt_or_eq_of_le bound with small | rfl
  · have below : mantissa * 2 ^ scale < 2 ^ (53 + scale) := by
      rw [Nat.pow_add]
      exact Nat.mul_lt_mul_of_pos_right small (Nat.two_pow_pos scale)
    have whole : 2 ^ (scale + 1) ∣ mantissa * 2 ^ scale := by
      rw [Nat.pow_succ, Nat.mul_comm]
      exact Nat.mul_dvd_mul_right even _
    exact Nat.dvd_trans (Nat.pow_dvd_pow 2 (Nat.succ_le_succ (spareBits_le_of_lt below))) whole
  · rw [← Nat.pow_add]
    refine Nat.pow_dvd_pow 2 ?_
    unfold spareBits
    rw [Nat.log2_two_pow]
    omega

/-! ## Rounding is to the nearest -/

/-- Rounding to a whole number goes less than half a step, or half a step to an even number. -/
theorem roundQuotient_half (num : Nat) {den : Nat} (positive : 0 < den) :
    |(num / den : ℚ) - roundQuotient num den| < 1 / 2 ∨
      |(num / den : ℚ) - roundQuotient num den| = 1 / 2 ∧ 2 ∣ roundQuotient num den := by
  have scale : (0 : ℚ) < den := by exact_mod_cast positive
  have rest : num % den < den := Nat.mod_lt num positive
  have split : (num / den : ℚ) = (num / den : Nat) + (num % den : Nat) / den := by
    have whole : (num : ℚ) = den * (num / den : Nat) + (num % den : Nat) := by
      exact_mod_cast (Nat.div_add_mod num den).symm
    rw [div_eq_iff scale.ne', add_mul, div_mul_cancel₀ _ scale.ne', mul_comm]
    exact whole
  rw [split, roundQuotient]
  generalize num / den = whole
  generalize num % den = part at rest
  have part_nonneg : (0 : ℚ) ≤ part / den := by positivity
  split
  · rename_i low
    have small : (part / den : ℚ) < 1 / 2 := by
      rw [div_lt_div_iff₀ scale two_pos]
      exact_mod_cast (by omega : part * 2 < 1 * den)
    left
    rw [add_sub_cancel_left, abs_of_nonneg part_nonneg]
    exact small
  · split
    · rename_i high
      have large : (1 / 2 : ℚ) < part / den := by
        rw [div_lt_div_iff₀ two_pos scale]
        exact_mod_cast (by omega : 1 * den < part * 2)
      have below : (part / den : ℚ) < 1 := by
        rw [div_lt_one scale]
        exact_mod_cast rest
      left
      push_cast
      rw [abs_lt]
      constructor <;> linarith
    · have tie : (part / den : ℚ) = 1 / 2 := by
        rw [div_eq_div_iff scale.ne' two_ne_zero]
        exact_mod_cast (by omega : part * 2 = 1 * den)
      right
      refine ⟨?_, by omega⟩
      rw [tie]
      rcases Nat.mod_two_eq_zero_or_one whole with even | odd
      · rw [even]
        norm_num
      · rw [odd]
        push_cast
        rw [abs_of_nonpos] <;> linarith

/-- What is at least a step away is not nearer than what is at most half a step away. -/
theorem nearest_of_half {quantity : ℚ} {step units other : ℚ} {even : Prop}
    (half : |quantity - units| < step / 2 ∨ |quantity - units| = step / 2 ∧ even)
    (apart : step ≤ |units - other|) :
    |quantity - units| < |quantity - other| ∨ |quantity - units| = |quantity - other| ∧ even := by
  have around : |units - other| ≤ |quantity - units| + |quantity - other| := by
    rw [abs_sub_comm quantity units]
    exact abs_sub_le units quantity other
  rcases half with less | ⟨same, isEven⟩
  · left
    linarith
  · rcases lt_or_eq_of_le (show |quantity - units| ≤ |quantity - other| by linarith) with lt | eq
    · exact .inl lt
    · exact .inr ⟨eq, isEven⟩

/-- Different multiples of a step are at least a step apart. -/
theorem step_le_of_dvd {step units other : Nat} (ofUnits : step ∣ units) (ofOther : step ∣ other)
    (different : other ≠ units) : (step : ℚ) ≤ |(units : ℚ) - other| := by
  rcases Nat.lt_or_gt_of_ne different with less | more
  · have gap : step ≤ units - other := Nat.le_of_dvd (by omega) (Nat.dvd_sub ofUnits ofOther)
    have sum : (step : ℚ) + other ≤ units := by exact_mod_cast (by omega : step + other ≤ units)
    exact le_trans (by linarith) (le_abs_self _)
  · have gap : step ≤ other - units := Nat.le_of_dvd (by omega) (Nat.dvd_sub ofOther ofUnits)
    have sum : (step : ℚ) + units ≤ other := by exact_mod_cast (by omega : step + units ≤ other)
    rw [abs_sub_comm]
    exact le_trans (by linarith) (le_abs_self _)

/-- Rounding a quotient goes at most half the step of the format at the quotient. -/
theorem roundRatio_half (num : Nat) {den : Nat} (positive : 0 < den) :
    |(num / den : ℚ) - roundRatio num den| < (2 ^ spareBits (num / den) : Nat) / 2 ∨
      |(num / den : ℚ) - roundRatio num den| = (2 ^ spareBits (num / den) : Nat) / 2 ∧
        2 ^ (spareBits (roundRatio num den) + 1) ∣ roundRatio num den := by
  unfold roundRatio
  have bound : roundQuotient num (den * 2 ^ spareBits (num / den)) ≤ 2 ^ 53 := by
    refine Nat.le_trans (roundQuotient_le _ _) ?_
    rw [← Nat.div_div_eq_div_mul]
    exact div_spareBits_lt _
  have stepPositive : 0 < 2 ^ spareBits (num / den) := Nat.two_pow_pos _
  dsimp only
  generalize spareBits (num / den) = scale at bound stepPositive
  have half := roundQuotient_half num (Nat.mul_pos positive stepPositive)
  have even := @dvd_of_even_mantissa (roundQuotient num (den * 2 ^ scale)) scale
  generalize roundQuotient num (den * 2 ^ scale) = mantissa at bound half even
  have step : (0 : ℚ) < (2 ^ scale : Nat) := by exact_mod_cast stepPositive
  have distance : |(num / den : ℚ) - (mantissa * 2 ^ scale : Nat)| =
      (2 ^ scale : Nat) * |(num / (den * 2 ^ scale : Nat) : ℚ) - mantissa| := by
    have scaled : (num / den : ℚ) - (mantissa * 2 ^ scale : Nat) =
        (2 ^ scale : Nat) * ((num / (den * 2 ^ scale : Nat) : ℚ) - mantissa) := by
      have nonzero : (den : ℚ) ≠ 0 := by exact_mod_cast positive.ne'
      rw [Nat.cast_mul, Nat.cast_mul]
      field_simp
    rw [scaled, abs_mul, abs_of_pos step]
  rw [distance]
  rcases half with less | ⟨same, isEven⟩
  · left
    have scaled := mul_lt_mul_of_pos_left less step
    linarith
  · right
    refine ⟨?_, even isEven bound⟩
    rw [same]
    ring

/-- A count that is finer than the step at another one is below the least power of two that has this
step, and the other one is not. -/
theorem power_between {units other : Nat} (fits : 2 ^ spareBits other ∣ other)
    (offGrid : ¬ 2 ^ spareBits units ∣ other) :
    other < 2 ^ (52 + spareBits units) ∧ 2 ^ (52 + spareBits units) ≤ units := by
  have finer : ¬ spareBits units ≤ spareBits other := fun le =>
    offGrid (Nat.dvd_trans (Nat.pow_dvd_pow 2 le) fits)
  constructor
  · by_contra reaches
    exact finer (le_spareBits_of_le (Nat.not_lt.1 reaches))
  · have nonzero : units ≠ 0 := by
      rintro rfl
      exact finer (by simp [spareBits])
    refine Nat.le_trans (Nat.pow_le_pow_right (by omega) ?_) (Nat.log2_self_le nonzero)
    unfold spareBits at finer ⊢
    omega

/-- A quotient is rounded to the nearest count of units. -/
theorem roundRatio_roundsTo (num : Nat) {den : Nat} (positive : 0 < den) :
    RoundsTo (num / den) (roundRatio num den) := by
  refine ⟨roundRatio_dvd num den, fun other fits different => ?_⟩
  have half := roundRatio_half num positive
  have step : 2 ^ spareBits (num / den) ∣ roundRatio num den := Nat.dvd_mul_left _ _
  by_cases onGrid : 2 ^ spareBits (num / den) ∣ other
  · exact nearest_of_half half (step_le_of_dvd step onGrid different)
  · -- Off the grid the other count lies beyond a power of two on it, which is not nearer.
    left
    obtain ⟨below, reaches⟩ := power_between fits onGrid
    have multiple : 2 ^ spareBits (num / den) ∣ 2 ^ (52 + spareBits (num / den)) :=
      Nat.pow_dvd_pow 2 (Nat.le_add_left _ _)
    generalize 2 ^ (52 + spareBits (num / den)) = power at below reaches multiple
    have otherBelow : (other : ℚ) < power := by exact_mod_cast below
    have powerBelow : (power : ℚ) ≤ num / den :=
      le_trans (by exact_mod_cast reaches) (Nat.cast_div_le : ((num / den : Nat) : ℚ) ≤ num / den)
    have notNearer : |(num / den : ℚ) - roundRatio num den| ≤ |(num / den : ℚ) - power| := by
      by_cases same : power = roundRatio num den
      · rw [same]
      · rcases nearest_of_half half (step_le_of_dvd step multiple same) with lt | eq
        · exact lt.le
        · exact eq.1.le
    refine lt_of_le_of_lt notNearer ?_
    rw [abs_of_nonneg (by linarith), abs_of_nonneg (by linarith)]
    linarith

/-! ## Only one number is nearest -/

/-- A step above a count of at most 53 significant bits is another such count. -/
theorem dvd_next {units : Nat} (fits : 2 ^ spareBits units ∣ units) :
    2 ^ spareBits (units + 2 ^ spareBits units) ∣ units + 2 ^ spareBits units := by
  obtain ⟨mantissa, shape⟩ := fits
  have small : mantissa + 1 ≤ 2 ^ 53 := by
    have below := div_spareBits_lt units
    rw [Nat.div_eq_of_eq_mul_right (Nat.two_pow_pos _) shape] at below
    omega
  have sum : units + 2 ^ spareBits units = (mantissa + 1) * 2 ^ spareBits units := by
    calc
      units + 2 ^ spareBits units
          = 2 ^ spareBits units * mantissa + 2 ^ spareBits units := by rw [← shape]
      _ = (mantissa + 1) * 2 ^ spareBits units := by ring
  rw [sum]
  exact dvd_of_mantissa_le small

/-- Counts with even mantissas have a count between them. -/
theorem next_lt_of_even {units other : Nat} (less : units < other)
    (even : 2 ^ (spareBits units + 1) ∣ units) (even' : 2 ^ (spareBits other + 1) ∣ other) :
    units + 2 ^ spareBits units < other := by
  have coarser : 2 ^ (spareBits units + 1) ∣ 2 ^ (spareBits other + 1) :=
    Nat.pow_dvd_pow 2 (Nat.succ_le_succ (spareBits_mono less.le))
  have gap : 2 ^ (spareBits units + 1) ≤ other - units :=
    Nat.le_of_dvd (by omega) (Nat.dvd_sub (Nat.dvd_trans coarser even') even)
  have positive : 0 < 2 ^ spareBits units := Nat.two_pow_pos _
  rw [Nat.pow_succ] at gap
  omega

namespace RoundsTo

variable {quantity : ℚ} {units other : Nat}

/-- If a quantity is rounded to two counts, then both are equally near and have even mantissas. -/
theorem tie (first : RoundsTo quantity units) (second : RoundsTo quantity other)
    (different : other ≠ units) : |quantity - units| = |quantity - other| ∧
      2 ^ (spareBits units + 1) ∣ units ∧ 2 ^ (spareBits other + 1) ∣ other := by
  rcases first.nearest other second.fits different with less | ⟨same, even⟩
  · rcases second.nearest units first.fits different.symm with more | ⟨same, _⟩
    · exact absurd less more.asymm
    · exact absurd same less.ne'
  · rcases second.nearest units first.fits different.symm with more | ⟨_, even'⟩
    · exact absurd same more.ne'
    · exact ⟨same, even, even'⟩

theorem not_lt (first : RoundsTo quantity units) (second : RoundsTo quantity other) :
    ¬ units < other := by
  intro less
  obtain ⟨same, even, even'⟩ := first.tie second less.ne'
  have lessCast : (units : ℚ) < other := by exact_mod_cast less
  have middle : quantity = (units + other) / 2 := by
    rcases abs_eq_abs.1 same with equal | opposite <;> linarith
  -- The count between them is nearer than both.
  have next := dvd_next first.fits
  have above : units < units + 2 ^ spareBits units := Nat.lt_add_of_pos_right (Nat.two_pow_pos _)
  have below := next_lt_of_even less even even'
  generalize units + 2 ^ spareBits units = inner at next above below
  have aboveCast : (units : ℚ) < inner := by exact_mod_cast above
  have belowCast : (inner : ℚ) < other := by exact_mod_cast below
  have closer : |quantity - inner| < |quantity - units| := by
    rw [middle, abs_of_nonneg (show (0 : ℚ) ≤ (units + other) / 2 - units by linarith), abs_lt]
    constructor <;> linarith
  rcases first.nearest inner next above.ne' with less | ⟨equal, _⟩
  · exact less.asymm closer
  · exact closer.ne' equal

theorem eq (first : RoundsTo quantity units) (second : RoundsTo quantity other) : units = other :=
  Nat.le_antisymm (Nat.not_lt.1 (second.not_lt first)) (Nat.not_lt.1 (first.not_lt second))

/-- Rounding does not go past a count that needs no rounding. -/
theorem le_of_le (rounds : RoundsTo quantity units) (fits : 2 ^ spareBits other ∣ other)
    (le : quantity ≤ other) : units ≤ other := by
  by_contra above
  have aboveCast : (other : ℚ) < units := by exact_mod_cast Nat.not_le.1 above
  have closer : |quantity - other| < |quantity - units| := by
    rw [abs_of_nonpos (by linarith), abs_of_nonpos (by linarith)]
    linarith
  rcases rounds.nearest other fits (by omega) with less | ⟨equal, _⟩
  · exact less.asymm closer
  · exact closer.ne' equal

theorem le_of_ge (rounds : RoundsTo quantity units) (fits : 2 ^ spareBits other ∣ other)
    (ge : other ≤ quantity) : other ≤ units := by
  by_contra below
  have belowCast : (units : ℚ) < other := by exact_mod_cast Nat.not_le.1 below
  have closer : |quantity - other| < |quantity - units| := by
    rw [abs_of_nonneg (by linarith), abs_of_nonneg (by linarith)]
    linarith
  rcases rounds.nearest other fits (by omega) with less | ⟨equal, _⟩
  · exact less.asymm closer
  · exact closer.ne' equal

end RoundsTo

/-! ## Whole numbers -/

/-- A whole number is rounded to a whole number. -/
theorem unitsPerOne_dvd_roundRatio (n : Nat) : unitsPerOne ∣ roundRatio (n * unitsPerOne) 1 := by
  unfold roundRatio unitsPerOne
  dsimp only
  generalize spareBits (n * 2 ^ scaleBits / 1) = spare
  rw [Nat.one_mul]
  rcases Nat.le_total scaleBits spare with coarse | fine
  · exact Nat.dvd_trans (Nat.pow_dvd_pow 2 coarse) (Nat.dvd_mul_left _ _)
  · have split : n * 2 ^ scaleBits = n * 2 ^ (scaleBits - spare) * 2 ^ spare := by
      rw [Nat.mul_assoc, ← Nat.pow_add, Nat.sub_add_cancel fine]
    rw [split, roundQuotient_of_dvd _ (Nat.two_pow_pos _), ← split]
    exact Nat.dvd_mul_left _ _

theorem RoundsTo.unitsPerOne_dvd {n units : Nat} (rounds : RoundsTo (n * unitsPerOne) units) :
    unitsPerOne ∣ units := by
  have exact := roundRatio_roundsTo (n * unitsPerOne) Nat.one_pos
  rw [Nat.cast_one, div_one, Nat.cast_mul] at exact
  rw [rounds.eq exact]
  exact unitsPerOne_dvd_roundRatio n

/-- Numbers from `2 ^ 53` on are whole. -/
theorem unitsPerOne_dvd_of_le {units : Nat} (fits : Representable units)
    (large : 2 ^ 53 * unitsPerOne ≤ units) : unitsPerOne ∣ units := by
  have reaches : 2 ^ (52 + scaleBits) ≤ units := by
    refine Nat.le_trans ?_ large
    rw [unitsPerOne, ← Nat.pow_add]
    exact Nat.pow_le_pow_right (by omega) (by omega)
  exact Nat.dvd_trans (Nat.pow_dvd_pow 2 (le_spareBits_of_le reaches)) fits.2

namespace NearestTo

variable {negative : Bool} {magnitude : ℚ} {x y : Binary64}

theorem eq (first : NearestTo negative magnitude x) (second : NearestTo negative magnitude y) :
    x = y := by
  cases first with
  | finite fits rounds =>
    cases second with
    | finite fits' rounds' =>
      obtain rfl := rounds.eq rounds'
      rfl
    | infinite beyond rounds' => exact absurd (rounds.eq rounds' ▸ fits.1) (Nat.not_lt.2 beyond)
  | infinite beyond rounds =>
    cases second with
    | finite fits rounds' => exact absurd (rounds.eq rounds' ▸ beyond) (Nat.not_le.2 fits.1)
    | infinite => rfl

theorem ne_nan (nearest : NearestTo negative magnitude x) : x ≠ .nan := by
  rintro rfl
  cases nearest

end NearestTo

/-! ## Reading a decimal -/

theorem ofRatio_nearestTo (negative : Bool) (num : Nat) {den : Nat} (positive : 0 < den)
    {magnitude : ℚ} (same : magnitude * unitsPerOne = num / den) :
    NearestTo negative magnitude (ofRatio negative num den) := by
  have rounds : RoundsTo (magnitude * unitsPerOne) (roundRatio num den) :=
    same ▸ roundRatio_roundsTo num positive
  rw [ofRatio]
  rcases Nat.lt_or_ge (roundRatio num den) unitLimit with below | beyond
  · rw [ofUnits_of_lt below]
    exact .finite _ rounds
  · rw [ofUnits_of_le beyond]
    exact .infinite beyond rounds

/-- A decimal is read as the number nearest to it. -/
theorem ofDecimal_nearestTo (negative : Bool) (d : Decimal) :
    NearestTo negative (d.coefficient * 10 ^ d.exponent) (ofDecimal negative d) := by
  rw [ofDecimal_eq_ofRatio]
  refine ofRatio_nearestTo negative _ (Nat.pow_pos (by omega)) ?_
  have ten : (10 : ℚ) ≠ 0 := by norm_num
  have powers : (10 : ℚ) ^ d.exponent =
      (10 : ℚ) ^ d.exponent.toNat / (10 : ℚ) ^ (-d.exponent).toNat := by
    rw [← zpow_natCast, ← zpow_natCast, ← zpow_sub₀ ten]
    congr 1
    omega
  rw [powers]
  push_cast
  ring

end NodeFlow.Binary64
