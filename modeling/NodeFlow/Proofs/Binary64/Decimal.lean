import NodeFlow.Binary64.Decimal
import Mathlib.Tactic.Ring

/-!
# Decimals that read back

Rounding depends on a quotient alone, not on how it is written, so two decimals of the same value
are read as the same number. Main statement: the shortest decimal of a magnitude is read as the
number of that magnitude.
-/

namespace NodeFlow.Binary64

/-! ## Rounding a quotient -/

theorem roundQuotient_mul_right (num den : Nat) {scale : Nat} (positive : 0 < scale) :
    roundQuotient (num * scale) (den * scale) = roundQuotient num den := by
  have whole : num * scale / (den * scale) = num / den := Nat.mul_div_mul_right _ _ positive
  have rest : num * scale % (den * scale) = num % den * scale := Nat.mul_mod_mul_right _ _ _
  have below : 2 * (num % den * scale) < den * scale ↔ 2 * (num % den) < den := by
    rw [← Nat.mul_assoc]
    exact Nat.mul_lt_mul_right positive
  have above : den * scale < 2 * (num % den * scale) ↔ den < 2 * (num % den) := by
    rw [← Nat.mul_assoc]
    exact Nat.mul_lt_mul_right positive
  simp only [roundQuotient, whole, rest, below, above]

theorem roundRatio_mul_right (num den : Nat) {scale : Nat} (positive : 0 < scale) :
    roundRatio (num * scale) (den * scale) = roundRatio num den := by
  have whole : num * scale / (den * scale) = num / den := Nat.mul_div_mul_right _ _ positive
  have spared : ∀ spare, den * scale * 2 ^ spare = den * 2 ^ spare * scale := by
    intro spare
    ring
  simp only [roundRatio, whole, spared, roundQuotient_mul_right _ _ positive]

/-- Equal quotients are rounded alike. -/
theorem roundRatio_congr {num den num' den' : Nat} (positive : 0 < den) (positive' : 0 < den')
    (same : num * den' = num' * den) : roundRatio num den = roundRatio num' den' := by
  rw [← roundRatio_mul_right num den positive', same, Nat.mul_comm den den',
    roundRatio_mul_right num' den' positive]

theorem roundQuotient_of_dvd (n : Nat) {den : Nat} (positive : 0 < den) :
    roundQuotient (n * den) den = n := by
  have whole : n * den / den = n := Nat.mul_div_cancel _ positive
  have rest : n * den % den = 0 := Nat.mul_mod_left _ _
  simp only [roundQuotient, whole, rest, Nat.mul_zero, if_pos positive]

/-- A magnitude that fits is not changed by rounding. -/
theorem roundRatio_of_dvd {units den : Nat} (fits : 2 ^ spareBits units ∣ units)
    (positive : 0 < den) : roundRatio (units * den) den = units := by
  have whole : units * den / den = units := Nat.mul_div_cancel _ positive
  obtain ⟨mantissa, shape⟩ := fits
  have product : units * den = mantissa * (den * 2 ^ spareBits units) := by
    calc
      units * den = 2 ^ spareBits units * mantissa * den := by rw [← shape]
      _ = mantissa * (den * 2 ^ spareBits units) := by ring
  have scaled : 0 < den * 2 ^ spareBits units := Nat.mul_pos positive (Nat.two_pow_pos _)
  simp only [roundRatio, whole]
  rw [product, roundQuotient_of_dvd _ scaled, Nat.mul_comm]
  exact shape.symm

theorem roundRatio_zero {den : Nat} (positive : 0 < den) : roundRatio 0 den = 0 := by
  have exact := @roundRatio_of_dvd 0 den (Nat.dvd_zero _) positive
  rwa [Nat.zero_mul] at exact

/-- What lies below half a unit is rounded to nothing. -/
theorem roundRatio_of_small {num den : Nat} (small : 2 * num < den) : roundRatio num den = 0 := by
  have whole : num / den = 0 := Nat.div_eq_of_lt (by omega)
  have spare : spareBits 0 = 0 := by simp [spareBits]
  have rest : num % den = num := Nat.mod_eq_of_lt (by omega)
  simp only [roundRatio, whole, spare, roundQuotient, rest, Nat.pow_zero, Nat.mul_one, if_pos small]

/-- Rounding does not take a quotient below a power of two that it reaches. -/
theorem two_pow_le_roundRatio {num den bits : Nat} (large : 2 ^ bits ≤ num / den) :
    2 ^ bits ≤ roundRatio num den := by
  have nonzero : num / den ≠ 0 := Nat.ne_of_gt (Nat.lt_of_lt_of_le (Nat.two_pow_pos _) large)
  have reaches : bits ≤ (num / den).log2 := (Nat.le_log2 nonzero).2 large
  have leading : 2 ^ (num / den).log2 ≤ num / den := Nat.log2_self_le nonzero
  have split : (num / den).log2 =
      (num / den).log2 - spareBits (num / den) + spareBits (num / den) := by
    unfold spareBits
    omega
  have mantissa : 2 ^ ((num / den).log2 - spareBits (num / den)) ≤
      roundQuotient num (den * 2 ^ spareBits (num / den)) := by
    have floor : 2 ^ ((num / den).log2 - spareBits (num / den)) ≤
        num / (den * 2 ^ spareBits (num / den)) := by
      rw [← Nat.div_div_eq_div_mul, Nat.le_div_iff_mul_le (Nat.two_pow_pos _), ← Nat.pow_add,
        ← split]
      exact leading
    refine Nat.le_trans floor ?_
    simp only [roundQuotient]
    split
    · omega
    · split <;> omega
  calc
    2 ^ bits ≤ 2 ^ (num / den).log2 := Nat.pow_le_pow_right (by omega) reaches
    _ = 2 ^ ((num / den).log2 - spareBits (num / den)) * 2 ^ spareBits (num / den) := by
      rw [← Nat.pow_add, ← split]
    _ ≤ roundRatio num den := Nat.mul_le_mul_right _ mantissa

/-! ## Reading a decimal -/

private theorem ofUnits_congr (negative : Bool) {units units' : Nat} (same : units = units')
    (fits : 2 ^ spareBits units ∣ units) (fits' : 2 ^ spareBits units' ∣ units') :
    ofUnits negative units fits = ofUnits negative units' fits' := by
  subst same
  rfl

private theorem ofRatio_congr (negative : Bool) {num den num' den' : Nat} (positive : 0 < den)
    (positive' : 0 < den') (same : num * den' = num' * den) :
    ofRatio negative num den = ofRatio negative num' den' :=
  ofUnits_congr negative (roundRatio_congr positive positive' same) _ _

private theorem eight_pow_le_ten_pow (n : Nat) : 2 ^ (3 * n) ≤ 10 ^ n := by
  rw [Nat.pow_mul]
  exact Nat.pow_le_pow_left (by omega) n

private theorem infinite_of_large (negative : Bool) {d : Decimal} (some : d.coefficient ≠ 0)
    (large : 400 < d.exponent) :
    ofRatio negative (d.coefficient * 10 ^ d.exponent.toNat * unitsPerOne) 1 =
      .infinite negative := by
  have power := eight_pow_le_ten_pow d.exponent.toNat
  have reaches : 2 ^ limitBits ≤ d.coefficient * 10 ^ d.exponent.toNat * unitsPerOne / 1 := by
    rw [Nat.div_one]
    calc
      2 ^ limitBits ≤ 2 ^ (3 * d.exponent.toNat) * 2 ^ scaleBits := by
        rw [← Nat.pow_add]
        refine Nat.pow_le_pow_right (by omega) ?_
        unfold limitBits scaleBits
        omega
      _ ≤ 10 ^ d.exponent.toNat * unitsPerOne := Nat.mul_le_mul_right _ power
      _ ≤ d.coefficient * 10 ^ d.exponent.toNat * unitsPerOne :=
        Nat.mul_le_mul_right _ (Nat.le_mul_of_pos_left _ (Nat.pos_of_ne_zero some))
  exact ofUnits_of_le (two_pow_le_roundRatio reaches)

private theorem zero_of_small (negative : Bool) {d : Decimal}
    (small : d.exponent + d.coefficient.log2 + 1 < -400) :
    ofRatio negative (d.coefficient * unitsPerOne) (10 ^ d.exponent.natAbs) = zero negative := by
  have coefficient : d.coefficient < 2 ^ (d.coefficient.log2 + 1) := Nat.lt_log2_self
  have vanishes : 2 * (d.coefficient * unitsPerOne) < 10 ^ d.exponent.natAbs := by
    calc
      2 * (d.coefficient * unitsPerOne) = d.coefficient * (2 * unitsPerOne) := by ring
      _ < 2 ^ (d.coefficient.log2 + 1) * (2 * unitsPerOne) :=
        Nat.mul_lt_mul_of_pos_right coefficient (Nat.mul_pos (by omega) (Nat.two_pow_pos _))
      _ = 2 ^ (d.coefficient.log2 + 1 + 1 + scaleBits) := by
        unfold unitsPerOne
        ring
      _ ≤ 2 ^ (3 * d.exponent.natAbs) := by
        refine Nat.pow_le_pow_right (by omega) ?_
        unfold scaleBits
        omega
      _ ≤ 10 ^ d.exponent.natAbs := eight_pow_le_ten_pow _
  have rounded := roundRatio_of_small vanishes
  unfold ofRatio
  rw [ofUnits_congr negative rounded _ (Nat.dvd_zero _)]
  exact ofUnits_of_lt (Nat.two_pow_pos _)

/-- Reading a decimal is rounding its exact value, also where the value is not computed. -/
theorem ofDecimal_eq_ofRatio (negative : Bool) (d : Decimal) :
    ofDecimal negative d =
      ofRatio negative (d.coefficient * 10 ^ d.exponent.toNat * unitsPerOne)
        (10 ^ (-d.exponent).toNat) := by
  have nonnegative : 0 ≤ d.exponent → (-d.exponent).toNat = 0 := by omega
  have negativePower : d.exponent < 0 →
      d.exponent.toNat = 0 ∧ (-d.exponent).toNat = d.exponent.natAbs := by omega
  unfold ofDecimal
  split
  · rename_i none
    have positive : 0 < 10 ^ (-d.exponent).toNat := Nat.pow_pos (by omega)
    have rounded := roundRatio_zero positive
    unfold ofRatio
    rw [none, Nat.zero_mul, Nat.zero_mul, ofUnits_congr negative rounded _ (Nat.dvd_zero _)]
    exact (ofUnits_of_lt (Nat.two_pow_pos _)).symm
  · rename_i some
    split
    · rename_i large
      rw [nonnegative (by omega), Nat.pow_zero, infinite_of_large negative some large]
    · split
      · rename_i small
        obtain ⟨whole, power⟩ := negativePower (by omega)
        rw [whole, power, Nat.pow_zero, Nat.mul_one, zero_of_small negative small]
      · split
        · rename_i whole
          rw [nonnegative whole, Nat.pow_zero]
        · rename_i fraction
          obtain ⟨whole, power⟩ := negativePower (by omega)
          rw [whole, power, Nat.pow_zero, Nat.mul_one]

/-- Zeros at the end of the coefficient may go to the exponent. -/
theorem ofDecimal_shift (negative : Bool) (coefficient zeros : Nat) (exponent : Int) :
    ofDecimal negative ⟨coefficient * 10 ^ zeros, exponent⟩ =
      ofDecimal negative ⟨coefficient, exponent + zeros⟩ := by
  rw [ofDecimal_eq_ofRatio, ofDecimal_eq_ofRatio]
  refine ofRatio_congr negative (Nat.pow_pos (by omega)) (Nat.pow_pos (by omega)) ?_
  have powers : zeros + exponent.toNat + (-(exponent + zeros)).toNat =
      (exponent + zeros).toNat + (-exponent).toNat := by omega
  calc
    coefficient * 10 ^ zeros * 10 ^ exponent.toNat * unitsPerOne * 10 ^ (-(exponent + zeros)).toNat
        = coefficient * unitsPerOne *
            10 ^ (zeros + exponent.toNat + (-(exponent + zeros)).toNat) := by
      rw [Nat.pow_add, Nat.pow_add]
      ring
    _ = coefficient * unitsPerOne * 10 ^ ((exponent + zeros).toNat + (-exponent).toNat) := by
      rw [powers]
    _ = coefficient * 10 ^ (exponent + zeros).toNat * unitsPerOne * 10 ^ (-exponent).toNat := by
      rw [Nat.pow_add]
      ring

/-! ## The shortest decimal -/

theorem readsBack_of_chooseNeighbour {units grid below rest step point : Nat}
    (chosen : chooseNeighbour below rest step (readsBack units grid below)
      (readsBack units grid (below + 1)) = some point) : readsBack units grid point = true := by
  cases lower : readsBack units grid below <;> cases upper : readsBack units grid (below + 1) <;>
    simp only [lower, upper, chooseNeighbour] at chosen
  · cases chosen
  · cases chosen
    exact upper
  · cases chosen
    exact lower
  · split at chosen <;> cases chosen
    · exact lower
    · exact upper

theorem exists_of_searchDown {α : Type} {answer : Nat → Option α} {start : Nat} {result : α}
    (found : searchDown answer start = some result) : ∃ n, answer n = some result := by
  induction start with
  | zero => exact ⟨0, found⟩
  | succ n ih =>
    unfold searchDown at found
    cases here : answer (n + 1) with
    | none =>
      rw [here] at found
      exact ih found
    | some other =>
      rw [here] at found
      exact ⟨n + 1, here.trans found⟩

/-- The shortest decimal lies on a grid and reads back there. -/
theorem exists_grid_of_shortest {units : Nat} (fits : Representable units) :
    ∃ point grid : Nat, shortest units = ⟨point, grid - scaleBits⟩ ∧
      roundRatio (point * 10 ^ grid) (5 ^ scaleBits) = units := by
  unfold shortest
  dsimp only
  cases found : searchDown _ _ with
  | none =>
    refine ⟨decimalSteps units, 0, by simp, ?_⟩
    rw [Nat.pow_zero, Nat.mul_one, decimalSteps]
    exact roundRatio_of_dvd fits.2 (Nat.pow_pos (by omega))
  | some result =>
    obtain ⟨grid, onGrid⟩ := exists_of_searchDown found
    obtain ⟨point, nearest, rfl⟩ := Option.map_eq_some_iff.1 onGrid
    have reads := readsBack_of_chooseNeighbour nearest
    exact ⟨point, grid, rfl, by simpa [readsBack] using reads⟩

/-- The shortest decimal of a magnitude is read as the number of that magnitude. -/
theorem ofDecimal_shortest (negative : Bool) {units : Nat} (fits : Representable units) :
    ofDecimal negative (shortest units) = .finite negative units fits := by
  obtain ⟨point, grid, shape, reads⟩ := exists_grid_of_shortest fits
  have powers : (grid - scaleBits : Int).toNat + scaleBits =
      grid + (-(grid - scaleBits : Int)).toNat := by
    omega
  have ten : 10 ^ scaleBits = unitsPerOne * 5 ^ scaleBits := by
    unfold unitsPerOne
    rw [← Nat.mul_pow]
  rw [shape, ofDecimal_eq_ofRatio]
  have same : ofRatio negative (point * 10 ^ (grid - scaleBits : Int).toNat * unitsPerOne)
      (10 ^ (-(grid - scaleBits : Int)).toNat) =
        ofRatio negative (point * 10 ^ grid) (5 ^ scaleBits) := by
    refine ofRatio_congr negative (Nat.pow_pos (by omega)) (Nat.pow_pos (by omega)) ?_
    calc
      point * 10 ^ (grid - scaleBits : Int).toNat * unitsPerOne * 5 ^ scaleBits
          = point * (10 ^ (grid - scaleBits : Int).toNat * (unitsPerOne * 5 ^ scaleBits)) := by ring
      _ = point * 10 ^ ((grid - scaleBits : Int).toNat + scaleBits) := by
        rw [← ten, ← Nat.pow_add]
      _ = point * 10 ^ grid * 10 ^ (-(grid - scaleBits : Int)).toNat := by
        rw [powers, Nat.pow_add, Nat.mul_assoc]
  rw [same]
  unfold ofRatio
  rw [ofUnits_congr negative reads _ fits.2]
  exact ofUnits_of_lt fits.1

end NodeFlow.Binary64
