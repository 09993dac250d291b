import NodeFlow.Proofs.Number.Rendering
import NodeFlow.Proofs.Value.Gapped

/-!
# Numbers inside logged values

Inside a logged list or mapping a number stands in the notation of stored data, and whole numbers
below `10 ^ 21` without a point. Main statement: at every depth a number has the text that it has in
a list of its own, and the theorem says for which numbers this is the text that they have alone.
-/

namespace NodeFlow

open Binary64 (shortest unitsPerOne)

/-! ## The notation of the log and the one of stored data -/

theorem two_le_length_toDigits_iff (n : Nat) : 2 ≤ (Nat.toDigits 10 n).length ↔ 10 ≤ n := by
  constructor
  · intro long
    by_contra small
    rw [Nat.toDigits_of_lt_base (Nat.not_le.1 small)] at long
    simp at long
  · intro large
    have leading : 0 < (Nat.toDigits 10 (n / 10)).length := List.length_pos_of_ne_nil (by simp)
    rw [Nat.toDigits_of_base_le (by omega) large, List.length_append, List.length_singleton]
    omega

namespace Layout

/-- With digits behind the point, all layouts write the same plain notation. -/
theorem plain_eq_plain (layout other : Layout) {digits : List Char} {point : Int}
    (behind : point < digits.length) : layout.plain digits point = other.plain digits point := by
  unfold plain
  split
  · rfl
  · rw [if_neg (by omega), if_neg (by omega)]

theorem letter_mem_scientific (layout : Layout) (digits : List Char) (point : Int) :
    'e' ∈ layout.scientific digits point := by
  simp [scientific]

/-- With an exponent the two layouts differ if it has one digit only. -/
theorem scientific_eq_scientific_iff (digits : List Char) (point : Int) :
    data.scientific digits point = console.scientific digits point ↔
      10 ≤ (point - 1).natAbs := by
  have some : 0 < (Nat.toDigits 10 (point - 1).natAbs).length :=
    List.length_pos_of_ne_nil (by simp)
  rw [← two_le_length_toDigits_iff]
  simp only [scientific, List.append_cancel_left_eq, List.cons.injEq, true_and,
    List.append_cancel_right_eq, data, console]
  constructor
  · intro same
    have lengths := congrArg List.length same
    rw [List.length_replicate, List.length_replicate] at lengths
    omega
  · intro long
    congr 1
    omega

/-- Where the digits go beyond the point or the point beyond plain notation, both layouts write
the same but for magnitudes from `10 ^ (-9)` to below `10 ^ (-4)`. -/
theorem data_write_eq_console_iff {d : Decimal} (positive : d.coefficient ≠ 0)
    (reach : d.point ≤ 16 ∧ d.point < d.significant.length ∨ 21 < d.point) (negative : Bool) :
    data.write negative d = console.write negative d ↔
      1 / 10 ^ 4 ≤ d.value ∨ d.value < 1 / 10 ^ 9 := by
  have low : (1 / 10 ^ 4 : ℚ) ≤ d.value ↔ -4 < d.point := by
    rw [show (1 / 10 ^ 4 : ℚ) = 10 ^ (-4 : Int) by norm_num, Decimal.lt_point_iff positive]
  have tiny : d.value < (1 / 10 ^ 9 : ℚ) ↔ d.point ≤ -9 := by
    rw [show (1 / 10 ^ 9 : ℚ) = 10 ^ (-9 : Int) by norm_num, Decimal.point_le_iff positive]
  rw [low, tiny]
  by_cases plainConsole : console.lowest ≤ d.point ∧ d.point ≤ console.highest
  · have bounds : (-5 : Int) ≤ d.point ∧ d.point ≤ 21 := plainConsole
    have behind : d.point ≤ 16 ∧ d.point < d.significant.length := by omega
    rw [write_of_inside positive plainConsole]
    by_cases plainData : data.lowest ≤ d.point ∧ d.point ≤ data.highest
    · have above : (-3 : Int) ≤ d.point := plainData.1
      rw [write_of_inside positive plainData, data.plain_eq_plain console behind.2]
      exact iff_of_true rfl (.inl (by omega))
    · -- Below `0.0001` only the data have an exponent.
      have below : ¬ ((-3 : Int) ≤ d.point ∧ d.point ≤ 16) := plainData
      have plain := ((console_form positive negative).resolve_right fun outside =>
        outside.1 plainConsole).2
      rw [write_of_inside positive plainConsole] at plain
      rw [write_of_outside positive plainData]
      refine iff_of_false (fun same => ?_) (by omega)
      rw [← same] at plain
      exact plain.no_exponent
        (List.mem_append_right _ (data.letter_mem_scientific d.significant d.point))
  · have bounds : ¬ ((-5 : Int) ≤ d.point ∧ d.point ≤ 21) := plainConsole
    have outside : ¬ (data.lowest ≤ d.point ∧ d.point ≤ data.highest) := by
      show ¬ ((-3 : Int) ≤ d.point ∧ d.point ≤ 16)
      omega
    rw [write_of_outside positive plainConsole, write_of_outside positive outside,
      List.append_cancel_left_eq, scientific_eq_scientific_iff]
    omega

end Layout

/-! ## The decimals of whole and of fractional numbers -/

namespace Binary64

theorem coefficient_shortest_ne_zero {units : Nat} (fits : Representable units)
    (some : units ≠ 0) : (shortest units).coefficient ≠ 0 :=
  fun none => some ((Number.coefficient_shortest_eq_zero_iff fits).1 none)

theorem ne_zero_of_not_dvd {units : Nat} (fractional : ¬ unitsPerOne ∣ units) : units ≠ 0 := by
  rintro rfl
  exact fractional (Nat.dvd_zero _)

theorem ne_zero_of_le {units : Nat} (large : 10 ^ 21 * unitsPerOne ≤ units) : units ≠ 0 := by
  rintro rfl
  exact absurd large (by decide +kernel)

theorem shortest_roundsTo {units : Nat} (fits : Representable units) :
    RoundsTo ((shortest units).value * unitsPerOne) units := by
  have nearest := ofDecimal_nearestTo false (shortest units)
  rw [← Decimal.value, ofDecimal_shortest false fits] at nearest
  cases nearest with
  | finite _ rounds => exact rounds

/-- The digits of a number that is not whole go beyond the point, which lies before the digits that
plain notation reaches. -/
theorem point_shortest_of_not_dvd {units : Nat} (fits : Representable units)
    (fractional : ¬ unitsPerOne ∣ units) : (shortest units).point ≤ 16 ∧
      (shortest units).point < (shortest units).significant.length := by
  have rounds := shortest_roundsTo fits
  constructor
  · by_contra beyond
    have positive := coefficient_shortest_ne_zero fits (ne_zero_of_not_dvd fractional)
    have reaches : (10 : ℚ) ^ 16 ≤ (shortest units).value :=
      (Decimal.lt_point_iff positive 16).1 (by omega)
    have large : 10 ^ 16 * unitsPerOne ≤ units := by
      refine rounds.le_of_ge (by decide +kernel) ?_
      push_cast
      exact mul_le_mul_of_nonneg_right reaches (by positivity)
    exact fractional (unitsPerOne_dvd_of_le fits
      (Nat.le_trans (Nat.mul_le_mul_right _ (by decide)) large))
  · by_contra whole
    obtain ⟨zeros, gap⟩ := Int.le.dest (Int.not_lt.1 whole)
    have value : (shortest units).value =
        (Text.digitsValue (shortest units).significant * 10 ^ zeros : Nat) := by
      rw [Decimal.value_eq, ← gap, add_sub_cancel_left, zpow_natCast]
      push_cast
      rfl
    rw [value] at rounds
    exact fractional rounds.unitsPerOne_dvd

/-- The point of a number from `10 ^ 21` on lies beyond plain notation. -/
theorem point_shortest_of_le {units : Nat} (fits : Representable units)
    (large : 10 ^ 21 * unitsPerOne ≤ units) : 21 < (shortest units).point := by
  rw [Decimal.lt_point_iff (coefficient_shortest_ne_zero fits (ne_zero_of_le large))]
  by_contra below
  have least : units = 10 ^ 21 * unitsPerOne := by
    refine Nat.le_antisymm ((shortest_roundsTo fits).le_of_le (by decide +kernel) ?_) large
    push_cast
    exact mul_le_mul_of_nonneg_right (le_of_lt (not_le.1 below)) (by positivity)
  have exact : shortest (10 ^ 21 * unitsPerOne) = ⟨1, 21⟩ := by decide +kernel
  rw [least, exact, Decimal.value] at below
  exact below (by norm_num)

end Binary64

/-! ## The text of a number in a list -/

namespace Number

/-- The text of a number inside lists and mappings: what stands between the brackets of a list that
has no other item. -/
def NestedText (number : Number) (text : String) : Prop :=
  (Value.list [.ofNumber number]).format = .ok ("[" ++ text ++ "]")

/-- A number has the same text alone and inside lists and mappings. A whole number has it below
`10 ^ 21`; a whole binary64 number there if its shortest decimal is exact, because all its digits
are written inside; other binary64 numbers if both notations agree on their exponent. -/
def RendersAlike : Number → Prop
  | .int n => n.natAbs < 10 ^ 21
  | .float (.finite _ units _) =>
    if unitsPerOne ∣ units then
      10 ^ 21 * unitsPerOne ≤ units ∨ (shortest units).value = (units / unitsPerOne : Nat)
    else 1 / 10 ^ 4 ≤ (shortest units).value ∨ (shortest units).value < 1 / 10 ^ 9
  | .float _ => True

theorem write_logForm_ofNumber (number : Number) (style : Style) (depth other : Nat) :
    (Value.ofNumber number).logForm.write style depth =
      (Value.ofNumber number).logForm.write style other := by
  cases number with
  | int n => rfl
  | float x =>
    show (Value.logFloat x).write style depth = (Value.logFloat x).write style other
    unfold Value.logFloat
    split
    · rfl
    · split
      · split <;> rfl
      · rfl

theorem nestedText_iff {number : Number} {text : String} (depth : Nat) : number.NestedText text ↔
    (Value.ofNumber number).logForm.write Json.compact depth = .ok text.toList := by
  have format : (Value.list [.ofNumber number]).format =
      ((Value.ofNumber number).logForm.write Json.compact depth).map fun chars =>
        String.ofList ('[' :: chars ++ [']']) := by
    rw [write_logForm_ofNumber number Json.compact depth 1]
    show ((Value.list [(Value.ofNumber number).logForm]).write Json.compact 0).map _ = _
    rw [Value.write_list, List.map_singleton, Value.writeEnclosed, Value.writeEntries]
    cases (Value.ofNumber number).logForm.write Json.compact 1 with
    | error cause => rfl
    | ok chars => simp [Json.compact, bind, Except.bind, Except.map, pure, Except.pure]
  have shape : "[" ++ text ++ "]" = String.ofList ('[' :: text.toList ++ [']']) := by
    apply String.toList_inj.1
    simp
  rw [NestedText, format, shape]
  cases (Value.ofNumber number).logForm.write Json.compact depth with
  | error cause => simp [Except.map]
  | ok chars =>
    simp only [Except.map, Except.ok.injEq]
    rw [String.ofList_inj, List.append_cancel_right_eq, List.cons.injEq]
    exact and_iff_right rfl

/-- A whole number has its digits inside lists and mappings. -/
theorem exists_nested_int {n : Int} (short : (Nat.toDigits 10 n.natAbs).length ≤ digitLimit) :
    ∃ plain nested, (Number.int n).format = .ok plain ∧ (Number.int n).NestedText nested ∧
      (nested = plain ↔ (Number.int n).RendersAlike) := by
  have written := writeInt_of_short short
  refine ⟨String.ofList (Layout.console.write (decide (n < 0)) ⟨n.natAbs, 0⟩),
    String.ofList ((if decide (n < 0) then ['-'] else []) ++ Nat.toDigits 10 n.natAbs), ?_, ?_, ?_⟩
  · rw [format, written]
    rfl
  · rw [nestedText_iff 0, String.toList_ofList]
    exact written
  · rw [String.ofList_inj, RendersAlike]
    constructor
    · intro same
      by_contra large
      have positive : n.natAbs ≠ 0 := by
        intro zero
        rw [zero] at large
        exact large (by decide)
      have plain : PlainText (Layout.console.write (decide (n < 0)) ⟨n.natAbs, 0⟩) := by
        have digits := @PlainText.intro (decide (n < 0)) _ none (.inr (.toDigits positive)) (by simp)
        rwa [pointText, List.append_nil, same] at digits
      have below := ((@Layout.plainText_console_iff ⟨n.natAbs, 0⟩ positive _).1.1 plain).2
      rw [Decimal.value, zpow_zero, mul_one] at below
      exact large (by exact_mod_cast below)
    · intro small
      exact (Layout.console_write_int small).symm

theorem signedUnits_finite (negative : Bool) {units : Nat}
    (fits : Binary64.Representable units) :
    (Binary64.finite negative units fits).signedUnits = signed negative units := by
  cases negative <;> rfl

theorem toInt?_of_dvd (negative : Bool) {m : Nat}
    (fits : Binary64.Representable (m * unitsPerOne)) :
    (Binary64.finite negative (m * unitsPerOne) fits).toInt? = some (signed negative m) := by
  have one : (unitsPerOne : Int) ≠ 0 := by decide +kernel
  have product : signed negative (m * unitsPerOne) = signed negative m * unitsPerOne := by
    cases negative <;> simp [signed]
  simp only [Binary64.toInt?, signedUnits_finite, product, Int.mul_emod_left, if_true,
    Int.mul_ediv_cancel _ one]

theorem toInt?_of_not_dvd (negative : Bool) {units : Nat} (fits : Binary64.Representable units)
    (fractional : ¬ unitsPerOne ∣ units) :
    (Binary64.finite negative units fits).toInt? = none := by
  have rest : signed negative units % unitsPerOne ≠ 0 := by
    intro none
    have divides := Int.natAbs_dvd_natAbs.2 (Int.dvd_of_emod_eq_zero none)
    cases negative <;> simp [signed] at divides <;> exact fractional divides
  simp only [Binary64.toInt?, signedUnits_finite, if_neg rest]

theorem logFloat_of_dvd (negative : Bool) {m : Nat}
    (fits : Binary64.Representable (m * unitsPerOne)) :
    Value.logFloat (.finite negative (m * unitsPerOne) fits) =
      if m < 10 ^ 21 then .int (signed negative m)
      else .float (.finite negative (m * unitsPerOne) fits) := by
  have finite : (Binary64.finite negative (m * unitsPerOne) fits).isFinite = true := rfl
  simp [Value.logFloat, finite, toInt?_of_dvd, natAbs_signed]

theorem logFloat_of_not_dvd (negative : Bool) {units : Nat}
    (fits : Binary64.Representable units) (fractional : ¬ unitsPerOne ∣ units) :
    Value.logFloat (.finite negative units fits) = .float (.finite negative units fits) := by
  have finite : (Binary64.finite negative units fits).isFinite = true := rfl
  simp [Value.logFloat, finite, toInt?_of_not_dvd negative fits fractional]

/-- A whole binary64 number below `10 ^ 21` has all its digits inside lists and mappings, and those
of its shortest decimal elsewhere. -/
theorem exists_nested_whole (negative : Bool) {m : Nat} (small : m < 10 ^ 21)
    (fits : Binary64.Representable (m * unitsPerOne)) :
    ∃ nested, (Number.float (.finite negative (m * unitsPerOne) fits)).NestedText nested ∧
      (nested = String.ofList (Layout.console.write negative (shortest (m * unitsPerOne))) ↔
        (shortest (m * unitsPerOne)).value = m) := by
  have few := Nat.toDigits_length 10 m 21 (by omega) small
  have written := @writeInt_of_short (signed negative m)
    (by rw [natAbs_signed]; exact Nat.le_trans few (by decide))
  rw [natAbs_signed] at written
  refine ⟨String.ofList ((if decide (signed negative m < 0) then ['-'] else []) ++
    Nat.toDigits 10 m), ?_, ?_⟩
  · rw [nestedText_iff 0, String.toList_ofList]
    show (Value.logFloat _).write Json.compact 0 = _
    rw [logFloat_of_dvd, if_pos small]
    exact written
  · rw [String.ofList_inj]
    constructor
    · intro same
      have digits := decimalText_toDigits (decide (signed negative m < 0)) m
      have log := @Layout.decimalText_write .console none 0 rfl rfl (shortest (m * unitsPerOne))
        negative
      rw [same] at digits
      have values := congrArg abs (log.unique digits)
      rwa [abs_signedValue _ (Decimal.value_nonneg _), abs_signedValue _ (Nat.cast_nonneg m)]
        at values
    · intro exact
      by_cases zero : m = 0
      · rw [zero, Nat.cast_zero, Decimal.value_eq_zero_iff] at exact
        subst zero
        rw [Layout.write, if_pos exact]
        cases negative <;> rfl
      · have same : (shortest (m * unitsPerOne)).value = Decimal.value ⟨m, 0⟩ := by
          rw [exact, Decimal.value, zpow_zero, mul_one]
        rw [Layout.console.write_congr negative same,
          Layout.console_write_whole zero small, decide_signed_neg negative zero]

/-- A binary64 number that the log keeps as it is has the notation of stored data inside lists and
mappings. -/
theorem nestedText_of_logFloat {negative : Bool} {units : Nat}
    {fits : Binary64.Representable units}
    (kept : Value.logFloat (.finite negative units fits) = .float (.finite negative units fits)) :
    (Number.float (.finite negative units fits)).NestedText
      (String.ofList (Layout.data.write negative (shortest units))) := by
  rw [nestedText_iff 0, String.toList_ofList]
  show (Value.logFloat _).write Json.compact 0 = _
  rw [kept]
  rfl

/-- From `10 ^ 21` on both notations have an exponent of two digits. -/
theorem data_write_eq_console_of_le {units : Nat} (fits : Binary64.Representable units)
    (large : 10 ^ 21 * unitsPerOne ≤ units) (negative : Bool) :
    Layout.data.write negative (shortest units) = Layout.console.write negative (shortest units) := by
  have positive := Binary64.coefficient_shortest_ne_zero fits (Binary64.ne_zero_of_le large)
  have beyond := Binary64.point_shortest_of_le fits large
  refine (Layout.data_write_eq_console_iff positive (.inr beyond) negative).2 (.inl ?_)
  exact le_trans (by norm_num) ((Decimal.lt_point_iff positive 21).1 beyond)

theorem exists_nested_float (negative : Bool) {units : Nat}
    (fits : Binary64.Representable units) :
    ∃ nested, (Number.float (.finite negative units fits)).NestedText nested ∧
      (nested = String.ofList (Layout.console.write negative (shortest units)) ↔
        (Number.float (.finite negative units fits)).RendersAlike) := by
  have one : 0 < unitsPerOne := by decide +kernel
  by_cases whole : unitsPerOne ∣ units
  · obtain ⟨m, shape⟩ := whole
    rw [Nat.mul_comm] at shape
    subst shape
    rw [RendersAlike, if_pos (Nat.dvd_mul_left _ _), Nat.mul_div_cancel _ one]
    by_cases small : m < 10 ^ 21
    · have notLarge : ¬ 10 ^ 21 * unitsPerOne ≤ m * unitsPerOne :=
        Nat.not_le.2 (Nat.mul_lt_mul_of_pos_right small one)
      rw [or_iff_right notLarge]
      exact exists_nested_whole negative small fits
    · have large : 10 ^ 21 * unitsPerOne ≤ m * unitsPerOne :=
        Nat.mul_le_mul_right _ (Nat.not_lt.1 small)
      have kept := logFloat_of_dvd negative fits
      rw [if_neg small] at kept
      refine ⟨_, nestedText_of_logFloat kept, ?_⟩
      rw [data_write_eq_console_of_le fits large]
      exact iff_of_true rfl (.inl large)
  · rw [RendersAlike, if_neg whole]
    have positive := Binary64.coefficient_shortest_ne_zero fits (Binary64.ne_zero_of_not_dvd whole)
    refine ⟨_, nestedText_of_logFloat (logFloat_of_not_dvd negative fits whole), ?_⟩
    rw [String.ofList_inj]
    exact Layout.data_write_eq_console_iff positive
      (.inl (Binary64.point_shortest_of_not_dvd fits whole)) negative

theorem exists_nested {number : Number} (writable : number.Writable) :
    ∃ plain nested, number.format = .ok plain ∧ number.NestedText nested ∧
      (nested = plain ↔ number.RendersAlike) := by
  cases number with
  | int n => exact exists_nested_int writable
  | float x =>
    cases x with
    | finite negative units fits =>
      obtain ⟨nested, text, same⟩ := exists_nested_float negative fits
      exact ⟨_, nested, rfl, text, same⟩
    | nan => cases writable
    | infinite => cases writable

end Number

/-! ## Numbers inside logged values -/

namespace Gapped

theorem format_fill {gapped : Gapped} (inside : gapped ≠ .gap) (value : Value) :
    (gapped.fill value).format =
      ((gapped.fill value).logForm.write Json.compact 0).map String.ofList := by
  cases gapped with
  | gap => exact absurd rfl inside
  | item => rfl
  | field => rfl

/-- Inside a list or a mapping, at any depth, a number has the text that it has in a list of its
own: with another number in its place, the text around it stays as it is. This is the text that the
number has alone if and only if it is rendered alike. -/
theorem format_fill_number {gapped : Gapped} (inside : gapped ≠ .gap) {number : Number}
    (writable : number.Writable) (storable : (gapped.fill (.ofNumber number)).Storable) :
    (∃ opening closing : String, ∀ other text, Number.NestedText other text →
      (gapped.fill (.ofNumber other)).format = .ok (opening ++ text ++ closing)) ∧
    ∃ plain nested, number.format = .ok plain ∧ number.NestedText nested ∧
      (nested = plain ↔ number.RendersAlike) := by
  refine ⟨?_, Number.exists_nested writable⟩
  obtain ⟨opening, closing, around⟩ := gapped.exists_write_around storable Json.compact 0
  refine ⟨String.ofList opening, String.ofList closing, fun other text nested => ?_⟩
  have written := around (.ofNumber other) text.toList fun depth =>
    (Number.nestedText_iff depth).1 nested
  rw [format_fill inside, written]
  simp [Except.map, String.append_assoc]

/-- A vector of a list, with its third component missing. -/
def vectorInList : Gapped :=
  .item [.text "at"] (.field [("x", .int 1), ("y", .null)] "z" .gap []) []

theorem format_vectorInList :
    (vectorInList ≠ .gap ∧ (Number.int (10 ^ 21)).Writable ∧
      (vectorInList.fill (.int (10 ^ 21))).Storable) ∧
    (∃ opening closing : String, ∀ other text, Number.NestedText other text →
      (vectorInList.fill (.ofNumber other)).format = .ok (opening ++ text ++ closing)) ∧
    ∃ plain nested, (Number.int (10 ^ 21)).format = .ok plain ∧
      (Number.int (10 ^ 21)).NestedText nested ∧
      (nested = plain ↔ (Number.int (10 ^ 21)).RendersAlike) := by
  have inside : vectorInList ≠ .gap := by simp [vectorInList]
  have writable : (Number.int (10 ^ 21)).Writable := by decide +kernel
  have storable : (vectorInList.fill (.int (10 ^ 21))).Storable := by
    refine .list fun item member => ?_
    simp only [List.cons_append, List.nil_append, List.mem_cons, List.not_mem_nil, or_false]
      at member
    rcases member with rfl | rfl
    · exact .text "at"
    · refine .dict (by decide) fun field member => ?_
      simp only [fill, List.cons_append, List.nil_append, List.mem_cons, List.not_mem_nil,
        or_false] at member
      rcases member with rfl | rfl | rfl
      · exact .int 1 (by decide)
      · exact .null
      · exact .int (10 ^ 21) writable
  exact ⟨⟨inside, writable, storable⟩, format_fill_number inside writable storable⟩

/-- Below `10 ^ (-6)` the exponent of a number has two digits inside lists, and one alone. -/
theorem nested_small_differs :
    (Value.float (Binary64.ofDecimal false ⟨1, -7⟩)).format = .ok "1e-7" ∧
      (Value.list [.float (Binary64.ofDecimal false ⟨1, -7⟩)]).format = .ok "[1e-07]" := by
  decide +kernel

end Gapped

end NodeFlow
