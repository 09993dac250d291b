import NodeFlow.Proofs.Json.Compact
import NodeFlow.Proofs.Value.Gapped
import Mathlib.Data.List.Forall2

/-!
# Lists and mappings in the log

A logged list or mapping is compact JSON, in which some numbers do not stand for themselves: those
that are not finite are null there, and whole ones below `10 ^ 21` have no point. `LogsAs` says what
a value stands for in the log. Main statement: the text of a list or mapping is JSON text, what is
read from it is what the value stands for, and so values that stand for different things have
different texts.
-/

namespace NodeFlow

open Json (CompactText)

/-- The whole number of a binary64 number is the one that it equals. -/
theorem Binary64.toInt?_eq_some_iff {x : Binary64} {n : Int} :
    x.toInt? = some n ↔ x.equalsInt n = true := by
  have one : (unitsPerOne : Int) ≠ 0 := by decide +kernel
  cases x with
  | nan | infinite => simp [toInt?, equalsInt, isFinite]
  | finite negative units fits =>
    simp only [toInt?, equalsInt, isFinite, Bool.true_and, beq_iff_eq]
    generalize (finite negative units fits).signedUnits = total
    constructor
    · intro found
      split at found
      · rename_i divides
        cases found
        exact (Int.ediv_mul_cancel (Int.dvd_of_emod_eq_zero divides)).symm
      · cases found
    · rintro rfl
      rw [if_pos (Int.mul_emod_left _ _), Int.mul_ediv_cancel _ one]

namespace Value

/-! ## What values stand for -/

/-- Whether the value is a list or a mapping. -/
def isContainer : Value → Bool
  | .list _ | .dict _ => true
  | _ => false

/-- What a value stands for inside a logged list or mapping: numbers that are not finite for null,
binary64 numbers that equal a whole number below `10 ^ 21` for that number, and everything else for
itself, at the same places and under the same keys. -/
inductive LogsAs : Value → Value → Prop
  | null : LogsAs .null .null
  | bool (b : Bool) : LogsAs (.bool b) (.bool b)
  | int (n : Int) : LogsAs (.int n) (.int n)
  | text (s : String) : LogsAs (.text s) (.text s)
  | unbounded {x : Binary64} (notFinite : x.isFinite = false) : LogsAs (.float x) .null
  | whole {x : Binary64} {n : Int} (equal : x.equalsInt n = true) (small : n.natAbs < 10 ^ 21) :
      LogsAs (.float x) (.int n)
  | float {x : Binary64} (finite : x.isFinite = true)
      (other : ∀ n, x.equalsInt n = true → 10 ^ 21 ≤ n.natAbs) : LogsAs (.float x) (.float x)
  | list {items others : List Value} (each : List.Forall₂ LogsAs items others) :
      LogsAs (.list items) (.list others)
  | dict {fields others : Fields} (keys : fields.map (·.1) = others.map (·.1))
      (each : List.Forall₂ LogsAs (fields.map (·.2)) (others.map (·.2))) :
      LogsAs (.dict fields) (.dict others)

theorem logsAs_float_iff {x : Binary64} {normal : Value} :
    LogsAs (.float x) normal ↔ normal = logFloat x := by
  unfold logFloat
  constructor
  · intro logsAs
    cases logsAs with
    | unbounded notFinite => rw [notFinite]; rfl
    | whole equal small =>
      have found := Binary64.toInt?_eq_some_iff.2 equal
      have finite := (Bool.and_eq_true_iff.1 equal).1
      simp [finite, found, small]
    | float finite other =>
      cases found : x.toInt? with
      | none => simp [finite]
      | some n =>
        have large := Nat.not_lt.2 (other n (Binary64.toInt?_eq_some_iff.1 found))
        simp [finite, large]
  · rintro rfl
    cases finite : x.isFinite with
    | false => exact .unbounded finite
    | true =>
      cases found : x.toInt? with
      | none =>
        refine .float finite fun n equal => ?_
        rw [Binary64.toInt?_eq_some_iff.2 equal] at found
        cases found
      | some n =>
        have equal := Binary64.toInt?_eq_some_iff.1 found
        by_cases small : n.natAbs < 10 ^ 21
        · simpa [small] using LogsAs.whole equal small
        · have kept : LogsAs (.float x) (.float x) := by
            refine .float finite fun m equal => ?_
            rw [Binary64.toInt?_eq_some_iff.2 equal] at found
            cases found
            exact Nat.not_lt.1 small
          simpa [small] using kept

/-- A relation that is a function on the items relates lists as the function maps them. -/
theorem forall₂_iff_eq_map {α β : Type} {relates : α → β → Prop} {f : α → β} {items : List α}
    {others : List β} (each : ∀ item ∈ items, ∀ other, relates item other ↔ other = f item) :
    List.Forall₂ relates items others ↔ others = items.map f := by
  induction items generalizing others with
  | nil => simp
  | cons item items ih =>
    rw [List.forall_mem_cons] at each
    cases others with
    | nil => simp
    | cons other others =>
      rw [List.forall₂_cons, each.1, ih each.2, List.map_cons, List.cons.injEq]

/-- A value stands for its logged form and for nothing else. -/
theorem Storable.logsAs_iff {value : Value} (storable : value.Storable) {normal : Value} :
    value.LogsAs normal ↔ normal = value.logForm := by
  induction storable generalizing normal with
  | null | bool | int | text =>
    constructor
    · intro logsAs
      cases logsAs
      rfl
    · rintro rfl
      constructor
  | float x => exact logsAs_float_iff
  | @list items _ ih =>
    rw [Value.logForm, logItems_eq_map]
    have alike : ∀ others, List.Forall₂ LogsAs items others ↔ others = items.map Value.logForm :=
      fun _ => forall₂_iff_eq_map fun item member _ => ih item member
    constructor
    · intro logsAs
      cases logsAs with
      | list each => rw [(alike _).1 each]
    · rintro rfl
      exact .list ((alike _).2 rfl)
  | @dict fields _ _ ih =>
    rw [Value.logForm, logFields_eq_map]
    have alike : ∀ others, List.Forall₂ LogsAs (fields.map (·.2)) others ↔
        others = (fields.map (·.2)).map Value.logForm :=
      fun _ => forall₂_iff_eq_map (List.forall_mem_map.2 fun field member _ => ih field member)
    constructor
    · intro logsAs
      cases logsAs with
      | dict keys each =>
        -- Fields are made up of their keys and their values.
        rw [List.zip_of_prod keys.symm ((alike _).1 each)]
        congr 1
        symm
        apply List.zip_of_prod <;> simp
    · rintro rfl
      exact .dict (by simp) ((alike _).2 (by simp))

/-! ## The text of a list or mapping -/

theorem compactText_of_float {x : Binary64} (finite : x.isFinite = true) :
    CompactText (Json.compact.float x) := by
  cases x with
  | nan | infinite => cases finite
  | finite negative units fits => exact .number (Json.numberText_write _ negative)

/-- The log writes what a storable value stands for as compact JSON text. -/
theorem Storable.compactText {value : Value} (storable : value.Storable) {depth : Nat}
    {text : List Char} (written : value.logForm.write Json.compact depth = .ok text) :
    CompactText text := by
  induction storable generalizing depth text with
  | null =>
    cases written
    exact .null
  | bool b =>
    cases written
    cases b
    · exact .no
    · exact .yes
  | int n => exact .number (Json.numberText_of_writeInt written)
  | text s =>
    cases written
    exact .text (Json.stringText_quote s.toList)
  | float x =>
    have logsAs : LogsAs (.float x) (Value.logForm (.float x)) := logsAs_float_iff.2 rfl
    generalize Value.logForm (.float x) = normal at logsAs written
    cases logsAs with
    | unbounded =>
      cases written
      exact .null
    | whole => exact .number (Json.numberText_of_writeInt written)
    | float finite =>
      cases written
      exact compactText_of_float finite
  | list _ ih =>
    rw [Value.logForm, logItems_eq_map] at written
    refine Json.compactText_list written (List.forall_mem_map.2 fun item member text => ?_)
    exact ih item member
  | dict _ _ ih =>
    rw [Value.logForm, logFields_eq_map] at written
    refine Json.compactText_dict written (List.forall_mem_map.2 fun field member text => ?_)
    exact ih field member

theorem format_of_isContainer {value : Value} (container : value.isContainer = true) :
    value.format = (value.logForm.write Json.compact 0).map String.ofList := by
  cases value with
  | list | dict => rfl
  | _ => cases container

/-- A list or mapping has a text in the log, and it reads back as what the value stands for. -/
theorem Storable.exists_format {value : Value} (storable : value.Storable)
    (container : value.isContainer = true) : ∃ text, value.format = .ok text ∧
      CompactText text.toList ∧ Json.read text = .ok value.logForm := by
  obtain ⟨text, written, read⟩ := Json.read_write Json.isNotation_compact storable.logForm
  refine ⟨String.ofList text, ?_, ?_, read⟩
  · rw [format_of_isContainer container, written]
    rfl
  · rw [String.toList_ofList]
    exact storable.compactText written

/-- The log shows a list or mapping as a JSON text without blanks outside strings. What is read from
the text is what the value stands for in the log, at the same places and under the same keys in the
same order; so lists and mappings that stand for different values never have the same text. -/
theorem read_format {value : Value} (container : value.isContainer = true)
    (storable : value.Storable) :
    ∃ text normal, value.format = .ok text ∧ CompactText text.toList ∧ value.LogsAs normal ∧
      Json.read text = .ok normal ∧
      ∀ other otherNormal : Value, other.isContainer = true → other.Storable →
        other.LogsAs otherNormal → other.format = .ok text → otherNormal = normal := by
  obtain ⟨text, formatted, compact, read⟩ := storable.exists_format container
  refine ⟨text, _, formatted, compact, storable.logsAs_iff.2 rfl, read, ?_⟩
  intro other otherNormal otherContainer otherStorable otherLogsAs otherFormatted
  obtain ⟨otherText, formatted', _, otherRead⟩ := otherStorable.exists_format otherContainer
  rw [otherFormatted] at formatted'
  cases formatted'
  rw [read] at otherRead
  rw [otherStorable.logsAs_iff.1 otherLogsAs]
  exact (Except.ok.inj otherRead).symm

/-- Numbers of all kinds in a list, under a key that is escaped in part. -/
def measured : Value :=
  .dict [("caf\u00e9\n", .list [.float .nan, .float (.zero true),
    .float (Binary64.ofDecimal false ⟨25, -1⟩)]), ("", .dict [])]

theorem storable_measured : measured.Storable := by
  refine .dict (by decide) fun field member => ?_
  simp only [List.mem_cons, List.not_mem_nil, or_false] at member
  rcases member with rfl | rfl
  · refine .list fun item member => ?_
    simp only [List.mem_cons, List.not_mem_nil, or_false] at member
    rcases member with rfl | rfl | rfl <;> exact .float _
  · exact .dict List.nodup_nil (List.forall_mem_nil _)

/-- The text of `measured` in the log. -/
def measuredText : String :=
  "\x7b\"caf\u00e9\\n\":[null,0,2.5],\"\":\x7b\x7d\x7d"

private theorem format_measured : measured.format = .ok measuredText := by
  decide +kernel

/-- The text is read as the one value that the mapping stands for. -/
theorem read_format_measured : (measured.isContainer = true ∧ measured.Storable) ∧
    ∃ normal, measured.format = .ok measuredText ∧ CompactText measuredText.toList ∧
      measured.LogsAs normal ∧ Json.read measuredText = .ok normal ∧
      ∀ other, measured.LogsAs other → other = normal := by
  obtain ⟨text, normal, formatted, compact, logsAs, read, unique⟩ :=
    @read_format measured rfl storable_measured
  rw [format_measured] at formatted
  cases formatted
  refine ⟨⟨rfl, storable_measured⟩, normal, format_measured, compact, logsAs, read, ?_⟩
  exact fun other otherLogsAs =>
    unique measured other rfl storable_measured otherLogsAs format_measured

end Value

end NodeFlow
