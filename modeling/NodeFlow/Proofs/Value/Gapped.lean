import NodeFlow.Proofs.Value.Entries
import NodeFlow.Value.Format
import Mathlib.Data.Nat.Digits.Defs

/-!
# Values with a gap

A value that stands somewhere inside lists and mappings, apart from what is around it. Main
statement: what the log writes around a gap does not depend on what fills it.
-/

namespace NodeFlow

/-! ## Around one of the entries -/

namespace Value

variable {style : Style} {depth : Nat}

/-- What stands around one of the values does not depend on it. -/
theorem exists_writeEntries_around {before behind : List (List Char × Value)} (label : List Char)
    (written : ∀ entry ∈ before ++ behind, ∃ text, entry.2.write style depth = .ok text) :
    ∃ opening closing, ∀ value text, value.write style depth = .ok text →
      writeEntries style depth (before ++ (label, value) :: behind) =
        .ok (opening ++ text ++ closing) := by
  induction before with
  | nil =>
    rw [List.nil_append] at written
    obtain ⟨others, othersWritten⟩ := exists_writeEntries_iff.2 written
    refine ⟨style.comma ++ style.newline depth ++ label, others, fun value text valueWritten => ?_⟩
    rw [List.nil_append, writeEntries, valueWritten, othersWritten]
    rfl
  | cons first before ih =>
    obtain ⟨firstText, firstWritten⟩ := written first List.mem_cons_self
    obtain ⟨opening, closing, around⟩ := ih fun entry member =>
      written entry (List.mem_cons_of_mem _ member)
    refine ⟨style.comma ++ style.newline depth ++ first.1 ++ firstText ++ opening, closing,
      fun value text valueWritten => ?_⟩
    rw [List.cons_append, writeEntries, firstWritten, around value text valueWritten]
    simp [bind, Except.bind, pure, Except.pure]

theorem exists_writeEnclosed_around {before behind : List (List Char × Value)} (label : List Char)
    (written : ∀ entry ∈ before ++ behind, ∃ text, entry.2.write style (depth + 1) = .ok text)
    (left right : Char) :
    ∃ opening closing, ∀ value text, value.write style (depth + 1) = .ok text →
      writeEnclosed style depth left right (before ++ (label, value) :: behind) =
        .ok (opening ++ text ++ closing) := by
  cases before with
  | nil =>
    rw [List.nil_append] at written
    obtain ⟨others, othersWritten⟩ := exists_writeEntries_iff.2 written
    refine ⟨left :: style.newline (depth + 1) ++ label, others ++ style.newline depth ++ [right],
      fun value text valueWritten => ?_⟩
    rw [List.nil_append, writeEnclosed, valueWritten, othersWritten]
    simp [bind, Except.bind, pure, Except.pure]
  | cons first before =>
    obtain ⟨firstText, firstWritten⟩ := written first List.mem_cons_self
    obtain ⟨opening, closing, around⟩ := exists_writeEntries_around label fun entry member =>
      written entry (List.mem_cons_of_mem _ member)
    refine ⟨left :: style.newline (depth + 1) ++ first.1 ++ firstText ++ opening,
      closing ++ style.newline depth ++ [right], fun value text valueWritten => ?_⟩
    rw [List.cons_append, writeEnclosed, firstWritten, around value text valueWritten]
    simp [bind, Except.bind, pure, Except.pure]

theorem exists_writeEnclosed_map_around {α : Type} {before behind : List α}
    (entry : α → List Char × Value) (label : List Char)
    (written : ∀ item ∈ before ++ behind, ∃ text,
      (entry item).2.write style (depth + 1) = .ok text) (left right : Char) :
    ∃ opening closing, ∀ value text, value.write style (depth + 1) = .ok text →
      writeEnclosed style depth left right (before.map entry ++ (label, value) :: behind.map entry) =
        .ok (opening ++ text ++ closing) := by
  refine exists_writeEnclosed_around label ?_ left right
  rw [← List.map_append]
  exact List.forall_mem_map.2 written

end Value

/-! ## Values with a gap -/

/-- A value with a gap in it. -/
inductive Gapped where
  | gap
  | item (before : List Value) (inner : Gapped) (behind : List Value)
  | field (before : Fields) (key : String) (inner : Gapped) (behind : Fields)

namespace Gapped

/-- Puts a value into the gap. -/
def fill (value : Value) : Gapped → Value
  | gap => value
  | item before inner behind => .list (before ++ inner.fill value :: behind)
  | field before key inner behind => .dict (before ++ (key, inner.fill value) :: behind)

end Gapped

namespace Value

theorem logItems_eq_map (items : List Value) : logItems items = items.map logForm := by
  induction items with
  | nil => rw [logItems]; rfl
  | cons item items ih => rw [logItems, ih, List.map_cons]

theorem logFields_eq_map (fields : Fields) :
    logFields fields = fields.map fun field => (field.1, field.2.logForm) := by
  induction fields with
  | nil => rw [logFields]; rfl
  | cons field fields ih => rw [logFields, ih, List.map_cons]

/-- What the log writes of a storable value can be stored. -/
theorem Storable.logForm {value : Value} (storable : value.Storable) : value.logForm.Storable := by
  induction storable with
  | null => exact .null
  | bool b => exact .bool b
  | text s => exact .text s
  | int n short => exact .int n short
  | float x =>
    show (logFloat x).Storable
    unfold logFloat
    split
    · exact .null
    · split
      · split
        · rename_i small
          have few := Nat.toDigits_length 10 _ 21 (by omega) small
          exact .int _ (Nat.le_trans few (by decide))
        · exact .float x
      · exact .float x
  | list stored ih =>
    rw [Value.logForm, logItems_eq_map]
    exact .list (List.forall_mem_map.2 ih)
  | dict distinct stored ih =>
    rw [Value.logForm, logFields_eq_map]
    refine .dict ?_ (List.forall_mem_map.2 ih)
    rwa [List.map_map]

end Value

/-- What is written around the gap does not depend on what fills it. -/
theorem Gapped.exists_write_around (gapped : Gapped) {value : Value}
    (storable : (gapped.fill value).Storable) (style : Style) (depth : Nat) :
    ∃ opening closing, ∀ other text, (∀ depth, other.logForm.write style depth = .ok text) →
      (gapped.fill other).logForm.write style depth = .ok (opening ++ text ++ closing) := by
  induction gapped generalizing depth with
  | gap => exact ⟨[], [], fun other text written => by simpa [fill] using written depth⟩
  | item before inner behind ih =>
    cases storable with
    | list stored =>
      obtain ⟨opening, closing, inside⟩ := ih (stored _ (by simp)) (depth + 1)
      have others : ∀ item ∈ before ++ behind, ∃ text,
          item.logForm.write style (depth + 1) = .ok text := by
        intro item member
        refine (stored item ?_).logForm.exists_write style (depth + 1)
        rcases List.mem_append.1 member with first | last <;> simp [*]
      obtain ⟨left, right, around⟩ := Value.exists_writeEnclosed_map_around
        (fun item : Value => ([], item.logForm)) [] others '[' ']'
      refine ⟨left ++ opening, closing ++ right, fun other text otherWritten => ?_⟩
      have enclosed := around _ _ (inside other text otherWritten)
      rw [fill, Value.logForm, Value.logItems_eq_map, Value.write_list]
      simpa [Function.comp_def] using enclosed
  | field before key inner behind ih =>
    cases storable with
    | dict distinct stored =>
      obtain ⟨opening, closing, inside⟩ := ih (stored (key, inner.fill value) (by simp)) (depth + 1)
      have others : ∀ field ∈ before ++ behind, ∃ text,
          field.2.logForm.write style (depth + 1) = .ok text := by
        intro field member
        refine (stored field ?_).logForm.exists_write style (depth + 1)
        rcases List.mem_append.1 member with first | last <;> simp [*]
      obtain ⟨left, right, around⟩ := Value.exists_writeEnclosed_map_around
        (fun field : String × Value => (style.quote field.1.toList ++ style.colon, field.2.logForm))
        (style.quote key.toList ++ style.colon) others '{' '}'
      refine ⟨left ++ opening, closing ++ right, fun other text otherWritten => ?_⟩
      have enclosed := around _ _ (inside other text otherWritten)
      rw [fill, Value.logForm, Value.logFields_eq_map, Value.write_dict]
      simpa [Function.comp_def] using enclosed

end NodeFlow
