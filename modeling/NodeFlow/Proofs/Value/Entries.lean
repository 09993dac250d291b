import NodeFlow.Proofs.Json.RoundTrip

/-!
# Containers by their entries

Lists and mappings are written alike, but for their brackets and for the labels in front of their
values. Main statement: a container can be written if and only if its values can.
-/

namespace NodeFlow.Value

/-- The values of a container, each with the label that stands in front of it, behind commas. -/
def writeEntries (style : Style) (depth : Nat) :
    List (List Char × Value) → Except ConversionError (List Char)
  | [] => .ok []
  | (label, value) :: rest => do
    let text ← write style depth value
    let others ← writeEntries style depth rest
    return style.comma ++ style.newline depth ++ label ++ text ++ others

/-- The values of a container between its brackets. -/
def writeEnclosed (style : Style) (depth : Nat) (left right : Char) :
    List (List Char × Value) → Except ConversionError (List Char)
  | [] => .ok [left, right]
  | (label, value) :: rest => do
    let text ← write style (depth + 1) value
    let others ← writeEntries style (depth + 1) rest
    return left :: style.newline (depth + 1) ++ label ++ text ++ others ++ style.newline depth
      ++ [right]

/-! ## Lists and mappings -/

section

variable (style : Style) (depth : Nat)

theorem writeItems_eq (items : List Value) :
    writeItems style depth items = writeEntries style depth (items.map fun item => ([], item)) := by
  induction items with
  | nil => rw [writeItems]; rfl
  | cons item items ih => simp [writeItems, writeEntries, ih]

theorem writeFields_eq (fields : Fields) : writeFields style depth fields =
    writeEntries style depth
      (fields.map fun field => (style.quote field.1.toList ++ style.colon, field.2)) := by
  induction fields with
  | nil => rw [writeFields]; rfl
  | cons field fields ih => simp [writeFields, writeEntries, ih]

theorem write_list (items : List Value) : (Value.list items).write style depth =
    writeEnclosed style depth '[' ']' (items.map fun item => ([], item)) := by
  cases items with
  | nil => rw [write]; rfl
  | cons item items => simp [write, writeEnclosed, writeItems_eq]

theorem write_dict (fields : Fields) : (Value.dict fields).write style depth =
    writeEnclosed style depth '{' '}'
      (fields.map fun field => (style.quote field.1.toList ++ style.colon, field.2)) := by
  cases fields with
  | nil => rw [write]; rfl
  | cons field fields => simp [write, writeEnclosed, writeFields_eq]

end

/-! ## What can be written -/

variable {style : Style} {depth : Nat}

theorem exists_writeEntries_iff {entries : List (List Char × Value)} :
    (∃ text, writeEntries style depth entries = .ok text) ↔
      ∀ entry ∈ entries, ∃ text, entry.2.write style depth = .ok text := by
  induction entries with
  | nil => simp [writeEntries]
  | cons entry entries ih =>
    rw [List.forall_mem_cons, ← ih]
    simp only [writeEntries, Outcome.bind_eq_ok]
    constructor
    · rintro ⟨_, text, written, others, othersWritten, _⟩
      exact ⟨⟨text, written⟩, others, othersWritten⟩
    · rintro ⟨⟨text, written⟩, others, othersWritten⟩
      exact ⟨_, text, written, others, othersWritten, rfl⟩

theorem exists_writeEnclosed_iff {entries : List (List Char × Value)} (left right : Char) :
    (∃ text, writeEnclosed style depth left right entries = .ok text) ↔
      ∀ entry ∈ entries, ∃ text, entry.2.write style (depth + 1) = .ok text := by
  cases entries with
  | nil => simp [writeEnclosed]
  | cons entry entries =>
    rw [List.forall_mem_cons, ← exists_writeEntries_iff]
    simp only [writeEnclosed, Outcome.bind_eq_ok]
    constructor
    · rintro ⟨_, text, written, others, othersWritten, _⟩
      exact ⟨⟨text, written⟩, others, othersWritten⟩
    · rintro ⟨⟨text, written⟩, others, othersWritten⟩
      exact ⟨_, text, written, others, othersWritten, rfl⟩

theorem exists_write_list_iff {items : List Value} :
    (∃ text, (Value.list items).write style depth = .ok text) ↔
      ∀ item ∈ items, ∃ text, item.write style (depth + 1) = .ok text := by
  rw [write_list, exists_writeEnclosed_iff, List.forall_mem_map]

theorem exists_write_dict_iff {fields : Fields} :
    (∃ text, (Value.dict fields).write style depth = .ok text) ↔
      ∀ field ∈ fields, ∃ text, field.2.write style (depth + 1) = .ok text := by
  rw [write_dict, exists_writeEnclosed_iff, List.forall_mem_map]

/-- A storable value can be written in every style. -/
theorem Storable.exists_write {value : Value} (storable : value.Storable) (style : Style)
    (depth : Nat) : ∃ text, value.write style depth = .ok text := by
  induction storable generalizing depth with
  | null | bool | float | text => exact ⟨_, by rw [write]⟩
  | int n short => exact ⟨_, writeInt_of_short short⟩
  | list _ ih => exact exists_write_list_iff.2 fun item member => ih item member (depth + 1)
  | dict _ _ ih => exact exists_write_dict_iff.2 fun field member => ih field member (depth + 1)

end NodeFlow.Value
