import NodeFlow.Proofs.Json.RoundTrip
import NodeFlow.Proofs.Outcome

/-!
# What is read can be stored

Every value that is read from a JSON text has a text of its own: whole numbers of too many digits
are refused, and a repeated key is kept once. The statement goes by induction on the fuel, for
values, items and fields together.
-/

namespace NodeFlow.Json

open Text (digitsValue)

/-! ## Scalars -/

theorem storable_of_numeralValue {numeral : Numeral} {value : Value} (filled : numeral.whole ≠ [])
    (read : numeralValue numeral = .ok value) : value.Storable := by
  unfold numeralValue at read
  split at read
  · split at read
    · cases read
    · rename_i short
      cases read
      refine .int _ ?_
      have magnitude : (signed numeral.negative (digitsValue numeral.whole)).natAbs =
          digitsValue numeral.whole := by
        unfold signed
        split <;> omega
      have positive : 0 < numeral.whole.length := List.length_pos_iff.2 filled
      have bound := Text.digitsValue_lt numeral.whole
      have length := (Nat.length_toDigits_le_iff (by omega) positive).2 bound
      rw [magnitude]
      omega
  · cases read
    exact .float _

theorem storable_of_readNumber {chars rest : List Char} {value : Value}
    (read : readNumber chars = .ok (value, rest)) : value.Storable := by
  unfold readNumber at read
  dsimp only at read
  split at read
  · cases read
  · rename_i filled
    cases numeral : numeralValue _ with
    | error stop =>
      rw [numeral] at read
      cases read
    | ok result =>
      rw [numeral] at read
      cases read
      exact storable_of_numeralValue (fun none => filled (List.isEmpty_iff.2 none)) numeral

private theorem storable_of_constant : ∀ entry ∈ constants, entry.2.Storable := by
  intro entry member
  simp only [constants, List.mem_cons, List.not_mem_nil, or_false] at member
  rcases member with rfl | rfl | rfl | rfl | rfl | rfl
  · exact .null
  · exact .bool true
  · exact .bool false
  · exact .float .nan
  · exact .float (.infinite false)
  · exact .float (.infinite true)

theorem storable_of_readScalar {chars rest : List Char} {value : Value}
    (read : readScalar chars = .ok (value, rest)) : value.Storable := by
  unfold readScalar at read
  split at read
  · rename_i reading found
    cases read
    obtain ⟨entry, listed, matched⟩ := List.exists_of_findSome?_eq_some found
    have storable := storable_of_constant entry listed
    dsimp only at matched
    split at matched
    · cases matched
      exact storable
    · cases matched
  · exact storable_of_readNumber read

/-! ## Mappings -/

/-- Collected fields have distinct keys and none but the given values. -/
theorem storable_collect {fields : List (String × Value)}
    (stored : ∀ field ∈ fields, field.2.Storable) : (Value.dict (collect fields)).Storable := by
  have onward : ∀ collected : Fields, (Value.dict collected).Storable →
      (Value.dict (fields.foldl
        (fun (collected : Fields) field => collected.set field.1 field.2) collected)).Storable := by
    induction fields with
    | nil => exact fun _ storable => storable
    | cons field fields ih =>
      intro collected storable
      apply ih fun other member => stored other (List.mem_cons_of_mem _ member)
      cases storable with
      | dict distinct storedBefore =>
        refine .dict (Keyed.nodup_keys_set distinct field.1 field.2) ?_
        intro other member
        rcases Keyed.mem_of_mem_set member with old | new
        · exact storedBefore other old
        · rw [new]
          exact stored field List.mem_cons_self
  exact onward [] (.dict List.nodup_nil (by simp))

/-! ## Values -/

/-- What is read with some fuel can be stored. -/
private structure ReadsStorable (fuel : Nat) : Prop where
  value : ∀ {chars value rest}, readValue fuel chars = .ok (value, rest) → value.Storable
  items : ∀ {chars items rest}, readItems fuel chars = .ok (items, rest) →
    ∀ item ∈ items, item.Storable
  fields : ∀ {chars fields rest}, readFields fuel chars = .ok (fields, rest) →
    ∀ field ∈ fields, field.2.Storable

namespace ReadsStorable

variable {fuel : Nat} {chars rest : List Char}

private theorem zero : ReadsStorable 0 where
  value := by
    intro chars value rest read
    unfold readValue at read
    cases read
  items := by
    intro chars items rest read
    unfold readItems at read
    cases read
  fields := by
    intro chars fields rest read
    unfold readFields at read
    cases read

private theorem value_succ (below : ReadsStorable fuel) {value : Value}
    (read : readValue (fuel + 1) chars = .ok (value, rest)) : value.Storable := by
  have step := readValue_eq_ok_iff.1 read
  cases step with
  | text => exact .text _
  | noItems => exact .list (by simp)
  | items _ itemsRead => exact .list (below.items itemsRead)
  | noFields => exact .dict List.nodup_nil (by simp)
  | fields _ fieldsRead => exact storable_collect (below.fields fieldsRead)
  | scalar _ _ _ scalarRead => exact storable_of_readScalar scalarRead

private theorem items_succ (below : ReadsStorable fuel) {items : List Value}
    (read : readItems (fuel + 1) chars = .ok (items, rest)) : ∀ item ∈ items, item.Storable := by
  obtain ⟨first, _, firstRead, onward⟩ := readItems_eq_ok_iff.1 read
  have storable := below.value firstRead
  rcases onward with ⟨_, rfl⟩ | ⟨_, others, _, othersRead, rfl⟩
  · simpa using storable
  · exact List.forall_mem_cons.2 ⟨storable, below.items othersRead⟩

private theorem fields_succ (below : ReadsStorable fuel) {fields : List (String × Value)}
    (read : readFields (fuel + 1) chars = .ok (fields, rest)) :
    ∀ field ∈ fields, field.2.Storable := by
  obtain ⟨_, _, _, _, value, _, _, _, _, valueRead, onward⟩ := readFields_eq_ok_iff.1 read
  have storable := below.value valueRead
  rcases onward with ⟨_, rfl⟩ | ⟨_, others, _, othersRead, rfl⟩
  · simpa using storable
  · exact List.forall_mem_cons.2 ⟨storable, below.fields othersRead⟩

private theorem all (fuel : Nat) : ReadsStorable fuel := by
  induction fuel with
  | zero => exact zero
  | succ fuel below => exact ⟨value_succ below, items_succ below, fields_succ below⟩

end ReadsStorable

/-- What is read from a text can be stored. -/
theorem storable_of_read {text : String} {value : Value} (done : read text = .ok value) :
    value.Storable := by
  obtain ⟨_, rest, valueRead, _⟩ := readAll_eq_ok_iff.1 (read_eq_ok_iff.1 done)
  exact (ReadsStorable.all _).value valueRead

end NodeFlow.Json
