import NodeFlow.Proofs.Json.Lines

/-!
# JSON text with folded line ends

A value that is read from a text, with whatever fuel, is read from all texts of the same lines, with
the fuel that their length asks for. Main statement: folding the line ends of a text changes neither
whether it is read nor what is read from it.
-/

namespace NodeFlow.Json

/-! ## Values -/

/-- A mark behind blanks stands behind the blanks of all texts of the same lines. -/
theorem SameLines.behind_skipBlanks {left right rest : List Char} {mark : Char}
    (same : SameLines left right) (plain : endsLine mark = false)
    (found : Json.skipBlanks left = mark :: rest) :
    ∃ rest', Json.skipBlanks right = mark :: rest' ∧ SameLines rest rest' ∧
      rest'.length < right.length := by
  have blanks := same.skipBlanks
  have skipped := length_skipBlanks_le right
  rw [found] at blanks
  obtain ⟨rest', found', later⟩ := blanks.cons plain
  rw [found', List.length_cons] at skipped
  exact ⟨rest', found', later, skipped⟩

/-- What the reader reads from a text with some fuel, it reads from all texts of the same lines with
the fuel that their length asks for, and it leaves texts of the same lines. -/
def ReadsAlike {α : Type} (reader : Nat → List Char → Except Stop (α × List Char))
    (spare fuel : Nat) : Prop :=
  ∀ {left right rest : List Char} {result : α}, SameLines left right →
    reader fuel left = .ok (result, rest) → ∀ fuel', 2 * right.length + spare ≤ fuel' →
      ∃ rest', reader fuel' right = .ok (result, rest') ∧ SameLines rest rest' ∧
        rest'.length < right.length

section

variable {fuel : Nat}

private theorem readsAlike_readValue (ofItems : ReadsAlike readItems 2 fuel)
    (ofFields : ReadsAlike readFields 2 fuel) : ReadsAlike readValue 1 (fuel + 1) := by
  intro left right rest value same read fuel' enough
  obtain ⟨fuel', rfl⟩ := Nat.exists_eq_succ_of_ne_zero (show fuel' ≠ 0 by omega)
  -- The first character ends no line, so both texts are read in the same way.
  have step := readValue_eq_ok_iff.1 read
  cases step with
  | text textRead =>
    obtain ⟨inner', rfl, later⟩ := same.cons (by decide)
    rw [List.length_cons] at enough ⊢
    obtain ⟨rest', textRead', restSame, shorter⟩ := later.readString textRead ('"' :: inner')
      (show inner'.length ≤ fuel' by omega)
    exact ⟨rest', readValue_eq_ok_iff.2 (.text textRead'), restSame, by omega⟩
  | noItems closes =>
    obtain ⟨inner', rfl, later⟩ := same.cons (by decide)
    obtain ⟨rest', closes', restSame, shorter⟩ := later.behind_skipBlanks (by decide) closes
    rw [List.length_cons]
    exact ⟨rest', readValue_eq_ok_iff.2 (.noItems closes'), restSame, by omega⟩
  | items filled itemsRead =>
    obtain ⟨inner', rfl, later⟩ := same.cons (by decide)
    have skipped := length_skipBlanks_le inner'
    have filled' := later.skipBlanks.ne_cons (by decide) filled
    rw [List.length_cons] at enough ⊢
    obtain ⟨rest', itemsRead', restSame, shorter⟩ := ofItems later.skipBlanks itemsRead fuel'
      (by omega)
    exact ⟨rest', readValue_eq_ok_iff.2 (.items filled' itemsRead'), restSame, by omega⟩
  | noFields closes =>
    obtain ⟨inner', rfl, later⟩ := same.cons (by decide)
    obtain ⟨rest', closes', restSame, shorter⟩ := later.behind_skipBlanks (by decide) closes
    rw [List.length_cons]
    exact ⟨rest', readValue_eq_ok_iff.2 (.noFields closes'), restSame, by omega⟩
  | fields filled fieldsRead =>
    obtain ⟨inner', rfl, later⟩ := same.cons (by decide)
    have skipped := length_skipBlanks_le inner'
    have filled' := later.skipBlanks.ne_cons (by decide) filled
    rw [List.length_cons] at enough ⊢
    obtain ⟨rest', fieldsRead', restSame, shorter⟩ := ofFields later.skipBlanks fieldsRead fuel'
      (by omega)
    exact ⟨rest', readValue_eq_ok_iff.2 (.fields filled' fieldsRead'), restSame, by omega⟩
  | scalar noMark noBracket noBrace scalarRead =>
    obtain ⟨rest', scalarRead', restSame, shorter⟩ := same.readScalar scalarRead
    refine ⟨rest', readValue_eq_ok_iff.2 (.scalar ?_ ?_ ?_ scalarRead'), restSame, shorter⟩
    · exact same.ne_cons (by decide) noMark
    · exact same.ne_cons (by decide) noBracket
    · exact same.ne_cons (by decide) noBrace

private theorem readsAlike_readItems (ofValue : ReadsAlike readValue 1 fuel)
    (ofItems : ReadsAlike readItems 2 fuel) : ReadsAlike readItems 2 (fuel + 1) := by
  intro left right rest items same read fuel' enough
  obtain ⟨fuel', rfl⟩ := Nat.exists_eq_succ_of_ne_zero (show fuel' ≠ 0 by omega)
  obtain ⟨item, after, itemRead, onward⟩ := readItems_eq_ok_iff.1 read
  obtain ⟨after', itemRead', afterSame, shorter⟩ := ofValue same itemRead fuel' (by omega)
  rcases onward with ⟨closes, rfl⟩ | ⟨next, others, goesOn, othersRead, rfl⟩
  · obtain ⟨rest', closes', restSame, behind⟩ := afterSame.behind_skipBlanks (by decide) closes
    refine ⟨rest', readItems_eq_ok_iff.2 ?_, restSame, by omega⟩
    exact ⟨item, after', itemRead', .inl ⟨closes', rfl⟩⟩
  · obtain ⟨next', goesOn', nextSame, behind⟩ := afterSame.behind_skipBlanks (by decide) goesOn
    have skipped := length_skipBlanks_le next'
    obtain ⟨rest', othersRead', restSame, further⟩ := ofItems nextSame.skipBlanks othersRead fuel'
      (by omega)
    refine ⟨rest', readItems_eq_ok_iff.2 ?_, restSame, by omega⟩
    exact ⟨item, after', itemRead', .inr ⟨next', others, goesOn', othersRead', rfl⟩⟩

private theorem readsAlike_readFields (ofValue : ReadsAlike readValue 1 fuel)
    (ofFields : ReadsAlike readFields 2 fuel) : ReadsAlike readFields 2 (fuel + 1) := by
  intro left right rest fields same read fuel' enough
  obtain ⟨fuel', rfl⟩ := Nat.exists_eq_succ_of_ne_zero (show fuel' ≠ 0 by omega)
  obtain ⟨_, key, afterKey, behind, value, after, rfl, keyRead, colon, valueRead, onward⟩ :=
    readFields_eq_ok_iff.1 read
  obtain ⟨inner, rfl, innerSame⟩ := same.cons (by decide)
  rw [List.length_cons] at enough ⊢
  obtain ⟨afterKey', keyRead', keySame, keyShorter⟩ := innerSame.readString keyRead ('"' :: inner)
    (show inner.length ≤ fuel' by omega)
  obtain ⟨behind', colon', behindSame, colonBehind⟩ := keySame.behind_skipBlanks (by decide) colon
  have between := length_skipBlanks_le behind'
  obtain ⟨after', valueRead', afterSame, shorter⟩ := ofValue behindSame.skipBlanks valueRead fuel'
    (by omega)
  rcases onward with ⟨closes, rfl⟩ | ⟨next, others, goesOn, othersRead, rfl⟩
  · obtain ⟨rest', closes', restSame, last⟩ := afterSame.behind_skipBlanks (by decide) closes
    refine ⟨rest', readFields_eq_ok_iff.2 ?_, restSame, by omega⟩
    exact ⟨inner, key, afterKey', behind', value, after', rfl, keyRead', colon', valueRead',
      .inl ⟨closes', rfl⟩⟩
  · obtain ⟨next', goesOn', nextSame, last⟩ := afterSame.behind_skipBlanks (by decide) goesOn
    have skipped := length_skipBlanks_le next'
    obtain ⟨rest', othersRead', restSame, further⟩ := ofFields nextSame.skipBlanks othersRead fuel'
      (by omega)
    refine ⟨rest', readFields_eq_ok_iff.2 ?_, restSame, by omega⟩
    exact ⟨inner, key, afterKey', behind', value, after', rfl, keyRead', colon', valueRead',
      .inr ⟨next', others, goesOn', othersRead', rfl⟩⟩

/-- The three readers of values read alike. -/
private theorem readsAlike (fuel : Nat) :
    ReadsAlike readValue 1 fuel ∧ ReadsAlike readItems 2 fuel ∧ ReadsAlike readFields 2 fuel := by
  induction fuel with
  | zero =>
    refine ⟨?_, ?_, ?_⟩
    · intro left right rest value _ read
      unfold readValue at read
      cases read
    · intro left right rest items _ read
      unfold readItems at read
      cases read
    · intro left right rest fields _ read
      unfold readFields at read
      cases read
  | succ fuel below =>
    obtain ⟨ofValue, ofItems, ofFields⟩ := below
    exact ⟨readsAlike_readValue ofItems ofFields, readsAlike_readItems ofValue ofItems,
      readsAlike_readFields ofValue ofFields⟩

end

/-! ## Whole texts -/

theorem readAll_of_sameLines {left right : List Char} (same : SameLines left right) {value : Value}
    (read : readAll left = .ok value) : readAll right = .ok value := by
  obtain ⟨noMark, rest, valueRead, nothing⟩ := readAll_eq_ok_iff.1 read
  have skipped := length_skipBlanks_le right
  obtain ⟨rest', valueRead', restSame, _⟩ := (readsAlike _).1 same.skipBlanks valueRead
    (2 * right.length + 2) (by omega)
  have nothing' := restSame.skipBlanks.eq_nil_iff.1 nothing
  exact readAll_eq_ok_iff.2 ⟨same.ne_cons (by decide) noMark, rest', valueRead', nothing'⟩

/-- Folding the line ends of a text changes neither whether it is read nor what is read. -/
theorem read_foldLineEnds (text : String) (value : Value) :
    read (String.ofList (Text.foldLineEnds text.toList)) = .ok value ↔ read text = .ok value := by
  have same := SameLines.foldLineEnds text.toList
  rw [read_eq_ok_iff, read_eq_ok_iff, String.toList_ofList]
  exact ⟨readAll_of_sameLines same.symm, readAll_of_sameLines same⟩

end NodeFlow.Json
