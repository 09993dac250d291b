import Mathlib.Data.List.Forall2

/-!
# Outcomes of conversions

What a chain of conversions that may fail has done if it did not fail. Main statement: a list is
converted item by item.
-/

namespace NodeFlow.Outcome

variable {ε α β : Type}

theorem bind_eq_ok {first : Except ε α} {next : α → Except ε β} {result : β} :
    (first >>= next) = .ok result ↔ ∃ value, first = .ok value ∧ next value = .ok result := by
  cases first <;> simp [bind, Except.bind]

theorem map_eq_ok {first : Except ε α} {view : α → β} {result : β} :
    first.map view = .ok result ↔ ∃ value, first = .ok value ∧ view value = result := by
  cases first <;> simp [Except.map]

/-- A list is converted to the results of its items. -/
theorem mapM_eq_ok {items : List α} {convert : α → Except ε β} {results : List β} :
    items.mapM convert = .ok results ↔
      List.Forall₂ (fun item result => convert item = .ok result) items results := by
  induction items generalizing results with
  | nil => cases results <;> simp [pure, Except.pure]
  | cons item items ih =>
    rw [List.mapM_cons, bind_eq_ok]
    constructor
    · intro done
      obtain ⟨result, first, done⟩ := done
      obtain ⟨others, rest, done⟩ := bind_eq_ok.1 done
      cases done
      exact .cons first (ih.1 rest)
    · intro each
      cases each with
      | cons first rest =>
        refine ⟨_, first, bind_eq_ok.2 ⟨_, ih.2 rest, rfl⟩⟩

/-- Every result comes from an item. -/
theorem exists_of_mapM {items : List α} {convert : α → Except ε β} {results : List β}
    (done : items.mapM convert = .ok results) {result : β} (member : result ∈ results) :
    ∃ item ∈ items, convert item = .ok result := by
  have each := mapM_eq_ok.1 done
  induction each with
  | nil => cases member
  | cons first rest ih =>
    rcases List.mem_cons.1 member with rfl | later
    · exact ⟨_, List.mem_cons_self, first⟩
    · obtain ⟨item, inItems, converted⟩ := ih (mapM_eq_ok.2 rest) later
      exact ⟨item, List.mem_cons_of_mem _ inItems, converted⟩

/-- What was encoded item by item is decoded item by item. -/
theorem mapM_map {γ : Type} {items : List α} {encode : α → β} {decode : β → Except ε γ}
    {result : α → γ} (each : ∀ item ∈ items, decode (encode item) = .ok (result item)) :
    (items.map encode).mapM decode = .ok (items.map result) := by
  apply mapM_eq_ok.2
  rw [List.forall₂_map_left_iff, List.forall₂_map_right_iff, List.forall₂_same]
  exact each

end NodeFlow.Outcome
