import NodeFlow.Proofs.Ident
import NodeFlow.Proofs.Numeral

/-!
# Identifiers that the counter has passed

An identifier is covered if the counter will never generate it again. What is generated is covered
from then on, and what is reserved is covered, whatever it looks like. Main statement: the next
identifier is covered by no state of the counter so far.
-/

namespace NodeFlow.IdSource

/-- The counter is past the identifier: if it looks generated, its number was in use. -/
def Covers (ids : IdSource) (id : String) : Prop :=
  ∀ label n, id = generated label n → n ≤ ids.last

variable {ids later before during after : IdSource} {id label : String}

theorem Covers.advance (covers : ids.Covers id) (forward : ids.last ≤ later.last) :
    later.Covers id :=
  fun label n same => Nat.le_trans (covers label n same) forward

theorem covers_generated_iff {n : Nat} : ids.Covers (generated label n) ↔ n ≤ ids.last := by
  constructor
  · intro covers
    exact covers label n rfl
  · intro bounded other m same
    have numbers := congrArg number same
    rw [number_generated, number_generated] at numbers
    exact numbers ▸ bounded

/-- The next identifier differs from everything that is covered. -/
theorem not_covers_next (ids : IdSource) (label : String) :
    ¬ ids.Covers (generated label (ids.last + 1)) := by
  rw [covers_generated_iff]
  omega

/-! ## Numbers that are read back -/

/-- A generated identifier ends in its number, unless that is too long to be read. -/
theorem numberOf?_generated (label : String) (n : Nat) :
    numberOf? (generated label n) =
      if digitLimit < (Nat.toDigits 10 n).length then
        .error (.digitsRead (Nat.toDigits 10 n).length)
      else .ok (some n) := by
  have digits := Digits.toDigits n
  have nonempty : Nat.toDigits 10 n ≠ [] := by simp
  have digitLike : ∀ c ∈ Nat.toDigits 10 n, Text.isDigitLike c = true := by
    intro c member
    rw [Text.isDigitLike, Text.isDecimalDigit_of_isDigit (digits c member), Bool.true_or]
  have looksNumbered : (!(numberPart (generated label n)).isEmpty &&
      (numberPart (generated label n)).toList.all Text.isDigitLike) = true := by
    rw [numberPart_generated, String.toList_ofList, List.all_eq_true.2 digitLike]
    simp
  rw [numberOf?, if_pos looksNumbered, numberPart_generated, readInteger_digits digits nonempty,
    Text.digitsValue_toDigits]
  split <;> rfl

theorem reservable_generated {n : Nat} (short : n < 10 ^ digitLimit) :
    Reservable (generated label n) := by
  have fits := (@Nat.length_toDigits_le_iff 10 n digitLimit (by decide) (by decide)).2 short
  exact ⟨some n, by rw [numberOf?_generated, if_neg (Nat.not_lt.2 fits)]⟩

/-! ## What the counter does -/

theorem covers_of_fresh (issued : fresh label before = .ok id after) :
    after.Covers id ∧ ¬ before.Covers id ∧ before.last ≤ after.last := by
  rcases fresh_cases label before with ⟨_, outcome⟩ | ⟨_, outcome⟩
  · rw [outcome] at issued
    cases issued
    exact ⟨covers_generated_iff.2 (Nat.le_refl _), not_covers_next before label, Nat.le_succ _⟩
  · rw [outcome] at issued
    cases issued

/-- What is reserved is never generated. -/
theorem covers_of_reserve (reserved : reserve id before = .ok () after) :
    after.Covers id ∧ before.last ≤ after.last := by
  rcases reserve_cases id before with ⟨found, read, outcome⟩ | ⟨_, cause, outcome⟩
  · rw [outcome] at reserved
    cases reserved
    refine ⟨?_, Nat.le_max_left _ _⟩
    rintro label n rfl
    rw [numberOf?_generated] at read
    split at read
    · cases read
    · cases read
      exact Nat.le_max_right _ _
  · rw [outcome] at reserved
    cases reserved

/-- Also a failure does not take the counter back. -/
theorem forward_fresh (label : String) (before : IdSource) :
    before.last ≤ (Edit.stateAfter (fresh label) before).last := by
  have ends : Edit.Ends (fresh label) (fun _ ids => before.last ≤ ids.last)
      (fun ids => before.last ≤ ids.last) before :=
    ends_fresh (fun _ => Nat.le_succ _) fun _ => Nat.le_succ _
  exact ends.whenOver

theorem forward_reserve (id : String) (before : IdSource) :
    before.last ≤ (Edit.stateAfter (reserve id) before).last := by
  have ends : Edit.Ends (reserve id) (fun _ ids => before.last ≤ ids.last)
      (fun ids => before.last ≤ ids.last) before :=
    ends_reserve (fun _ _ forward => forward) fun _ => Nat.le_refl _
  exact ends.whenOver

/-! ## Between two states of the counter -/

/-- From one state of the counter to another the identifiers are generated, in this order. -/
structure Advances (before : IdSource) (ids : List String) (after : IdSource) : Prop where
  forward : before.last ≤ after.last
  issued : Issued before.last after.last ids
  generates : ∀ id ∈ ids, ∃ label n, id = generated label n

namespace Advances

variable {ids more : List String}

theorem silent (forward : before.last ≤ after.last) : before.Advances [] after :=
  ⟨forward, .nil _ _, by simp⟩

theorem single (issued : fresh label before = .ok id after) : before.Advances [id] after := by
  rcases fresh_cases label before with ⟨_, outcome⟩ | ⟨_, outcome⟩ <;>
    rw [outcome] at issued <;> cases issued
  exact ⟨Nat.le_succ _, .single label before.last, by simp⟩

theorem append (first : before.Advances ids during) (second : during.Advances more after) :
    before.Advances (ids ++ more) after where
  forward := Nat.le_trans first.forward second.forward
  issued := first.issued.append second.issued first.forward second.forward
  generates id member := (List.mem_append.1 member).elim (first.generates id) (second.generates id)

/-- What is generated was not covered before. -/
theorem not_covers (advances : before.Advances ids after) (member : id ∈ ids) :
    ¬ before.Covers id := by
  obtain ⟨label, n, rfl⟩ := advances.generates id member
  have above := advances.issued.above _ member
  rw [number_generated] at above
  rw [covers_generated_iff]
  omega

end Advances

end NodeFlow.IdSource
