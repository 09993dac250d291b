import NodeFlow.Proofs.Edit
import NodeFlow.Ident

/-!
# Numbers of identifiers

A generated identifier shows the number it was made from, so identifiers of different numbers
differ. Main statement: what is issued between two states of the counter is distinct, and differs
from everything that was issued before.
-/

namespace NodeFlow

theorem underscore_not_mem_of_writeInt {n : Int} {digits : List Char}
    (written : writeInt n = .ok digits) : '_' ∉ digits := by
  have absent : '_' ∉ Nat.toDigits 10 n.natAbs := Nat.underscore_not_in_toDigits
  unfold writeInt at written
  dsimp only at written
  split at written
  · cases written
  · split at written <;> cases written <;> simp [absent]

namespace IdSource

/-- The identifier that a label and a number make up. -/
def generated (label : String) (number : Nat) : String :=
  label ++ "_" ++ String.ofList (Nat.toDigits 10 number)

/-- The number in which a generated identifier ends. -/
def number (id : String) : Nat :=
  Nat.ofDigitChars 10 (numberPart id).toList 0

theorem toList_generated (label : String) (n : Nat) :
    (generated label n).toList = label.toList ++ '_' :: Nat.toDigits 10 n := by
  simp [generated]

theorem numberPart_generated (label : String) (n : Nat) :
    numberPart (generated label n) = String.ofList (Nat.toDigits 10 n) := by
  have digits : ∀ c ∈ (Nat.toDigits 10 n).reverse, (c != '_') = true := by
    intro c member
    have absent : '_' ∉ Nat.toDigits 10 n := Nat.underscore_not_in_toDigits
    have different : c ≠ '_' := fun same => absent (same ▸ List.mem_reverse.1 member)
    simpa using different
  have shape : (generated label n).toList.reverse =
      (Nat.toDigits 10 n).reverse ++ '_' :: label.toList.reverse := by
    rw [toList_generated]
    simp
  rw [numberPart, shape, List.takeWhile_append_of_pos digits]
  simp

@[simp] theorem number_generated (label : String) (n : Nat) : number (generated label n) = n := by
  rw [number, numberPart_generated, String.toList_ofList]
  exact Nat.ofDigitChars_ten_toDigits

theorem underscore_mem_generated (label : String) (n : Nat) :
    '_' ∈ (generated label n).toList := by
  simp [toList_generated]

theorem generated_ne_empty (label : String) (n : Nat) : generated label n ≠ "" := by
  intro same
  have mark := underscore_mem_generated label n
  rw [same] at mark
  simp at mark

theorem colon_not_mem_generated {label : String} (clean : ':' ∉ label.toList) (n : Nat) :
    ':' ∉ (generated label n).toList := by
  have digits : ':' ∉ Nat.toDigits 10 n := by
    intro member
    have digit := Nat.isDigit_of_mem_toDigits (by omega) (by omega) member
    exact absurd digit (by decide)
  simp [toList_generated, clean, digits]

/-! ## What the counter does -/

private theorem writeInt_natural (n : Nat) :
    writeInt (n : Int) =
      if 10 ^ digitLimit ≤ n then .error .digitsWritten else .ok (Nat.toDigits 10 n) := by
  have short := @Nat.length_toDigits_le_iff 10 n digitLimit (by decide) (by decide)
  have natural : ¬ (n : Int) < 0 := Int.not_lt.2 (Int.natCast_nonneg n)
  simp only [writeInt, Int.natAbs_natCast, if_neg natural]
  by_cases long : 10 ^ digitLimit ≤ n
  · rw [if_pos (Nat.not_le.1 fun fits => Nat.not_lt.2 long (short.1 fits)), if_pos long]
  · rw [if_neg (Nat.not_lt.2 (short.2 (Nat.not_le.1 long))), if_neg long]

/-- A fresh identifier has the next number, unless that is too long to be written; also a failure
uses the number up. -/
theorem fresh_cases (label : String) (before : IdSource) :
    (before.last + 1 < 10 ^ digitLimit ∧
      fresh label before = .ok (generated label (before.last + 1)) ⟨before.last + 1⟩) ∨
    (10 ^ digitLimit ≤ before.last + 1 ∧
      fresh label before = .error (.conversion .digitsWritten) ⟨before.last + 1⟩) := by
  have shape : fresh label before =
      Edit.convert ((writeInt (before.last + 1 : Nat)).map fun digits =>
        label ++ "_" ++ String.ofList digits) ⟨before.last + 1⟩ := rfl
  rw [shape, writeInt_natural]
  by_cases long : 10 ^ digitLimit ≤ before.last + 1
  · rw [if_pos long]
    exact .inr ⟨long, rfl⟩
  · rw [if_neg long]
    exact .inl ⟨Nat.not_le.1 long, rfl⟩

theorem fresh_of_short {before : IdSource} (label : String)
    (short : before.last + 1 < 10 ^ digitLimit) :
    fresh label before = .ok (generated label (before.last + 1)) ⟨before.last + 1⟩ := by
  rcases fresh_cases label before with ⟨_, issued⟩ | ⟨long, _⟩
  · exact issued
  · exact absurd short (Nat.not_lt.2 long)

/-- The identifier can be kept from being generated: the number in which it ends can be read. -/
def Reservable (id : String) : Prop :=
  ∃ number, numberOf? id = .ok number

/-- Reserving an identifier moves the counter to its number, if that is further on. -/
theorem reserve_cases (id : String) (before : IdSource) :
    (∃ number, numberOf? id = .ok number ∧
      reserve id before = .ok () ⟨max before.last (number.getD 0)⟩) ∨
    (¬ Reservable id ∧ ∃ cause, reserve id before = .error (.conversion cause) before) := by
  have shape : reserve id before =
      (Edit.convert (numberOf? id) >>= fun number => modify fun ids =>
        ⟨max ids.last (number.getD 0)⟩) before := rfl
  rw [shape]
  cases read : numberOf? id with
  | ok number => exact .inl ⟨number, rfl, rfl⟩
  | error cause =>
    refine .inr ⟨?_, cause, rfl⟩
    rintro ⟨number, reservable⟩
    rw [read] at reservable
    cases reservable

section

variable {before : IdSource} {fault : IdSource → Prop}

theorem ends_fresh {label : String} {post : String → IdSource → Prop}
    (issued : before.last + 1 < 10 ^ digitLimit →
      post (generated label (before.last + 1)) ⟨before.last + 1⟩)
    (failed : 10 ^ digitLimit ≤ before.last + 1 → fault ⟨before.last + 1⟩) :
    Edit.Ends (fresh label) post fault before := by
  unfold Edit.Ends
  rcases fresh_cases label before with ⟨short, outcome⟩ | ⟨long, outcome⟩
  · rw [outcome]
    exact issued short
  · rw [outcome]
    exact failed long

/-- Reserving an identifier never takes the counter back. -/
theorem ends_reserve {id : String} {post : Unit → IdSource → Prop}
    (reserved : Reservable id → ∀ ids, before.last ≤ ids.last → post () ids)
    (failed : ¬ Reservable id → fault before) :
    Edit.Ends (reserve id) post fault before := by
  unfold Edit.Ends
  rcases reserve_cases id before with ⟨number, read, outcome⟩ | ⟨unread, cause, outcome⟩
  · rw [outcome]
    exact reserved ⟨number, read⟩ _ (Nat.le_max_left _ _)
  · rw [outcome]
    exact failed unread

end

/-! ## Identifiers issued in a row -/

/-- The identifiers have ascending numbers above `low` and up to `high`. -/
structure Issued (low high : Nat) (ids : List String) : Prop where
  ascending : (ids.map number).Pairwise (· < ·)
  above : ∀ id ∈ ids, low < number id
  upTo : ∀ id ∈ ids, number id ≤ high

namespace Issued

variable {low middle high : Nat} {first second ids : List String}

theorem nil (low high : Nat) : Issued low high [] :=
  ⟨List.Pairwise.nil, by simp, by simp⟩

theorem single (label : String) (low : Nat) : Issued low (low + 1) [generated label (low + 1)] :=
  ⟨by simp, by simp, by simp⟩

theorem append (left : Issued low middle first) (right : Issued middle high second)
    (forward : low ≤ middle) (onward : middle ≤ high) : Issued low high (first ++ second) where
  ascending := by
    rw [List.map_append, List.pairwise_append]
    refine ⟨left.ascending, right.ascending, ?_⟩
    intro a inFirst b inSecond
    obtain ⟨early, earlyMember, rfl⟩ := List.mem_map.1 inFirst
    obtain ⟨late, lateMember, rfl⟩ := List.mem_map.1 inSecond
    have upper := left.upTo early earlyMember
    have lower := right.above late lateMember
    omega
  above := by
    intro id member
    rcases List.mem_append.1 member with inFirst | inSecond
    · exact left.above id inFirst
    · have lower := right.above id inSecond
      omega
  upTo := by
    intro id member
    rcases List.mem_append.1 member with inFirst | inSecond
    · have upper := left.upTo id inFirst
      omega
    · exact right.upTo id inSecond

theorem nodup (issued : Issued low high ids) : ids.Nodup := by
  have numbers := List.pairwise_map.1 issued.ascending
  exact numbers.imp fun less same => Nat.ne_of_lt less (congrArg number same)

/-- What is issued later differs from everything that was in use. -/
theorem nodup_append {used : List String} (issued : Issued low high ids) (distinct : used.Nodup)
    (bounded : ∀ id ∈ used, number id ≤ low) : (ids ++ used).Nodup := by
  rw [List.nodup_append]
  refine ⟨issued.nodup, distinct, ?_⟩
  intro new inIds old inUsed same
  have lower := issued.above new inIds
  have upper := bounded old inUsed
  rw [same] at lower
  omega

end Issued

end IdSource

end NodeFlow
