/-!
# Keyed entries

Entries under distinct keys, in the order in which the keys were first written. Main statements:
writing an entry makes it the one that is found under its key and leaves the others alone, and a
new key goes behind the others.
-/

namespace NodeFlow

/-- Entries under text keys, in order. -/
abbrev Keyed (α : Type) := List (String × α)

namespace Keyed

variable {α : Type}

/-- The entry under a key. -/
def get? (key : String) : Keyed α → Option α
  | [] => none
  | (k, entry) :: rest => if k = key then some entry else get? key rest

/-- Writes an entry: a present key keeps its place, a new one goes to the end. -/
def set (key : String) (entry : α) : Keyed α → Keyed α
  | [] => [(key, entry)]
  | (k, e) :: rest => if k = key then (k, entry) :: rest else (k, e) :: set key entry rest

theorem mem_of_get? {entries : Keyed α} {key : String} {entry : α}
    (found : entries.get? key = some entry) : (key, entry) ∈ entries := by
  induction entries with
  | nil => cases found
  | cons head rest ih =>
    unfold get? at found
    split at found
    · rename_i same
      cases found
      cases same
      exact List.mem_cons_self
    · exact List.mem_cons_of_mem _ (ih found)

/-- Every entry is found if no key comes twice. -/
theorem get?_of_mem {entries : Keyed α} (distinct : (entries.map (·.1)).Nodup)
    {entry : String × α} (member : entry ∈ entries) : entries.get? entry.1 = some entry.2 := by
  induction entries with
  | nil => cases member
  | cons head rest ih =>
    obtain ⟨absent, others⟩ := List.nodup_cons.1 distinct
    rcases List.mem_cons.1 member with rfl | later
    · exact if_pos rfl
    · have other : head.1 ≠ entry.1 := fun same => absent (List.mem_map.2 ⟨entry, later, same.symm⟩)
      exact (if_neg other).trans (ih others later)

theorem get?_single {name key : String} {entry found : α} :
    get? key [(name, entry)] = some found ↔ name = key ∧ entry = found := by
  by_cases same : name = key <;> simp [get?, same]

theorem get?_set_self (entries : Keyed α) (key : String) (entry : α) :
    (entries.set key entry).get? key = some entry := by
  induction entries with
  | nil => simp [set, get?]
  | cons head rest ih =>
    by_cases same : head.1 = key
    · simp [set, get?, same]
    · simpa [set, get?, same] using ih

theorem get?_set_of_ne (entries : Keyed α) {key other : String} (entry : α) (h : other ≠ key) :
    (entries.set key entry).get? other = entries.get? other := by
  induction entries with
  | nil => simp [set, get?, Ne.symm h]
  | cons head rest ih =>
    by_cases same : head.1 = key
    · simp [set, get?, same, Ne.symm h]
    · simp only [set, same, if_false, get?, ih]

/-- To write an entry that is there already changes nothing. -/
theorem set_of_get? {entries : Keyed α} {key : String} {entry : α}
    (found : entries.get? key = some entry) : entries.set key entry = entries := by
  induction entries with
  | nil => cases found
  | cons head rest ih =>
    obtain ⟨k, e⟩ := head
    by_cases same : k = key
    · simp only [get?, if_pos same, Option.some.injEq] at found
      simp only [set, if_pos same, found]
    · simp only [get?, if_neg same] at found
      simp only [set, if_neg same, ih found]

theorem keys_set (entries : Keyed α) (key : String) (entry : α) :
    (entries.set key entry).map (·.1) =
      if key ∈ entries.map (·.1) then entries.map (·.1) else entries.map (·.1) ++ [key] := by
  induction entries with
  | nil => simp [set]
  | cons head rest ih =>
    by_cases same : head.1 = key
    · simp [set, same]
    · simp only [set, same, if_false, List.map_cons, ih, List.mem_cons, Ne.symm same, false_or]
      split <;> rfl

theorem nodup_keys_set {entries : Keyed α} (distinct : (entries.map (·.1)).Nodup) (key : String)
    (entry : α) : ((entries.set key entry).map (·.1)).Nodup := by
  rw [keys_set]
  split
  · exact distinct
  · rename_i absent
    refine List.nodup_append.2 ⟨distinct, by simp, ?_⟩
    intro old inOld new inNew same
    rw [List.mem_singleton.1 inNew] at same
    exact absent (same ▸ inOld)

theorem mem_of_mem_set {entries : Keyed α} {key : String} {entry : α} {other : String × α}
    (member : other ∈ entries.set key entry) : other ∈ entries ∨ other.2 = entry := by
  induction entries with
  | nil => exact .inr (congrArg Prod.snd (List.mem_singleton.1 member))
  | cons head rest ih =>
    unfold set at member
    split at member
    · rcases List.mem_cons.1 member with rfl | later
      · exact .inr rfl
      · exact .inl (List.mem_cons_of_mem _ later)
    · rcases List.mem_cons.1 member with rfl | later
      · exact .inl List.mem_cons_self
      · rcases ih later with old | new
        · exact .inl (List.mem_cons_of_mem _ old)
        · exact .inr new

end Keyed

end NodeFlow
