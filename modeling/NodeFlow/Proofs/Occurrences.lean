import Mathlib.Data.List.Nodup

/-!
# First occurrences

The items of a list without repetitions, in the order in which they occur first. Main statement:
repetitions of items may be left out before their images are taken, or after it.
-/

namespace NodeFlow.Occurrences

variable {α β : Type} [BEq α]

/-- To look for first occurrences is to go on with the items that differ from the first one. -/
theorem induction {holds : List α → Prop} (nil : holds [])
    (cons : ∀ item rest, holds (rest.filter fun other => !other == item) → holds (item :: rest))
    (items : List α) : holds items := by
  induction size : items.length using Nat.strongRecOn generalizing items with
  | _ size ih =>
    cases items with
    | nil => exact nil
    | cons item rest =>
      have shorter := List.length_filter_le (fun other => !other == item) rest
      rw [List.length_cons] at size
      exact cons item rest (ih _ (by omega) _ rfl)

variable [LawfulBEq α]

theorem nodup_eraseDups (items : List α) : items.eraseDups.Nodup := by
  induction items using induction with
  | nil => exact List.nodup_nil
  | cons item rest ih =>
    rw [List.eraseDups_cons, List.nodup_cons]
    exact ⟨by simp [List.mem_eraseDups], ih⟩

theorem eraseDups_of_nodup {items : List α} (distinct : items.Nodup) : items.eraseDups = items := by
  induction items with
  | nil => rfl
  | cons item rest ih =>
    obtain ⟨absent, distinct⟩ := List.nodup_cons.1 distinct
    have apart : ∀ other ∈ rest, (!other == item) = true := by
      intro other member
      have differs : other ≠ item := fun same => absent (same ▸ member)
      simp [differs]
    rw [List.eraseDups_cons, List.filter_eq_self.2 apart, ih distinct]

/-- Items without an image may be left out. -/
theorem filterMap_filter_of_eq_none {image? : α → Option β} {item : α} (missing : image? item = none)
    (items : List α) : (items.filter fun other => !other == item).filterMap image? =
      items.filterMap image? := by
  rw [List.filterMap_filter]
  refine List.filterMap_congr fun other _ => ?_
  by_cases same : other = item
  · simp [same, missing]
  · simp [same]

/-- Repeated items have no images that did not occur before. -/
theorem eraseDups_filterMap [BEq β] [LawfulBEq β] (items : List α) (image? : α → Option β) :
    (items.eraseDups.filterMap image?).eraseDups = (items.filterMap image?).eraseDups := by
  induction items using induction generalizing image? with
  | nil => rfl
  | cons item rest ih =>
    rw [List.eraseDups_cons]
    cases found : image? item with
    | none =>
      rw [List.filterMap_cons_none found, List.filterMap_cons_none found, ih,
        filterMap_filter_of_eq_none found]
    | some image =>
      -- From now on the image of the first item counts as none.
      let other? := fun other => (image? other).filter fun later => !later == image
      have missing : other? item = none := by simp [other?, found]
      rw [List.filterMap_cons_some found, List.filterMap_cons_some found, List.eraseDups_cons,
        List.eraseDups_cons, List.filter_filterMap, List.filter_filterMap]
      rw [ih other?, filterMap_filter_of_eq_none missing]

end NodeFlow.Occurrences
