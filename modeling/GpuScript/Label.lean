namespace GpuScript

/-- An enumeration whose values have words. -/
class Labelled (Item : Type) where
  /-- All values in order. -/
  all : List Item
  /-- The word for a value. -/
  label : Item → String
  complete : ∀ item, item ∈ all
  distinct : (all.map label).Nodup

namespace Labelled

variable {Item : Type}

private theorem eq_of_label_eq {items : List Item} {word : Item → String}
    (distinct : (items.map word).Nodup) {left right : Item} (first : left ∈ items)
    (second : right ∈ items) (same : word left = word right) : left = right := by
  induction items with
  | nil => cases first
  | cons item rest tail =>
    rw [List.map_cons, List.nodup_cons] at distinct
    obtain ⟨fresh, distinct⟩ := distinct
    rcases List.mem_cons.mp first with rfl | leftLater <;>
      rcases List.mem_cons.mp second with rfl | rightLater
    · rfl
    · exact absurd (same ▸ List.mem_map_of_mem rightLater) fresh
    · exact absurd (same ▸ List.mem_map_of_mem leftLater) fresh
    · exact tail distinct leftLater rightLater

variable [Labelled Item]

/-- The value that a word stands for. -/
def ofLabel? (word : String) : Option Item := (all : List Item).find? (label · == word)

theorem label_injective {left right : Item} (same : label left = label right) : left = right :=
  eq_of_label_eq distinct (complete left) (complete right) same

theorem ofLabel?_label (item : Item) : ofLabel? (label item) = some item := by
  cases outcome : (ofLabel? (label item) : Option Item) with
  | none =>
    have differs := List.find?_eq_none.mp outcome item (complete item)
    simp at differs
  | some found =>
    have same := List.find?_some outcome
    exact congrArg some (label_injective (by simpa using same))

end Labelled

end GpuScript
