import Mathlib.Data.List.Sort

/-!
# Sorted key sets

A finite set kept as its strictly increasing list of keys, so that enumeration is deterministic and
two sets with the same members are equal. This is the shape of a host map whose values carry no
information.
-/

namespace StellarTip.Foundation

/-- A finite set of keys with its increasing enumeration. -/
structure SortedSet (α : Type*) [LinearOrder α] where
  keys : List α
  sorted : keys.SortedLT

namespace SortedSet

variable {α : Type*} [LinearOrder α]

instance : Membership α (SortedSet α) := ⟨fun set key ↦ key ∈ set.keys⟩

instance (key : α) (set : SortedSet α) : Decidable (key ∈ set) :=
  inferInstanceAs (Decidable (key ∈ set.keys))

theorem nodup_keys (set : SortedSet α) : set.keys.Nodup := set.sorted.nodup

/-- Two sets with the same members are equal. -/
@[ext]
theorem ext {left right : SortedSet α} (h : ∀ key, key ∈ left ↔ key ∈ right) : left = right := by
  have hkeys : left.keys = right.keys := left.sorted.eq_of_mem_iff right.sorted h
  cases left
  cases right
  simpa using hkeys

def empty : SortedSet α := ⟨[], List.Pairwise.nil.sortedLT⟩

def isEmpty (set : SortedSet α) : Bool := set.keys.isEmpty

@[simp]
theorem not_mem_empty (key : α) : key ∉ (empty : SortedSet α) := List.not_mem_nil

theorem isEmpty_iff {set : SortedSet α} : set.isEmpty = true ↔ ∀ key, key ∉ set := by
  rw [isEmpty, List.isEmpty_iff, List.eq_nil_iff_forall_not_mem]
  rfl

/-- Insertion of a key into an increasing list; a key that is present is left in place. -/
def insertKey (key : α) : List α → List α
  | [] => [key]
  | head :: tail =>
      if key < head then key :: head :: tail
      else if head < key then head :: insertKey key tail
      else head :: tail

theorem mem_insertKey {key other : α} {keys : List α} :
    other ∈ insertKey key keys ↔ other = key ∨ other ∈ keys := by
  induction keys with
  | nil => simp [insertKey]
  | cons head tail ih =>
    unfold insertKey
    split
    · simp
    · rename_i hlt
      split
      · simp only [List.mem_cons, ih]
        tauto
      · rename_i hgt
        have heq : key = head := le_antisymm (not_lt.mp hgt) (not_lt.mp hlt)
        simp [heq]

theorem pairwise_insertKey {key : α} {keys : List α} (h : keys.Pairwise (· < ·)) :
    (insertKey key keys).Pairwise (· < ·) := by
  induction keys with
  | nil => simp [insertKey]
  | cons head tail ih =>
    obtain ⟨hhead, htail⟩ := List.pairwise_cons.mp h
    unfold insertKey
    split
    · rename_i hlt
      refine List.pairwise_cons.mpr ⟨fun other hother ↦ ?_, h⟩
      rcases List.mem_cons.mp hother with rfl | hother
      · exact hlt
      · exact hlt.trans (hhead other hother)
    · split
      · rename_i hgt
        refine List.pairwise_cons.mpr ⟨fun other hother ↦ ?_, ih htail⟩
        rcases mem_insertKey.mp hother with rfl | hother
        · exact hgt
        · exact hhead other hother
      · exact h

def insert (set : SortedSet α) (key : α) : SortedSet α :=
  ⟨insertKey key set.keys, (pairwise_insertKey set.sorted.pairwise).sortedLT⟩

def remove (set : SortedSet α) (key : α) : SortedSet α :=
  ⟨set.keys.erase key, (set.sorted.pairwise.sublist List.erase_sublist).sortedLT⟩

@[simp]
theorem mem_insert {set : SortedSet α} {key other : α} :
    other ∈ set.insert key ↔ other = key ∨ other ∈ set := mem_insertKey

@[simp]
theorem mem_remove {set : SortedSet α} {key other : α} :
    other ∈ set.remove key ↔ other ≠ key ∧ other ∈ set := set.nodup_keys.mem_erase_iff

theorem insert_of_mem {set : SortedSet α} {key : α} (h : key ∈ set) : set.insert key = set := by
  ext other
  rw [mem_insert]
  constructor
  · rintro (rfl | hother)
    · exact h
    · exact hother
  · exact Or.inr

end SortedSet

end StellarTip.Foundation
