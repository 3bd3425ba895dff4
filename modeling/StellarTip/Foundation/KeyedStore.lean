import Mathlib.Logic.Function.Basic

/-!
# Keyed stores

A store holds at most one value under each key, and the type of the value depends on the key. The
laws below say what a read returns after a write or a removal; a write under one key never changes
what another key holds.
-/

namespace StellarTip.Foundation

/-- At most one value under each key, of the type that the key prescribes. -/
def KeyedStore (κ : Type*) (ν : κ → Type*) := (key : κ) → Option (ν key)

namespace KeyedStore

variable {κ : Type*} {ν : κ → Type*}

def empty : KeyedStore κ ν := fun _ ↦ none

def get (store : KeyedStore κ ν) (key : κ) : Option (ν key) := store key

def has (store : KeyedStore κ ν) (key : κ) : Bool := (store.get key).isSome

variable [DecidableEq κ]

def set (store : KeyedStore κ ν) (key : κ) (value : ν key) : KeyedStore κ ν :=
  Function.update store key (some value)

def remove (store : KeyedStore κ ν) (key : κ) : KeyedStore κ ν :=
  Function.update store key none

omit [DecidableEq κ] in
@[ext]
theorem ext {left right : KeyedStore κ ν} (h : ∀ key, left.get key = right.get key) :
    left = right := funext h

omit [DecidableEq κ] in
@[simp]
theorem get_empty (key : κ) : (empty : KeyedStore κ ν).get key = none := rfl

@[simp]
theorem get_set_self (store : KeyedStore κ ν) (key : κ) (value : ν key) :
    (store.set key value).get key = some value :=
  Function.update_self (β := fun key ↦ Option (ν key)) key (some value) store

@[simp]
theorem get_set_of_ne (store : KeyedStore κ ν) {key other : κ} (h : other ≠ key) (value : ν key) :
    (store.set key value).get other = store.get other :=
  Function.update_of_ne (β := fun key ↦ Option (ν key)) h (some value) store

@[simp]
theorem get_remove_self (store : KeyedStore κ ν) (key : κ) : (store.remove key).get key = none :=
  Function.update_self (β := fun key ↦ Option (ν key)) key none store

@[simp]
theorem get_remove_of_ne (store : KeyedStore κ ν) {key other : κ} (h : other ≠ key) :
    (store.remove key).get other = store.get other :=
  Function.update_of_ne (β := fun key ↦ Option (ν key)) h none store

omit [DecidableEq κ] in
theorem has_iff {store : KeyedStore κ ν} {key : κ} :
    store.has key = true ↔ ∃ value, store.get key = some value := Option.isSome_iff_exists

omit [DecidableEq κ] in
theorem not_has_iff {store : KeyedStore κ ν} {key : κ} :
    ¬store.has key = true ↔ store.get key = none := by
  simp [has]

omit [DecidableEq κ] in
/-- Two stored values that read the same under a default are the same. -/
theorem get_eq_of_getD_eq {store store' : KeyedStore κ ν} {key : κ} {default : ν key}
    (hhas : store.has key = true) (hhas' : store'.has key = true)
    (h : (store.get key).getD default = (store'.get key).getD default) :
    store.get key = store'.get key := by
  obtain ⟨value, hvalue⟩ := has_iff.mp hhas
  obtain ⟨value', hvalue'⟩ := has_iff.mp hhas'
  rw [hvalue, hvalue'] at h ⊢
  exact congrArg some h

/-- Only the last write under a key counts. -/
@[simp]
theorem set_set (store : KeyedStore κ ν) (key : κ) (value value' : ν key) :
    (store.set key value).set key value' = store.set key value' :=
  Function.update_idem (β := fun key ↦ Option (ν key)) (some value) (some value') store

@[simp]
theorem remove_set (store : KeyedStore κ ν) (key : κ) (value : ν key) :
    (store.set key value).remove key = store.remove key :=
  Function.update_idem (β := fun key ↦ Option (ν key)) (some value) none store

@[simp]
theorem has_set_self (store : KeyedStore κ ν) (key : κ) (value : ν key) :
    (store.set key value).has key = true := by
  simp [has]

@[simp]
theorem has_set_of_ne (store : KeyedStore κ ν) {key other : κ} (h : other ≠ key) (value : ν key) :
    (store.set key value).has other = store.has other := by
  simp [has, h]

@[simp]
theorem has_remove_self (store : KeyedStore κ ν) (key : κ) : (store.remove key).has key = false := by
  simp [has]

@[simp]
theorem has_remove_of_ne (store : KeyedStore κ ν) {key other : κ} (h : other ≠ key) :
    (store.remove key).has other = store.has other := by
  simp [has, h]

/-- Writing the value that is already stored changes nothing. -/
theorem set_eq_self {store : KeyedStore κ ν} {key : κ} {value : ν key}
    (h : store.get key = some value) : store.set key value = store := by
  ext other
  by_cases hother : other = key
  · subst hother
    rw [get_set_self, h]
  · rw [get_set_of_ne store hother]

/-- Removing under a key that holds nothing changes nothing. -/
theorem remove_eq_self {store : KeyedStore κ ν} {key : κ} (h : store.get key = none) :
    store.remove key = store := by
  ext other
  by_cases hother : other = key
  · subst hother
    rw [get_remove_self, h]
  · rw [get_remove_of_ne store hother]

end KeyedStore

end StellarTip.Foundation
