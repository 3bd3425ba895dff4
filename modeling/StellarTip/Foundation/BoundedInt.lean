import Mathlib.Order.Lattice
import Mathlib.Order.Basic
import Mathlib.Data.Int.Order.Basic
import Mathlib.Data.List.Range

/-!
# Fixed-width integers with checked arithmetic

A machine integer is an integer together with the proof that it lies between two fixed bounds, so
one type serves every signed and unsigned width. Arithmetic is checked: an operation whose exact
result leaves the range has no value. Each operation is specified through the exact integers, and
looking up a half-open range of indices in a list reads a slice of the list.
-/

namespace StellarTip.Foundation

/-- An integer between `lo` and `hi`, both included. -/
structure BoundedInt (lo hi : ℤ) where
  val : ℤ
  lo_le : lo ≤ val
  le_hi : val ≤ hi
  deriving DecidableEq

namespace BoundedInt

variable {lo hi : ℤ}

@[ext]
theorem ext {a b : BoundedInt lo hi} (h : a.val = b.val) : a = b := by
  cases a
  cases b
  simpa using h

theorem val_injective : Function.Injective (val : BoundedInt lo hi → ℤ) := fun _ _ ↦ ext

instance : LinearOrder (BoundedInt lo hi) := LinearOrder.lift' val val_injective

theorem le_def {a b : BoundedInt lo hi} : a ≤ b ↔ a.val ≤ b.val := Iff.rfl

theorem lt_def {a b : BoundedInt lo hi} : a < b ↔ a.val < b.val := Iff.rfl

theorem val_min (a b : BoundedInt lo hi) : (min a b).val = min a.val b.val := by
  rcases le_total a b with h | h
  · rw [min_eq_left h, min_eq_left (le_def.mp h)]
  · rw [min_eq_right h, min_eq_right (le_def.mp h)]

/-- The bounded integer with a given value, when that value is in range. -/
def ofInt? (value : ℤ) : Option (BoundedInt lo hi) :=
  if h : lo ≤ value ∧ value ≤ hi then some ⟨value, h.1, h.2⟩ else none

theorem ofInt?_eq_some_iff {value : ℤ} {result : BoundedInt lo hi} :
    ofInt? value = some result ↔ result.val = value := by
  unfold ofInt?
  constructor
  · intro h
    split at h
    · cases h
      rfl
    · cases h
  · rintro rfl
    rw [dif_pos ⟨result.lo_le, result.le_hi⟩]

theorem ofInt?_eq_none_iff {value : ℤ} :
    (ofInt? value : Option (BoundedInt lo hi)) = none ↔ value < lo ∨ hi < value := by
  unfold ofInt?
  split
  · rename_i h
    simp only [reduceCtorEq, false_iff]
    omega
  · rename_i h
    simp only [true_iff]
    omega

theorem exists_ofInt? {value : ℤ} (hlo : lo ≤ value) (hhi : value ≤ hi) :
    ∃ result : BoundedInt lo hi, ofInt? value = some result ∧ result.val = value :=
  ⟨⟨value, hlo, hhi⟩, ofInt?_eq_some_iff.mpr rfl, rfl⟩

def checkedAdd (a b : BoundedInt lo hi) : Option (BoundedInt lo hi) := ofInt? (a.val + b.val)

def checkedSub (a b : BoundedInt lo hi) : Option (BoundedInt lo hi) := ofInt? (a.val - b.val)

def checkedMul (a b : BoundedInt lo hi) : Option (BoundedInt lo hi) := ofInt? (a.val * b.val)

/-- Division rounds towards zero and has no value at a zero divisor. -/
def checkedDiv (a b : BoundedInt lo hi) : Option (BoundedInt lo hi) :=
  if b.val = 0 then none else ofInt? (a.val.tdiv b.val)

theorem checkedAdd_eq_some_iff {a b c : BoundedInt lo hi} :
    a.checkedAdd b = some c ↔ c.val = a.val + b.val := ofInt?_eq_some_iff

theorem checkedSub_eq_some_iff {a b c : BoundedInt lo hi} :
    a.checkedSub b = some c ↔ c.val = a.val - b.val := ofInt?_eq_some_iff

theorem checkedMul_eq_some_iff {a b c : BoundedInt lo hi} :
    a.checkedMul b = some c ↔ c.val = a.val * b.val := ofInt?_eq_some_iff

theorem checkedDiv_eq_some_iff {a b c : BoundedInt lo hi} :
    a.checkedDiv b = some c ↔ b.val ≠ 0 ∧ c.val = a.val.tdiv b.val := by
  unfold checkedDiv
  split
  · rename_i h
    simp [h]
  · rename_i h
    simp [h, ofInt?_eq_some_iff]

theorem checkedAdd_eq_none_iff {a b : BoundedInt lo hi} :
    a.checkedAdd b = none ↔ ¬∃ c : BoundedInt lo hi, c.val = a.val + b.val := by
  simp only [← checkedAdd_eq_some_iff, Option.eq_none_iff_forall_ne_some, not_exists, ne_eq]

theorem checkedMul_eq_none_iff {a b : BoundedInt lo hi} :
    a.checkedMul b = none ↔ ¬∃ c : BoundedInt lo hi, c.val = a.val * b.val := by
  simp only [← checkedMul_eq_some_iff, Option.eq_none_iff_forall_ne_some, not_exists, ne_eq]

theorem checkedSub_eq_none_iff {a b : BoundedInt lo hi} :
    a.checkedSub b = none ↔ ¬∃ c : BoundedInt lo hi, c.val = a.val - b.val := by
  simp only [← checkedSub_eq_some_iff, Option.eq_none_iff_forall_ne_some, not_exists, ne_eq]

/-- A quotient by a positive divisor lies between the dividend and zero. -/
theorem checkedDiv_ne_none {a b : BoundedInt lo hi} (hlo : lo ≤ 0) (hhi : 0 ≤ hi) (hb : 0 < b.val) :
    a.checkedDiv b ≠ none := by
  have halo := a.lo_le
  have hahi := a.le_hi
  have habs := Int.natAbs_tdiv_le_natAbs a.val b.val
  have hnonneg : 0 ≤ a.val → 0 ≤ a.val.tdiv b.val := fun h ↦ Int.tdiv_nonneg h hb.le
  have hnonpos : 0 ≤ -a.val → 0 ≤ -a.val.tdiv b.val := fun h ↦ by
    rw [← Int.neg_tdiv]
    exact Int.tdiv_nonneg h hb.le
  rw [checkedDiv, if_neg hb.ne', Ne, ofInt?_eq_none_iff]
  omega

/-- Reinterpretation in a range that contains the original one. -/
def widen {lo' hi' : ℤ} (hlo : lo' ≤ lo) (hhi : hi ≤ hi') (a : BoundedInt lo hi) :
    BoundedInt lo' hi' where
  val := a.val
  lo_le := hlo.trans a.lo_le
  le_hi := a.le_hi.trans hhi

@[simp]
theorem val_widen {lo' hi' : ℤ} (hlo : lo' ≤ lo) (hhi : hi ≤ hi') (a : BoundedInt lo hi) :
    (a.widen hlo hhi).val = a.val := rfl

/-- The values from `start` up to, not including, `stop`, in increasing order. -/
def range (start stop : BoundedInt lo hi) : List (BoundedInt lo hi) :=
  (List.range (stop.val - start.val).toNat).filterMap fun offset : ℕ ↦
    ofInt? (start.val + offset)

theorem map_val_range (start stop : BoundedInt lo hi) :
    (range start stop).map val =
      (List.range (stop.val - start.val).toNat).map fun offset : ℕ ↦
        start.val + (offset : ℤ) := by
  rw [range, List.map_filterMap, ← List.filterMap_eq_map]
  apply List.filterMap_congr
  intro offset hoffset
  have hstop := stop.le_hi
  have hstart := start.lo_le
  rw [List.mem_range] at hoffset
  obtain ⟨result, hresult, hval⟩ : ∃ result : BoundedInt lo hi,
      ofInt? (start.val + offset) = some result ∧ result.val = start.val + offset :=
    exists_ofInt? (by omega) (by omega)
  simp [hresult, hval]

theorem range_eq_nil {start stop : BoundedInt lo hi} (h : stop ≤ start) : range start stop = [] := by
  have hzero : (stop.val - start.val).toNat = 0 := by
    have := le_def.mp h
    omega
  simp [range, hzero]

theorem range_eq_singleton {start stop : BoundedInt lo hi} (h : stop.val = start.val + 1) :
    range start stop = [start] := by
  apply List.map_injective_iff.mpr val_injective
  have hone : (stop.val - start.val).toNat = 1 := by omega
  rw [map_val_range, hone]
  simp

theorem length_range (start stop : BoundedInt lo hi) :
    (range start stop).length = (stop.val - start.val).toNat := by
  have hlength := congrArg List.length (map_val_range start stop)
  rwa [List.length_map, List.length_map, List.length_range] at hlength

theorem val_of_getElem?_range {start stop index : BoundedInt lo hi} {offset : ℕ}
    (h : (range start stop)[offset]? = some index) :
    offset < (stop.val - start.val).toNat ∧ index.val = start.val + offset := by
  have hval : ((range start stop).map val)[offset]? = some index.val := by
    rw [List.getElem?_map, h]
    rfl
  obtain ⟨hlt, heq⟩ := List.getElem?_eq_some_iff.mp h
  rw [length_range] at hlt
  rw [map_val_range, List.getElem?_map, List.getElem?_range hlt] at hval
  exact ⟨hlt, (Option.some.inj hval).symm⟩

/-- Where every index of a range is found, no lookup is dropped. -/
theorem map_some_filterMap_range {α : Type*} {lookup : BoundedInt lo hi → Option α}
    (start : BoundedInt lo hi) {stop : BoundedInt lo hi}
    (h : ∀ index, index < stop → lookup index ≠ none) :
    ((range start stop).filterMap lookup).map some = (range start stop).map lookup := by
  rw [List.map_filterMap_some_eq_filter_map_isSome, List.filter_eq_self]
  intro found hfound
  obtain ⟨index, hindex, rfl⟩ := List.mem_map.mp hfound
  obtain ⟨offset, hoffset⟩ := List.getElem?_of_mem hindex
  obtain ⟨hlt, hval⟩ := val_of_getElem?_range hoffset
  exact Option.isSome_iff_ne_none.mpr (h index (lt_def.mpr (by omega)))

/-- The first `count` indices look up the first `count` entries. -/
theorem filterMap_getElem?_range {α : Type*} (entries : List α) (count : ℕ) :
    (List.range count).filterMap (fun index ↦ entries[index]?) = entries.take count := by
  induction count with
  | zero => simp
  | succ count ih =>
    rw [List.range_succ, List.filterMap_append, ih, List.take_add_one]
    cases h : entries[count]? <;> simp [h]

/-- Looking up the indices of a range in a list reads one slice of the list. -/
theorem filterMap_range_eq_slice {α : Type*} {lookup : BoundedInt 0 hi → Option α}
    {entries : List α} {start stop : BoundedInt 0 hi}
    (hlookup : ∀ index, index < stop → lookup index = entries[index.val.toNat]?) :
    (range start stop).filterMap lookup =
      (entries.drop start.val.toNat).take (stop.val - start.val).toNat := by
  rw [range, List.filterMap_filterMap, ← filterMap_getElem?_range]
  apply List.filterMap_congr
  intro offset hoffset
  have hstop := stop.le_hi
  have hstart := start.lo_le
  rw [List.mem_range] at hoffset
  obtain ⟨index, hindex, hval⟩ : ∃ index : BoundedInt 0 hi,
      ofInt? (start.val + offset) = some index ∧ index.val = start.val + offset :=
    exists_ofInt? (by omega) (by omega)
  have hposition : index.val.toNat = start.val.toNat + offset := by omega
  rw [hindex, Option.bind_some, hlookup index (lt_def.mpr (by omega)), List.getElem?_drop,
    hposition]

end BoundedInt

/-! ## The widths of the contract's host -/

abbrev U32 := BoundedInt 0 4294967295

abbrev U64 := BoundedInt 0 18446744073709551615

abbrev I128 :=
  BoundedInt (-170141183460469231731687303715884105728) 170141183460469231731687303715884105727

instance : Zero U32 := ⟨⟨0, by decide, by decide⟩⟩

instance : Zero U64 := ⟨⟨0, by decide, by decide⟩⟩

instance : Zero I128 := ⟨⟨0, by decide, by decide⟩⟩

instance : One U32 := ⟨⟨1, by decide, by decide⟩⟩

instance : One U64 := ⟨⟨1, by decide, by decide⟩⟩

@[simp] theorem U32.val_zero : (0 : U32).val = 0 := rfl

@[simp] theorem U64.val_zero : (0 : U64).val = 0 := rfl

@[simp] theorem I128.val_zero : (0 : I128).val = 0 := rfl

@[simp] theorem U32.val_one : (1 : U32).val = 1 := rfl

@[simp] theorem U64.val_one : (1 : U64).val = 1 := rfl

/-- The cast `x as u64` of an unsigned 32-bit integer. -/
def U32.asU64 (a : U32) : U64 := a.widen (by decide) (by decide)

/-- The cast `x as i128` of an unsigned 32-bit integer. -/
def U32.asI128 (a : U32) : I128 := a.widen (by decide) (by decide)

@[simp] theorem U32.val_asU64 (a : U32) : (U32.asU64 a).val = a.val := rfl

@[simp] theorem U32.val_asI128 (a : U32) : (U32.asI128 a).val = a.val := rfl

end StellarTip.Foundation
