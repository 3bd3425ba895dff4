import Mathlib.Algebra.BigOperators.Finprod

/-!
# Totals over unbounded index types

A quantity recorded for every index of an unbounded type has a total as soon as all but finitely
many entries vanish. An update of one entry keeps that property and moves the total by the change
of the entry, whatever the index type. A move from one entry to another, or to itself, keeps the
total.
-/

open scoped BigOperators

namespace StellarTip.Foundation

variable {α M : Type*} [AddCommGroup M] {f g : α → M} {a : α}

/-- Changing one entry keeps the support finite. -/
theorem hasFiniteSupport_of_eq_off (hf : f.HasFiniteSupport) (h : ∀ x, x ≠ a → g x = f x) :
    g.HasFiniteSupport := by
  refine (Set.Finite.insert a hf).subset fun x hx ↦ ?_
  by_cases hxa : x = a
  · exact Set.mem_insert_iff.mpr (.inl hxa)
  · rw [Function.mem_support, h x hxa] at hx
    exact Set.mem_insert_of_mem a hx

/-- Changing one entry moves the total by the change of that entry. -/
theorem finsum_eq_of_eq_off (hf : f.HasFiniteSupport) (h : ∀ x, x ≠ a → g x = f x) :
    ∑ᶠ x, g x = ∑ᶠ x, f x + (g a - f a) := by
  have hsingle : ∑ᶠ x, (g x - f x) = g a - f a :=
    finsum_eq_single _ a fun x hx ↦ by rw [h x hx, sub_self]
  have hdiff := finsum_sub_distrib (hasFiniteSupport_of_eq_off hf h) hf
  rw [hsingle] at hdiff
  rw [hdiff, add_sub_cancel]

/-- Moving an amount between two entries, equal or not, keeps the total. -/
theorem finsum_eq_of_moved [DecidableEq α] (hf : f.HasFiniteSupport) {source target : α} {amount : M}
    (h : ∀ x, g x = f x + ((if x = target then amount else 0) - if x = source then amount else 0)) :
    g.HasFiniteSupport ∧ ∑ᶠ x, g x = ∑ᶠ x, f x := by
  let received : α → M := fun x ↦ f x + if x = target then amount else 0
  have hreceived (x : α) (hx : x ≠ target) : received x = f x := by simp [received, hx]
  have hsent (x : α) (hx : x ≠ source) : g x = received x := by simp [received, h, hx]
  have hfinite := hasFiniteSupport_of_eq_off hf hreceived
  have htarget : received target - f target = amount := by simp [received]
  have hsource : g source - received source = -amount := by
    rw [h, if_pos rfl, ← add_sub_assoc, sub_sub_cancel_left]
  refine ⟨hasFiniteSupport_of_eq_off hfinite hsent, ?_⟩
  calc
    _ = ∑ᶠ x, received x + (g source - received source) := finsum_eq_of_eq_off hfinite hsent
    _ = ∑ᶠ x, f x + (received target - f target) + (g source - received source) := by
      rw [finsum_eq_of_eq_off hf hreceived]
    _ = _ := by rw [htarget, hsource, add_neg_cancel_right]

end StellarTip.Foundation
