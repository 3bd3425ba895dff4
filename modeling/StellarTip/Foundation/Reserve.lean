import Mathlib.Algebra.Order.BigOperators.Group.List
import Mathlib.Algebra.Order.Ring.Int
import Mathlib.Tactic.Linarith

/-!
# First come, first served

A reserve from which a queue of needs is served in order. A need within what is left is served and takes
its amount; any other one is turned away and takes nothing.
-/

namespace StellarTip.Foundation

/-- For each need, in order, whether it is served. -/
def serve (reserve : ℤ) : List ℤ → List Bool
  | [] => []
  | need :: needs =>
      if need ≤ reserve then true :: serve (reserve - need) needs else false :: serve reserve needs

variable {reserve need : ℤ} {needs : List ℤ}

theorem serve_cons_of_le (h : need ≤ reserve) :
    serve reserve (need :: needs) = true :: serve (reserve - need) needs := if_pos h

theorem serve_cons_of_lt (h : reserve < need) :
    serve reserve (need :: needs) = false :: serve reserve needs := if_neg (not_le.mpr h)

/-- Everybody is served exactly when the reserve covers all. -/
theorem serve_eq_true_iff (hneeds : ∀ need ∈ needs, 0 ≤ need) (hreserve : 0 ≤ reserve) :
    (∀ served ∈ serve reserve needs, served = true) ↔ needs.sum ≤ reserve := by
  induction needs generalizing reserve with
  | nil => simpa [serve] using hreserve
  | cons need needs ih =>
    have hrest : ∀ other ∈ needs, 0 ≤ other := fun other hmem ↦
      hneeds other (List.mem_cons_of_mem _ hmem)
    have hsum : 0 ≤ needs.sum := List.sum_nonneg hrest
    rw [List.sum_cons]
    by_cases hle : need ≤ reserve
    · rw [serve_cons_of_le hle, List.forall_mem_cons, ih hrest (sub_nonneg.mpr hle)]
      constructor
      · rintro ⟨-, h⟩
        linarith
      · intro h
        exact ⟨rfl, by linarith⟩
    · rw [serve_cons_of_lt (not_le.mp hle), List.forall_mem_cons]
      constructor
      · rintro ⟨h, -⟩
        cases h
      · intro h
        exact absurd (by linarith) hle

end StellarTip.Foundation
