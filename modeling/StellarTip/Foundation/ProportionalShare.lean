import Mathlib.Algebra.Order.BigOperators.Group.List
import Mathlib.Algebra.Order.Group.Unbundled.Int
import Mathlib.Algebra.Order.Ring.Int

/-!
# Proportional shares

The share of an amount at a rate over a scale, truncated to an integer. At rates up to the scale the
share lies between zero and the amount, and it exhausts a positive amount only at the full rate. Both
the share and what it leaves grow with the amount. Taking the share of each part of an amount never
gives more than the share of the whole, and loses less than one unit for each part.
-/

namespace StellarTip.Foundation

/-- The truncated share of `amount` at `rate` over `scale`. -/
def proportionalShare (scale amount rate : ℤ) : ℤ := (amount * rate).tdiv scale

section Bounds

variable {scale amount rate : ℤ}

theorem proportionalShare_eq_ediv (hamount : 0 ≤ amount) (hrate : 0 ≤ rate) :
    proportionalShare scale amount rate = amount * rate / scale :=
  Int.tdiv_eq_ediv_of_nonneg (mul_nonneg hamount hrate)

theorem proportionalShare_nonneg (hscale : 0 < scale) (hamount : 0 ≤ amount) (hrate : 0 ≤ rate) :
    0 ≤ proportionalShare scale amount rate := by
  rw [proportionalShare_eq_ediv hamount hrate]
  exact Int.ediv_nonneg (mul_nonneg hamount hrate) hscale.le

theorem proportionalShare_le (hscale : 0 < scale) (hamount : 0 ≤ amount) (hrate : 0 ≤ rate)
    (hfull : rate ≤ scale) : proportionalShare scale amount rate ≤ amount := by
  rw [proportionalShare_eq_ediv hamount hrate]
  exact Int.ediv_le_of_le_mul hscale (mul_le_mul_of_nonneg_left hfull hamount)

/-- Only the full rate leaves nothing of a positive amount. -/
theorem proportionalShare_lt_iff (hscale : 0 < scale) (hamount : 0 < amount) (hrate : 0 ≤ rate) :
    proportionalShare scale amount rate < amount ↔ rate < scale := by
  rw [proportionalShare_eq_ediv hamount.le hrate, Int.ediv_lt_iff_lt_mul hscale]
  exact mul_lt_mul_iff_of_pos_left hamount

theorem proportionalShare_add (hscale : 0 < scale) (hrate : 0 ≤ rate) {first second : ℤ}
    (hfirst : 0 ≤ first) (hsecond : 0 ≤ second) :
    proportionalShare scale first rate + proportionalShare scale second rate ≤
        proportionalShare scale (first + second) rate ∧
      proportionalShare scale (first + second) rate ≤
        proportionalShare scale first rate + proportionalShare scale second rate + 1 := by
  rw [proportionalShare_eq_ediv hfirst hrate, proportionalShare_eq_ediv hsecond hrate,
    proportionalShare_eq_ediv (add_nonneg hfirst hsecond) hrate, add_mul,
    Int.add_ediv_of_pos hscale]
  split <;> omega

/-- The share grows with the amount, by no more than the amount does. -/
theorem proportionalShare_mono (hscale : 0 < scale) (hrate : 0 ≤ rate) (hfull : rate ≤ scale)
    {smaller larger : ℤ} (hsmaller : 0 ≤ smaller) (hle : smaller ≤ larger) :
    proportionalShare scale smaller rate ≤ proportionalShare scale larger rate ∧
      smaller - proportionalShare scale smaller rate ≤
        larger - proportionalShare scale larger rate := by
  have hlarger := hsmaller.trans hle
  have hfits : larger * rate ≤ smaller * rate + scale * (larger - smaller) := by
    calc
      _ = smaller * rate + rate * (larger - smaller) := by
        rw [mul_comm rate, ← add_mul, add_sub_cancel]
      _ ≤ _ := add_le_add le_rfl (mul_le_mul_of_nonneg_right hfull (sub_nonneg.mpr hle))
  rw [proportionalShare_eq_ediv hsmaller hrate, proportionalShare_eq_ediv hlarger hrate]
  constructor
  · exact Int.ediv_le_ediv hscale (mul_le_mul_of_nonneg_right hle hrate)
  · have hquotient := Int.ediv_le_ediv hscale hfits
    rw [Int.add_mul_ediv_left _ _ hscale.ne'] at hquotient
    omega

/-- The shares of the parts of an amount fall short of the share of the whole by less than one unit
for each part. -/
theorem sum_proportionalShare (hscale : 0 < scale) (hrate : 0 ≤ rate) (parts : List ℤ)
    (hparts : ∀ part ∈ parts, 0 ≤ part) (hne : parts ≠ []) :
    (parts.map fun part ↦ proportionalShare scale part rate).sum ≤
        proportionalShare scale parts.sum rate ∧
      proportionalShare scale parts.sum rate ≤
        (parts.map fun part ↦ proportionalShare scale part rate).sum + (parts.length - 1) := by
  induction parts with
  | nil => exact absurd rfl hne
  | cons part parts ih =>
    obtain ⟨hpart, hrest⟩ := List.forall_mem_cons.mp hparts
    rcases eq_or_ne parts [] with rfl | hnonempty
    · simp
    · obtain ⟨hle, hge⟩ := ih hrest hnonempty
      obtain ⟨hsplit, hjoin⟩ := proportionalShare_add hscale hrate hpart (List.sum_nonneg hrest)
      simp only [List.map_cons, List.sum_cons, List.length_cons]
      push_cast
      constructor <;> omega

end Bounds

end StellarTip.Foundation
