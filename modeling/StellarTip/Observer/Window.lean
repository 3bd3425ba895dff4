import StellarTip.Account.History

/-!
# Windows of the tip history

`get_tips` adds its two arguments before it compares the sum with the counter. Where the sum is in
range, the loop reads exactly the records of the window, since the history has no holes below the
counter. Where it is not, the addition traps, although the counter would have cut the window anyway.
-/

namespace StellarTip

open Foundation TipContract

variable {Address Symbol World : Type} [LinearOrder Address] {host : Host Address World}

/-- The records from `start` up to the smaller of `start + limit` and the counter, in increasing
order and without a gap. The sum is one of integers. -/
structure ExactWindow (storage : Storage Address Symbol) (creator : Address) (start limit : U64)
    (tips : List (Tip Address)) : Prop where
  length_eq : (tips.length : ℤ) =
    max 0 (min (start.val + limit.val) (getTipCount storage creator).val - start.val)
  read : ∀ (offset : ℕ) (tip : Tip Address), tips[offset]? = some tip →
    ∃ index : U64, index.val = start.val + offset ∧ getTip storage creator index = some tip

variable {storage : Storage Address Symbol} {creator : Address} {start limit sum : U64}

/-- Without holes below the counter, the loop reads the whole window. -/
theorem exactWindow_of_filled (hfilled : (storage.account creator).Filled)
    (hsum : sum.val = start.val + limit.val) :
    ExactWindow storage creator start limit
      ((BoundedInt.range start (min sum (getTipCount storage creator))).filterMap
        (getTip storage creator)) := by
  have hfound (index : U64) (hindex : index < min sum (getTipCount storage creator)) :
      getTip storage creator index ≠ none :=
    hfilled.recorded index (hindex.trans_le (min_le_right _ _))
  have hwindow := BoundedInt.map_some_filterMap_range start hfound
  constructor
  · have hlength := congrArg List.length hwindow
    rw [List.length_map, List.length_map, BoundedInt.length_range, BoundedInt.val_min, hsum]
      at hlength
    omega
  · intro offset tip htip
    have hlookup : ((BoundedInt.range start (min sum (getTipCount storage creator))).map
        (getTip storage creator))[offset]? = some (some tip) := by
      rw [← hwindow, List.getElem?_map, htip]
      rfl
    rw [List.getElem?_map] at hlookup
    obtain ⟨index, hindex, hget⟩ := Option.map_eq_some_iff.mp hlookup
    exact ⟨index, (BoundedInt.val_of_getElem?_range hindex).2, hget⟩

theorem getTips_eq_error (hsum : 18446744073709551615 < start.val + limit.val) :
    getTips storage creator start limit = .error .overflow := by
  have hnone : start.checkedAdd limit = none := BoundedInt.ofInt?_eq_none_iff.mpr (.inr hsum)
  rw [getTips, hnone]

variable [DecidableEq Symbol] {state : State Address Symbol World}

/-- A window is read, and read exactly, if and only if its end is in range. -/
theorem getTips_exact_iff (h : ReachableState host state) (creator : Address) (start limit : U64) :
    (∃ tips, getTips state.storage creator start limit = .ok tips ∧
      ExactWindow state.storage creator start limit tips) ↔
    start.val + limit.val ≤ 18446744073709551615 := by
  constructor
  · rintro ⟨tips, hok, -⟩
    by_contra hover
    rw [getTips_eq_error (not_le.mp hover)] at hok
    cases hok
  · intro hle
    have hstart := start.lo_le
    have hlimit := limit.lo_le
    obtain ⟨sum, hsum, hval⟩ : ∃ sum : U64,
        start.checkedAdd limit = some sum ∧ sum.val = start.val + limit.val :=
      BoundedInt.exists_ofInt? (by omega) hle
    exact ⟨_, getTips_of_checkedAdd state.storage hsum,
      exactWindow_of_filled (filled_of_reachable h creator) hval⟩

/-- The window of the second tip of creator 3. -/
theorem getTips_exact_in_sharedMarket :
    ∃ tips, getTips sharedMarket.storage 3 (u64 1) (u64 10) = .ok tips ∧
      ExactWindow sharedMarket.storage 3 (u64 1) (u64 10) tips :=
  (getTips_exact_iff sharedMarket_reachable 3 (u64 1) (u64 10)).mpr (by decide)

/-- All the tips from the second one on, asked for with the largest limit, trap. -/
theorem getTips_traps_at_largest_limit :
    ¬∀ (state : State ℕ ℕ (TokenLedger ℕ)) (creator : ℕ) (start limit : U64),
      ReachableState marketHost state → ∃ tips, getTips state.storage creator start limit = .ok tips ∧
        ExactWindow state.storage creator start limit tips := by
  intro h
  obtain ⟨tips, hok, -⟩ := h sharedMarket 3 (u64 1) (u64 18446744073709551615) sharedMarket_reachable
  rw [getTips_eq_error (by decide)] at hok
  cases hok

end StellarTip
