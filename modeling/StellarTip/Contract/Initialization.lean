import StellarTip.Contract.Execution

/-!
# Initialization is all or nothing

A reachable contract is in one of two phases. Before `init` nothing at all is stored. From `init` on,
each of the eight keys that it writes stays stored: the setters and the creator count overwrite them,
and no operation removes one. No call but `init` is accepted in the first phase, and `init` itself is
accepted only there.
-/

namespace StellarTip

open Foundation TipContract

variable {Address Symbol World : Type}

/-- The keys that `init` writes: the configuration and the creator count. -/
def DataKey.IsGlobal : DataKey Address Symbol → Prop
  | .creatorCount => True
  | key => key.IsConfig

variable [LinearOrder Address] [DecidableEq Symbol] {host : Host Address World} {env : Env host}
  {state state' : State Address Symbol World} {call : Call Address Symbol}
  {receipt : Receipt Address Symbol}

namespace Storage

variable (storage : Storage Address Symbol) {key : DataKey Address Symbol}

theorem has_afterInit (caller feeRecipient : Address)
    (feeBps maxCreators maxTipsPerCreator : U32) (minTipAmount : I128) (hkey : key.IsGlobal) :
    (storage.afterInit caller feeRecipient feeBps maxCreators maxTipsPerCreator
      minTipAmount).instanceTier.has key = true := by
  cases key <;> first | exact hkey.elim | simp [afterInit]

theorem has_setInstance {other : DataKey Address Symbol} (value : other.Value)
    (h : storage.instanceTier.has key = true) :
    (storage.setInstance other value).instanceTier.has key = true := by
  by_cases heq : key = other
  · subst heq
    simp
  · simpa [heq] using h

theorem has_countDecremented (h : storage.instanceTier.has key = true) :
    storage.countDecremented.instanceTier.has key = true := by
  unfold countDecremented
  split
  · exact storage.has_setInstance _ h
  · exact h

theorem has_afterUnregister (caller : Address) (profile : CreatorProfile Symbol)
    (hkey : key.IsGlobal) (h : storage.instanceTier.has key = true) :
    (storage.afterUnregister caller profile).instanceTier.has key = true := by
  apply has_countDecremented
  cases key <;> first | exact hkey.elim | simpa [KeyedStore.has] using h

end Storage

/-- An accepted call keeps every global key that is stored. -/
theorem Accepts.has_global (h : Accepts env state call receipt state')
    {key : DataKey Address Symbol} (hkey : key.IsGlobal)
    (hstored : state.storage.instanceTier.has key = true) :
    state'.storage.instanceTier.has key = true := by
  cases h with
  | init => exact Storage.has_afterInit _ _ _ _ _ _ _ hkey
  | configure => exact Storage.has_setInstance _ _ hstored
  | register =>
    exact Storage.has_setInstance _ _ (Storage.has_setInstance _ _
      (Storage.has_setInstance _ _ hstored))
  | updateProfile => exact Storage.has_setInstance _ _ hstored
  | unregister => exact Storage.has_afterUnregister _ _ _ hkey hstored
  | tip => rwa [Storage.instanceTier_afterTip]
  | withdraw => rwa [Storage.instanceTier_afterWithdraw]

/-- Every accepted call but `init` finds the admin stored. -/
theorem Accepts.isInit_or_admin_stored (h : Accepts env state call receipt state') :
    (∃ caller feeRecipient feeBps maxCreators maxTipsPerCreator minTipAmount,
      call = .init caller feeRecipient feeBps maxCreators maxTipsPerCreator minTipAmount ∧
        getAdmin state.storage = none ∧
        state'.storage = state.storage.afterInit caller feeRecipient feeBps maxCreators
          maxTipsPerCreator minTipAmount) ∨
    state.storage.instanceTier.has .admin = true := by
  cases h with
  | init _ fresh => exact .inl ⟨_, _, _, _, _, _, rfl, fresh, rfl⟩
  | configure _ _ admin => exact .inr (KeyedStore.has_iff.mpr ⟨_, admin⟩)
  | register _ ready => exact .inr ready.1
  | updateProfile _ ready => exact .inr ready.1
  | unregister _ ready => exact .inr ready.1
  | tip _ ready => exact .inr ready.1
  | withdraw _ ready => exact .inr ready.1

/-- Nothing is stored, or every global key is. -/
def PhaseInvariant (storage : Storage Address Symbol) : Prop :=
  storage = Storage.empty ∨
    ∀ key : DataKey Address Symbol, key.IsGlobal → storage.instanceTier.has key = true

theorem PhaseInvariant.of_reachable (h : ReachableState host state) :
    PhaseInvariant state.storage := by
  refine h.storage_invariant (.inl rfl) ?_
  intro env call before receipt after _ hphase haccepts
  refine .inr fun key hkey ↦ ?_
  rcases haccepts.isInit_or_admin_stored with ⟨_, _, _, _, _, _, -, -, heq⟩ | hadmin
  · rw [heq]
    exact Storage.has_afterInit _ _ _ _ _ _ _ hkey
  · rcases hphase with hempty | hstored
    · rw [hempty] at hadmin
      cases hadmin
    · exact haccepts.has_global hkey (hstored key hkey)

/-- Before `init` nothing is stored. -/
theorem storage_eq_empty (h : ReachableState host state) (hadmin : getAdmin state.storage = none) :
    state.storage = Storage.empty := by
  rcases PhaseInvariant.of_reachable h with hempty | hstored
  · exact hempty
  · exact absurd (hstored .admin trivial) (KeyedStore.not_has_iff.mpr hadmin)

/-- After `init` every global key is stored. -/
theorem global_stored (h : ReachableState host state) (hadmin : getAdmin state.storage ≠ none)
    {key : DataKey Address Symbol} (hkey : key.IsGlobal) :
    state.storage.instanceTier.has key = true := by
  rcases PhaseInvariant.of_reachable h with hempty | hstored
  · rw [hempty] at hadmin
    exact absurd rfl hadmin
  · exact hstored key hkey

end StellarTip
