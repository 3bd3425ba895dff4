import StellarTip.Account.Census
import StellarTip.Account.Registry

/-!
# What determines the storage

Beside the configuration and the accounts, the storage holds derived data: the reverse entry of each
username and the number of creators. In a reachable contract both are functions of the profiles, and
every key has its one tier. So two reachable contracts with the same configuration and the same
accounts have the same storage, entry by entry.
-/

namespace StellarTip

open Foundation TipContract

variable {Address Symbol World : Type}

/-- The keys that live in the instance tier. -/
def DataKey.IsInstance : DataKey Address Symbol → Prop
  | .balance .. | .tipCount _ | .tip .. | .creatorTokens _ => False
  | _ => True

variable [LinearOrder Address] [DecidableEq Symbol] {host : Host Address World}

/-- Every stored entry is in the tier of its key. -/
structure PlacementInvariant (storage : Storage Address Symbol) : Prop where
  instanceTier_none : ∀ key : DataKey Address Symbol, ¬key.IsInstance →
    storage.instanceTier.get key = none
  persistentTier_none : ∀ key : DataKey Address Symbol, key.IsInstance →
    storage.persistentTier.get key = none

namespace PlacementInvariant

variable {env : Env host} {state state' : State Address Symbol World} {call : Call Address Symbol}
  {receipt : Receipt Address Symbol}

theorem accepts (h : Accepts env state call receipt state')
    (hinv : PlacementInvariant state.storage) : PlacementInvariant state'.storage := by
  obtain ⟨hinstance, hpersistent⟩ := hinv
  constructor
  · intro key hkey
    have hnone := hinstance key hkey
    cases h with
    | @configure call change =>
      have hne : key ≠ change.key := by
        rintro rfl
        have hconfig := change.isConfig
        generalize change.key = key at hkey hconfig
        cases key <;> first | exact hkey trivial | exact hconfig
      rw [← hnone]
      exact KeyedStore.get_set_of_ne _ hne _
    | tip => rwa [Storage.instanceTier_afterTip]
    | withdraw => rwa [Storage.instanceTier_afterWithdraw]
    | init => cases key <;> first | exact absurd trivial hkey | simpa [Storage.afterInit] using hnone
    | register => cases key <;> first | exact absurd trivial hkey | simpa using hnone
    | updateProfile => cases key <;> first | exact absurd trivial hkey | simpa using hnone
    | unregister => cases key <;> first | exact absurd trivial hkey | simpa using hnone
  · intro key hkey
    have hnone := hpersistent key hkey
    cases h with
    | init => exact hnone
    | configure => exact hnone
    | updateProfile => exact hnone
    | register => cases key <;> first | exact hkey.elim | simpa using hnone
    | unregister => cases key <;> first | exact hkey.elim | simpa using hnone
    | tip => cases key <;> first | exact hkey.elim | simpa using hnone
    | withdraw =>
      rw [← hnone]
      refine Storage.get_persistentTier_afterWithdraw _ _ _ _ ?_ ?_ <;>
        · rintro rfl
          exact hkey

theorem of_reachable (h : ReachableState host state) : PlacementInvariant state.storage :=
  h.storage_invariant ⟨fun _ _ ↦ rfl, fun _ _ ↦ rfl⟩ fun _ _ _ _ _ _ hinv haccepts ↦
    accepts haccepts hinv

end PlacementInvariant

variable {state state' : State Address Symbol World}

/-- The reverse entries follow from the profiles. -/
theorem getCreatorFromUsername_congr (h : ReachableState host state)
    (h' : ReachableState host state')
    (hprofile : ∀ owner, getProfile state.storage owner = getProfile state'.storage owner)
    (username : Symbol) :
    getCreatorFromUsername state.storage username =
      getCreatorFromUsername state'.storage username := by
  ext address
  rw [UsernameInvariant.of_reachable h username address,
    UsernameInvariant.of_reachable h' username address, hprofile]

/-- So does the creator count, once it is stored. -/
theorem creatorCount_congr (h : ReachableState host state) (h' : ReachableState host state')
    (hadmin : getAdmin state.storage ≠ none) (hadmin' : getAdmin state'.storage ≠ none)
    (hprofile : ∀ owner, getProfile state.storage owner = getProfile state'.storage owner) :
    state.storage.instanceTier.get .creatorCount =
      state'.storage.instanceTier.get .creatorCount := by
  have hkey : (DataKey.creatorCount : DataKey Address Symbol).IsGlobal := trivial
  obtain ⟨count, hcount⟩ := KeyedStore.has_iff.mp (global_stored h hadmin hkey)
  obtain ⟨count', hcount'⟩ := KeyedStore.has_iff.mp (global_stored h' hadmin' hkey)
  have hval := (ExactCensus.of_reachable h).count_val
  have hval' := (ExactCensus.of_reachable h').count_val
  rw [getCreatorCount, hcount, registeredCreators_congr hprofile] at hval
  rw [getCreatorCount, hcount', ← hval] at hval'
  rw [hcount, hcount']
  exact congrArg some (BoundedInt.ext hval'.symm)

/-- The instance tier holds nothing but the configuration, the profiles and what follows from them. -/
theorem instanceTier_eq_of_profiles (h : ReachableState host state) (h' : ReachableState host state')
    (hconfig : ∀ key : DataKey Address Symbol, key.IsConfig →
      state.storage.instanceTier.get key = state'.storage.instanceTier.get key)
    (hprofile : ∀ owner, getProfile state.storage owner = getProfile state'.storage owner) :
    state.storage.instanceTier = state'.storage.instanceTier := by
  by_cases hadmin : getAdmin state.storage = none
  · have hadmin' : getAdmin state'.storage = none := by
      rw [← hadmin]
      exact (hconfig .admin trivial).symm
    rw [storage_eq_empty h hadmin, storage_eq_empty h' hadmin']
  have hadmin' : getAdmin state'.storage ≠ none := by
    rwa [getAdmin, ← hconfig .admin trivial]
  ext1 key
  by_cases hkey : key.IsInstance
  · cases key with
    | profile owner => exact hprofile owner
    | usernameToAddress username => exact getCreatorFromUsername_congr h h' hprofile username
    | creatorCount => exact creatorCount_congr h h' hadmin hadmin' hprofile
    | balance => exact hkey.elim
    | tipCount => exact hkey.elim
    | tip => exact hkey.elim
    | creatorTokens => exact hkey.elim
    | _ => exact hconfig _ trivial
  · rw [(PlacementInvariant.of_reachable h).instanceTier_none key hkey,
      (PlacementInvariant.of_reachable h').instanceTier_none key hkey]

/-- Two reachable contracts with the same configuration and the same accounts have the same storage. -/
theorem storage_eq_of_accounts (h : ReachableState host state) (h' : ReachableState host state')
    (hconfig : ∀ key : DataKey Address Symbol, key.IsConfig →
      state.storage.instanceTier.get key = state'.storage.instanceTier.get key)
    (haccounts : ∀ owner, state.storage.account owner = state'.storage.account owner) :
    state.storage = state'.storage := by
  apply Storage.ext
  · exact instanceTier_eq_of_profiles h h' hconfig fun owner ↦
      congrArg Account.profile (haccounts owner)
  · ext1 key
    by_cases hkey : key.IsInstance
    · rw [(PlacementInvariant.of_reachable h).persistentTier_none key hkey,
        (PlacementInvariant.of_reachable h').persistentTier_none key hkey]
    · cases key with
      | balance owner token => exact congrFun (congrArg Account.balances (haccounts owner)) token
      | tipCount owner => exact congrArg Account.tipCount (haccounts owner)
      | tip owner index => exact congrFun (congrArg Account.tips (haccounts owner)) index
      | creatorTokens owner => exact congrArg Account.tokens (haccounts owner)
      | _ => exact absurd trivial hkey

end StellarTip
