import StellarTip.Account.Simulation
import StellarTip.Contract.Initialization
import StellarTip.Contract.TokenLedger
import Mathlib.Data.Set.Card

/-!
# The census of creators

The creator count is cached beside the profiles that it counts. A registration adds one address and
one to the count, an unregistration takes away both, and no other operation touches either, so the
count is exact. In particular it is positive whenever somebody is registered, which makes the guard
of the decrement a formality.
-/

namespace StellarTip

open Foundation TipContract

variable {Address Symbol World : Type} [LinearOrder Address]

/-- The addresses with a stored profile. -/
def registeredCreators (storage : Storage Address Symbol) : Set Address :=
  {address | getProfile storage address ≠ none}

theorem mem_registeredCreators {storage : Storage Address Symbol} {address : Address} :
    address ∈ registeredCreators storage ↔ getProfile storage address ≠ none := Iff.rfl

theorem registeredCreators_congr {storage storage' : Storage Address Symbol}
    (h : ∀ address, getProfile storage' address = getProfile storage address) :
    registeredCreators storage' = registeredCreators storage := by
  ext address
  rw [mem_registeredCreators, mem_registeredCreators, h]

variable [DecidableEq Symbol] {host : Host Address World}

section Effects

variable (storage : Storage Address Symbol) {caller : Address} {profile : CreatorProfile Symbol}

theorem registeredCreators_afterRegister (nextCount : U32) :
    registeredCreators (storage.afterRegister caller profile nextCount) =
      insert caller (registeredCreators storage) := by
  ext address
  by_cases h : address = caller <;> simp [registeredCreators, getProfile, h]

theorem registeredCreators_afterUpdateProfile (registered : getProfile storage caller ≠ none) :
    registeredCreators (storage.afterUpdateProfile caller profile) =
      registeredCreators storage := by
  ext address
  rw [getProfile] at registered
  by_cases h : address = caller <;> simp [registeredCreators, getProfile, h, registered]

theorem registeredCreators_afterUnregister :
    registeredCreators (storage.afterUnregister caller profile) =
      registeredCreators storage \ {caller} := by
  ext address
  by_cases h : address = caller <;> simp [registeredCreators, getProfile, h]

theorem getCreatorCount_setInstance {key : DataKey Address Symbol} (hkey : key.IsConfig)
    (value : key.Value) :
    getCreatorCount (storage.setInstance key value) = getCreatorCount storage := by
  rw [getCreatorCount, (storage.keepsUserState_setInstance hkey value).creatorCount, getCreatorCount]

@[simp]
theorem getCreatorCount_afterRegister (nextCount : U32) :
    getCreatorCount (storage.afterRegister caller profile nextCount) = nextCount := by
  simp [getCreatorCount]

/-- A positive count goes down by one. -/
theorem getCreatorCount_countDecremented (h : 0 < getCreatorCount storage) :
    (getCreatorCount storage.countDecremented).val = (getCreatorCount storage).val - 1 := by
  have hpos := BoundedInt.lt_def.mp h
  have hhi := (getCreatorCount storage).le_hi
  rw [U32.val_zero] at hpos
  obtain ⟨count, hcount, hval⟩ : ∃ count : U32,
      (getCreatorCount storage).checkedSub 1 = some count ∧
        count.val = (getCreatorCount storage).val - 1 :=
    BoundedInt.exists_ofInt? (by rw [U32.val_one]; omega) (by rw [U32.val_one]; omega)
  rw [← hval, Storage.countDecremented, hcount]
  simp [getCreatorCount]

theorem getCreatorCount_afterUnregister (h : 0 < getCreatorCount storage) :
    (getCreatorCount (storage.afterUnregister caller profile)).val =
      (getCreatorCount storage).val - 1 := by
  have hcleared : getCreatorCount ((((storage.removePersistent
      (.creatorTokens caller)).removePersistent (.tipCount caller)).removeInstance
      (.usernameToAddress profile.username)).removeInstance (.profile caller)) =
        getCreatorCount storage := by
    simp [getCreatorCount]
  rw [Storage.afterUnregister, getCreatorCount_countDecremented _ (by rwa [hcleared]), hcleared]

end Effects

/-- Finitely many addresses are registered, and the creator count is their number. -/
structure ExactCensus (storage : Storage Address Symbol) : Prop where
  finite : (registeredCreators storage).Finite
  count_val : (getCreatorCount storage).val = (registeredCreators storage).ncard

namespace ExactCensus

variable {storage storage' : Storage Address Symbol} {env : Env host}
  {state state' : State Address Symbol World} {call : Call Address Symbol}
  {receipt : Receipt Address Symbol} {caller : Address} {profile : CreatorProfile Symbol}

omit [DecidableEq Symbol] in
theorem congr (h : ExactCensus storage)
    (hregistered : registeredCreators storage' = registeredCreators storage)
    (hcount : getCreatorCount storage' = getCreatorCount storage) : ExactCensus storage' where
  finite := by
    rw [hregistered]
    exact h.finite
  count_val := by
    rw [hregistered, hcount]
    exact h.count_val

omit [DecidableEq Symbol] in
theorem of_unregistered (hprofile : ∀ address, getProfile storage address = none)
    (hcount : getCreatorCount storage = 0) : ExactCensus storage := by
  have hnobody : registeredCreators storage = ∅ := by
    ext address
    simp [mem_registeredCreators, hprofile address]
  constructor
  · rw [hnobody]
    exact Set.finite_empty
  · rw [hnobody, hcount, Set.ncard_empty]
    rfl

omit [DecidableEq Symbol] in
/-- Somebody is registered, so the count is positive. -/
theorem count_pos (h : ExactCensus storage) (registered : getProfile storage caller ≠ none) :
    0 < getCreatorCount storage := by
  have hpos : 0 < (registeredCreators storage).ncard :=
    (Set.ncard_pos h.finite).mpr ⟨caller, registered⟩
  rw [BoundedInt.lt_def, h.count_val, U32.val_zero]
  exact_mod_cast hpos

theorem afterRegister (h : ExactCensus storage) {nextCount : U32}
    (unregistered : getProfile storage caller = none)
    (nextCount_val : nextCount.val = (getCreatorCount storage).val + 1) :
    ExactCensus (storage.afterRegister caller profile nextCount) where
  finite := by
    rw [registeredCreators_afterRegister]
    exact h.finite.insert caller
  count_val := by
    have hnew : caller ∉ registeredCreators storage := not_not.mpr unregistered
    rw [registeredCreators_afterRegister, getCreatorCount_afterRegister, nextCount_val, h.count_val,
      Set.ncard_insert_of_notMem hnew h.finite]
    norm_cast

theorem afterUnregister (h : ExactCensus storage)
    (registered : getProfile storage caller = some profile) :
    ExactCensus (storage.afterUnregister caller profile) where
  finite := by
    rw [registeredCreators_afterUnregister]
    exact h.finite.sdiff
  count_val := by
    have hmem : caller ∈ registeredCreators storage := by
      rw [mem_registeredCreators, registered]
      exact Option.some_ne_none _
    have hremoved := Set.ncard_sdiff_singleton_add_one hmem h.finite
    rw [registeredCreators_afterUnregister, getCreatorCount_afterUnregister _ (h.count_pos hmem),
      h.count_val]
    omega

theorem accepts (h : Accepts env state call receipt state')
    (hempty : getAdmin state.storage = none → state.storage = Storage.empty)
    (hcensus : ExactCensus state.storage) : ExactCensus state'.storage := by
  cases h with
  | init _ fresh =>
    rw [hempty fresh]
    exact of_unregistered (fun _ ↦ rfl) rfl
  | @configure call change =>
    exact hcensus.congr
      (registeredCreators_congr fun _ ↦ Storage.getProfile_setInstance _ change.isConfig _ _)
      (getCreatorCount_setInstance _ change.isConfig _)
  | register _ _ _ _ unregistered _ _ nextCount_val =>
    exact hcensus.afterRegister unregistered nextCount_val
  | updateProfile _ _ _ _ registered =>
    refine hcensus.congr (registeredCreators_afterUpdateProfile _ ?_) (by simp [getCreatorCount])
    rw [registered]
    exact Option.some_ne_none _
  | unregister _ _ registered => exact hcensus.afterUnregister registered
  | tip => exact hcensus.congr (registeredCreators_congr fun _ ↦ rfl) rfl
  | withdraw =>
    exact hcensus.congr (registeredCreators_congr fun _ ↦ by simp [getProfile])
      (by simp [getCreatorCount])

theorem of_reachable (h : ReachableState host state) : ExactCensus state.storage :=
  h.storage_invariant (of_unregistered (fun _ ↦ rfl) rfl) fun _ _ _ _ _ hreach hcensus haccepts ↦
    accepts haccepts (storage_eq_empty hreach) hcensus

end ExactCensus

variable {env : Env host} {state state' : State Address Symbol World} {caller : Address}
  {call : Call Address Symbol} {receipt : Receipt Address Symbol}

/-- The registered addresses stay the same, gain a caller below the cap, or lose one. -/
theorem Accepts.registeredCreators_cases (h : Accepts env state call receipt state') :
    registeredCreators state'.storage = registeredCreators state.storage ∨
      (∃ caller, registeredCreators state'.storage =
          insert caller (registeredCreators state.storage) ∧
        ¬(0 < getMaxCreators state.storage ∧
          getMaxCreators state.storage ≤ getCreatorCount state.storage)) ∨
      ∃ caller, registeredCreators state'.storage = registeredCreators state.storage \ {caller} := by
  cases h with
  | init =>
    exact .inl (registeredCreators_congr fun _ ↦ by simp [getProfile, Storage.afterInit])
  | @configure call change =>
    exact .inl (registeredCreators_congr fun _ ↦
      Storage.getProfile_setInstance _ change.isConfig _ _)
  | register _ _ _ _ _ _ below_cap =>
    exact .inr (.inl ⟨_, registeredCreators_afterRegister _ _, below_cap⟩)
  | updateProfile _ _ _ _ registered =>
    refine .inl (registeredCreators_afterUpdateProfile _ ?_)
    rw [registered]
    exact Option.some_ne_none _
  | unregister => exact .inr (.inr ⟨_, registeredCreators_afterUnregister _⟩)
  | tip => exact .inl (registeredCreators_congr fun _ ↦ rfl)
  | withdraw => exact .inl (registeredCreators_congr fun _ ↦ by simp [getProfile])

/-- An accepted unregistration finds a positive count and takes one away. -/
theorem count_of_unregister (h : ReachableState host state)
    (haccepts : Accepts env state (.unregister caller) receipt state') :
    0 < getCreatorCount state.storage ∧
      (getCreatorCount state'.storage).val = (getCreatorCount state.storage).val - 1 := by
  obtain ⟨-, profile, registered, -, -, rfl⟩ := haccepts.of_unregister
  have hpos : 0 < getCreatorCount state.storage :=
    (ExactCensus.of_reachable h).count_pos (by rw [registered]; exact Option.some_ne_none _)
  exact ⟨hpos, getCreatorCount_afterUnregister _ hpos⟩

theorem count_of_register {username : Symbol} {displayName bio : HostString}
    (haccepts : Accepts env state (.register caller username displayName bio) receipt state') :
    (getCreatorCount state'.storage).val = (getCreatorCount state.storage).val + 1 := by
  cases haccepts with
  | register _ _ _ _ _ _ _ nextCount_val => rwa [getCreatorCount_afterRegister]
  | configure setter => cases setter

/-- A registration that would exceed the range of the count is refused as a whole. -/
theorem register_fails_at_max {username : Symbol} {displayName bio : HostString}
    (hmax : (getCreatorCount state.storage).val = 4294967295) :
    (∃ failure, invoke env (.register caller username displayName bio) state = .error failure) ∧
      (perform env (.register caller username displayName bio) state).2 = state := by
  cases hinvoke : invoke env (.register caller username displayName bio) state with
  | error failure => exact ⟨⟨failure, rfl⟩, by rw [perform_of_error hinvoke]⟩
  | ok pair =>
    have hcount := count_of_register (invoke_eq_ok_iff.mp hinvoke)
    have hhi := (getCreatorCount pair.2.storage).le_hi
    omega

/-- In every reachable state the creator count is the number of registered addresses. It never wraps,
and every registration and unregistration moves it by exactly one. -/
theorem creator_count_exact (h : ReachableState host state) :
    (registeredCreators state.storage).Finite ∧
      (getCreatorCount state.storage).val = (registeredCreators state.storage).ncard ∧
      (∀ (env : Env host) caller username displayName bio,
        ((getCreatorCount state.storage).val = 4294967295 →
          (∃ failure,
            invoke env (.register caller username displayName bio) state = .error failure) ∧
          (perform env (.register caller username displayName bio) state).2 = state) ∧
        ∀ receipt state',
          Step host state (.accepted env (.register caller username displayName bio) receipt)
              state' →
            (getCreatorCount state'.storage).val = (getCreatorCount state.storage).val + 1) ∧
      ∀ (env : Env host) caller receipt state',
        Step host state (.accepted env (.unregister caller) receipt) state' →
          0 < getCreatorCount state.storage ∧
            (getCreatorCount state'.storage).val = (getCreatorCount state.storage).val - 1 := by
  have hcensus := ExactCensus.of_reachable h
  refine ⟨hcensus.finite, hcensus.count_val, fun env caller username displayName bio ↦ ?_, ?_⟩
  · exact ⟨register_fails_at_max, fun receipt state' hstep ↦ count_of_register hstep.accepts⟩
  · exact fun env caller receipt state' hstep ↦ count_of_unregister h hstep.accepts

/-- One of the two creators of the busy market is left, and the last call has taken one away. -/
theorem creator_count_of_busyMarket :
    (1 : ℤ) = (registeredCreators (replay marketStart busyMarketCalls).2.storage).ncard ∧
    (2 : ℤ) = (registeredCreators (replay marketStart (busyMarketCalls.take 7)).2.storage).ncard ∧
    (getCreatorCount (replay marketStart busyMarketCalls).2.storage).val =
      (getCreatorCount (replay marketStart (busyMarketCalls.take 7)).2.storage).val - 1 := by
  have hstop : ReachableState marketHost (replay marketStart busyMarketCalls).2 :=
    .of_deployed (run_replay _ _)
  have hmid : ReachableState marketHost (replay marketStart (busyMarketCalls.take 7)).2 :=
    .of_deployed (run_replay _ _)
  obtain ⟨-, hcount, -, hunregister⟩ := creator_count_exact hmid
  have hlast := step_perform (marketUnregister 3).1 (marketUnregister 3).2
    (replay marketStart (busyMarketCalls.take 7)).2
  exact ⟨(creator_count_exact hstop).2.1, hcount, (hunregister _ 3 _ _ hlast).2⟩

end StellarTip
