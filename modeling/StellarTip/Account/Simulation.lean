import StellarTip.Account.Model
import StellarTip.Contract.Configuration

/-!
# The contract simulates one account for each address

`Storage.account` reads the account of an address out of the two storage tiers. Every accepted call
takes the account of every address by one step of the account machine, which is where the possible
coincidences of callers, creators and senders are sorted out, once for all. Properties of one account
are then proved on the machine alone and hold in every reachable state.
-/

namespace StellarTip

open Foundation TipContract

variable {Address Symbol World : Type} [LinearOrder Address]

/-- The account of an address, read out of the storage. -/
def Storage.account (storage : Storage Address Symbol) (owner : Address) :
    Account Address Symbol where
  profile := getProfile storage owner
  balances token := storage.persistentTier.get (.balance owner token)
  tokens := storage.persistentTier.get (.creatorTokens owner)
  tipCount := storage.persistentTier.get (.tipCount owner)
  tips index := getTip storage owner index

section Views

variable (storage : Storage Address Symbol) (owner : Address)

@[simp]
theorem Storage.account_profile : (storage.account owner).profile = getProfile storage owner := rfl

@[simp]
theorem Storage.account_tips (index : U64) :
    (storage.account owner).tips index = getTip storage owner index := rfl

@[simp]
theorem Storage.account_balance (token : Address) :
    (storage.account owner).balance token = getBalance storage owner token := rfl

@[simp]
theorem Storage.account_tracked :
    (storage.account owner).tracked = trackedTokens storage owner := rfl

@[simp]
theorem Storage.account_count : (storage.account owner).count = getTipCount storage owner := rfl

theorem getBalance_congr {storage storage' : Storage Address Symbol} {owner : Address}
    (h : storage'.account owner = storage.account owner) (token : Address) :
    getBalance storage' owner token = getBalance storage owner token := by
  rw [← Storage.account_balance, h, Storage.account_balance]

theorem isCreator_iff : isCreator storage owner = true ↔ (storage.account owner).profile ≠ none :=
  Option.isSome_iff_ne_none

end Views

variable [DecidableEq Symbol] {host : Host Address World}

namespace Storage

variable (storage : Storage Address Symbol) (owner : Address)

omit [DecidableEq Symbol] in
/-- An account does not depend on the configuration. -/
theorem account_congr {storage' : Storage Address Symbol}
    (hprofile : getProfile storage' owner = getProfile storage owner)
    (hpersistent : storage'.persistentTier = storage.persistentTier) :
    storage'.account owner = storage.account owner := by
  simp only [account, hprofile, hpersistent, getTip]

theorem account_afterInit (caller feeRecipient : Address)
    (feeBps maxCreators maxTipsPerCreator : U32) (minTipAmount : I128) :
    (storage.afterInit caller feeRecipient feeBps maxCreators maxTipsPerCreator
      minTipAmount).account owner = storage.account owner :=
  account_congr _ _ (by simp [afterInit, getProfile]) rfl

theorem account_setInstance {key : DataKey Address Symbol} (hkey : key.IsConfig)
    (value : key.Value) : (storage.setInstance key value).account owner = storage.account owner :=
  account_congr _ _ (storage.getProfile_setInstance hkey value owner) rfl

/-- Two storages with the same accounts, usernames and creator count. -/
structure KeepsUserState (storage storage' : Storage Address Symbol) : Prop where
  accounts : ∀ owner, storage'.account owner = storage.account owner
  usernames : ∀ username,
    getCreatorFromUsername storage' username = getCreatorFromUsername storage username
  persistent : storage'.persistentTier = storage.persistentTier
  creatorCount : storage'.instanceTier.get .creatorCount = storage.instanceTier.get .creatorCount

omit [DecidableEq Symbol] in
theorem KeepsUserState.refl : storage.KeepsUserState storage :=
  ⟨fun _ ↦ rfl, fun _ ↦ rfl, rfl, rfl⟩

omit [DecidableEq Symbol] in
theorem KeepsUserState.trans {first second third : Storage Address Symbol}
    (h : first.KeepsUserState second) (h' : second.KeepsUserState third) :
    first.KeepsUserState third where
  accounts owner := (h'.accounts owner).trans (h.accounts owner)
  usernames username := (h'.usernames username).trans (h.usernames username)
  persistent := h'.persistent.trans h.persistent
  creatorCount := h'.creatorCount.trans h.creatorCount

/-- A configuration write changes nothing of the users. -/
theorem keepsUserState_setInstance {key : DataKey Address Symbol} (hkey : key.IsConfig)
    (value : key.Value) : storage.KeepsUserState (storage.setInstance key value) where
  accounts owner := storage.account_setInstance owner hkey value
  usernames := storage.getCreatorFromUsername_setInstance hkey value
  persistent := rfl
  creatorCount := by
    have hcount : ¬(DataKey.creatorCount : DataKey Address Symbol).IsConfig := not_false
    exact storage.get_setInstance_of_isConfig hkey hcount value

theorem account_afterRegister_self (profile : CreatorProfile Symbol) (nextCount : U32) :
    (storage.afterRegister owner profile nextCount).account owner =
      (storage.account owner).opened profile := by
  simp [account, Account.opened, getProfile, getTip]

theorem account_afterRegister_of_ne {caller : Address} (h : owner ≠ caller)
    (profile : CreatorProfile Symbol) (nextCount : U32) :
    (storage.afterRegister caller profile nextCount).account owner = storage.account owner := by
  simp [account, getProfile, getTip, h]

theorem account_afterUpdateProfile_self (profile : CreatorProfile Symbol) :
    (storage.afterUpdateProfile owner profile).account owner =
      (storage.account owner).edited profile := by
  simp [account, Account.edited, getProfile, getTip]

theorem account_afterUpdateProfile_of_ne {caller : Address} (h : owner ≠ caller)
    (profile : CreatorProfile Symbol) :
    (storage.afterUpdateProfile caller profile).account owner = storage.account owner := by
  simp [account, getProfile, getTip, h]

theorem account_afterUnregister_self (profile : CreatorProfile Symbol) :
    (storage.afterUnregister owner profile).account owner = (storage.account owner).closed := by
  simp [account, Account.closed, getProfile, getTip]

theorem account_afterUnregister_of_ne {caller : Address} (h : owner ≠ caller)
    (profile : CreatorProfile Symbol) :
    (storage.afterUnregister caller profile).account owner = storage.account owner := by
  simp [account, getProfile, getTip, h]

theorem account_afterTip_self (nextIndex : U64) (newBalance : I128) (tip : Tip Address) :
    (storage.afterTip owner (getTipCount storage owner) nextIndex newBalance tip).account owner =
      (storage.account owner).credited newBalance nextIndex tip := by
  apply Account.ext
  · simp [getProfile, Account.credited]
  · simp [account, Account.credited]
  · simp [account, Account.credited, Account.tracked, trackedTokens]
  · simp [account, Account.credited]
  · funext index
    by_cases h : index = getTipCount storage owner
    · simp [Account.credited, getTip, h]
    · simp [Account.credited, getTip, h]

theorem getBalance_afterTip (nextIndex : U64) (newBalance : I128) (tip : Tip Address) :
    getBalance (storage.afterTip owner (getTipCount storage owner) nextIndex newBalance tip) owner
      tip.token = newBalance := by
  rw [← account_balance, account_afterTip_self, Account.balance_credited, if_pos rfl]

theorem account_afterTip_of_ne {creator : Address} (h : owner ≠ creator) (index nextIndex : U64)
    (newBalance : I128) (tip : Tip Address) :
    (storage.afterTip creator index nextIndex newBalance tip).account owner =
      storage.account owner := by
  simp [account, getProfile, getTip, h]

theorem account_untracked (token : Address) :
    (storage.untracked owner token).account owner =
      { storage.account owner with tokens := (storage.account owner).untracked token } := by
  unfold untracked Account.untracked
  rw [account_tracked]
  split
  · split <;> simp [account, getProfile, getTip]
  · rfl

theorem account_afterWithdraw_self (token : Address) (remaining : I128) :
    (storage.afterWithdraw owner token remaining).account owner =
      (storage.account owner).debited token remaining := by
  unfold afterWithdraw Account.debited
  split
  · simp [account, getProfile, getTip]
  · have hremove : (storage.removePersistent (.balance owner token)).account owner =
        { storage.account owner with
          balances := fun other ↦
            if other = token then none else (storage.account owner).balances other } := by
      simp [account, getProfile, getTip]
    rw [account_untracked, hremove]
    rfl

theorem getBalance_afterWithdraw (token : Address) {remaining : I128} (hnonneg : 0 ≤ remaining) :
    getBalance (storage.afterWithdraw owner token remaining) owner token = remaining := by
  rw [← account_balance, account_afterWithdraw_self, Account.balance_debited _ _ _ hnonneg, if_pos rfl]

theorem account_afterWithdraw_of_ne {caller : Address} (h : owner ≠ caller) (token : Address)
    (remaining : I128) :
    (storage.afterWithdraw caller token remaining).account owner = storage.account owner := by
  simp [account, getProfile, getTip, h, get_persistentTier_afterWithdraw]

end Storage

omit [DecidableEq Symbol] in
theorem Call.account_of_adminChange {call : Call Address Symbol}
    {change : AdminChange Address Symbol} (h : call.adminChange host = some change) :
    call.account = none := by
  cases call <;> first | rfl | cases h

variable {env : Env host} {state state' : State Address Symbol World}
  {call : Call Address Symbol} {receipt : Receipt Address Symbol}

omit [DecidableEq Symbol] in
theorem Call.token_of_adminChange {call : Call Address Symbol}
    {change : AdminChange Address Symbol} (h : call.adminChange host = some change) :
    call.token = none := by
  cases call <;> first | rfl | cases h

/-- Every accepted call takes the account of every address by one step of the account machine. -/
theorem Accepts.accountStep (h : Accepts env state call receipt state') (owner : Address) :
    Account.Step env (getFeePercentage state.storage) owner (state.storage.account owner) call
      receipt (state'.storage.account owner) := by
  cases h with
  | init =>
    rw [Storage.account_afterInit]
    exact .other (by simp [Call.account])
  | @configure call change setter authorized admin valid =>
    rw [Storage.account_setInstance _ _ change.isConfig]
    exact .other (by simp [Call.account_of_adminChange setter])
  | @register caller username displayName bio nextCount authorized ready _ _ unregistered =>
    by_cases howner : owner = caller
    · subst howner
      rw [Storage.account_afterRegister_self]
      exact .opened authorized unregistered
    · rw [Storage.account_afterRegister_of_ne _ _ howner]
      exact .other (by simpa [Call.account] using Ne.symm howner)
  | @updateProfile caller displayName bio profile authorized ready _ _ registered =>
    by_cases howner : owner = caller
    · subst howner
      rw [Storage.account_afterUpdateProfile_self]
      exact .edited authorized registered
    · rw [Storage.account_afterUpdateProfile_of_ne _ _ howner]
      exact .other (by simpa [Call.account] using Ne.symm howner)
  | @unregister caller profile authorized ready registered emptied =>
    by_cases howner : owner = caller
    · subst howner
      rw [Storage.account_afterUnregister_self]
      exact .closed authorized registered emptied
    · rw [Storage.account_afterUnregister_of_ne _ _ howner]
      exact .other (by simpa [Call.account] using Ne.symm howner)
  | @tip sender creator token amount fee newBalance message nextIndex _ _ authorized ready accepted =>
    by_cases howner : owner = creator
    · subst howner
      rw [Storage.account_afterTip_self]
      exact .credited ((isCreator_iff _ _).mp accepted.registered) accepted.positive
        accepted.fee_val accepted.newBalance_val accepted.nextIndex_val
    · rw [Storage.account_afterTip_of_ne _ _ howner]
      exact .other (by simpa [Call.account] using Ne.symm howner)
  | @withdraw caller token amount remaining settled authorized ready accepted =>
    by_cases howner : owner = caller
    · subst howner
      rw [Storage.account_afterWithdraw_self]
      exact .debited authorized ((isCreator_iff _ _).mp accepted.registered) accepted.positive
        accepted.sufficient accepted.remaining_val
    · rw [Storage.account_afterWithdraw_of_ne _ _ howner]
      exact .other (by simpa [Call.account] using Ne.symm howner)

/-- A call on one account leaves the others as they are. -/
theorem Accepts.account_eq_of_ne (h : Accepts env state call receipt state') {owner other : Address}
    (hcall : call.account = some owner) (hne : other ≠ owner) :
    state'.storage.account other = state.storage.account other := by
  apply (h.accountStep other).eq_of_account_ne
  rw [hcall]
  exact fun heq ↦ hne (Option.some.inj heq).symm

/-- Tips and withdrawals leave the instance tier alone. -/
theorem Accepts.instanceTier_of_token (h : Accepts env state call receipt state')
    (hcall : call.token ≠ none) : state'.storage.instanceTier = state.storage.instanceTier := by
  cases h with
  | tip => rfl
  | withdraw => exact Storage.instanceTier_afterWithdraw _ _ _ _
  | configure setter => exact absurd (Call.token_of_adminChange setter) hcall
  | _ => exact absurd rfl hcall

/-- An accepted setter changes nothing of the users. -/
theorem Accepts.keepsUserState_of_setter {change : AdminChange Address Symbol}
    (h : Accepts env state call receipt state') (setter : call.adminChange host = some change) :
    state.storage.KeepsUserState state'.storage := by
  rw [h.eq_of_setter setter]
  exact state.storage.keepsUserState_setInstance change.isConfig _

/-- The invariant rule for one account. -/
theorem ReachableState.account_invariant {owner : Address}
    {P : Account Address Symbol → Prop} (hempty : P Account.empty)
    (hstep : ∀ (env : Env host) feeBps account call receipt account', feeBps ≤ MAX_FEE_BPS →
      P account → Account.Step env feeBps owner account call receipt account' →
        P account')
    (h : ReachableState host state) : P (state.storage.account owner) := by
  refine h.storage_invariant (P := fun storage ↦ P (storage.account owner)) hempty ?_
  intro env call before receipt after hbefore hproperty haccepts
  exact hstep env _ _ call receipt _ (ConfigurationInvariant.of_reachable hbefore).feeBps_le
    hproperty (haccepts.accountStep owner)

/-- The invariant rule for one account along runs whose steps are all allowed. -/
theorem account_invariant_of_restricted {owner : Address}
    {allowed : State Address Symbol World → Label host Symbol → Prop}
    {P : Account Address Symbol → Prop}
    (hstep : ∀ before (env : Env host) call receipt account', ReachableState host before →
      allowed before (.accepted env call receipt) → P (before.storage.account owner) →
      Account.Step env (getFeePercentage before.storage) owner (before.storage.account owner) call
        receipt account' → P account')
    {start stop : State Address Symbol World} {labels : List (Label host Symbol)}
    (run : Run (restrict (Step host) allowed) start labels stop)
    (hstart : ReachableState host start) (hproperty : P (start.storage.account owner)) :
    P (stop.storage.account owner) := by
  have hboth : ReachableState host stop ∧ P (stop.storage.account owner) := by
    refine run.invariant (P := fun state ↦ ReachableState host state ∧
      P (state.storage.account owner)) ?_ ⟨hstart, hproperty⟩
    rintro before label after ⟨hreach, hbefore⟩ ⟨hlast, hallowed⟩
    refine ⟨hreach.step hlast, ?_⟩
    rcases hlast.accepts_or_storage_eq with ⟨env, call, receipt, rfl, haccepts⟩ | ⟨-, heq⟩
    · exact hstep before env call receipt _ hreach hallowed hbefore (haccepts.accountStep owner)
    · rw [heq]
      exact hbefore
  exact hboth.2

end StellarTip
