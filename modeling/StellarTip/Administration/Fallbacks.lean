import StellarTip.Account.Census
import StellarTip.Account.Credit

/-!
# The fallbacks are dead code

The entry points read a missing configuration entry as a default, skip the decrement of a count of
zero, take a missing token set for an empty one, and guard twice against a missing fee recipient. In an
initialized contract none of this happens: the variants below replace every such fallback by a trap,
and they run exactly like the entry points in every reachable state.
-/

namespace StellarTip

open Foundation Transaction TipContract

variable {Address Symbol World : Type} [LinearOrder Address] [DecidableEq Symbol]
  {host : Host Address World}

namespace Strict

variable (env : Env host)

/-- A read that traps where the source falls back to a default. -/
def unwrap {α : Type} (value : Option α) : Contract Address Symbol World α :=
  Transaction.demand value .missingEntry

def checkInitializedAndNotPaused : Contract Address Symbol World Unit := do
  let initialized ← instanceHas .admin
  panicIf (initialized = false) .notInitialized
  let isPaused : Bool ← unwrap (← instanceGet .paused)
  panicIf (isPaused = true) .paused
  extendInstanceTtl

def register (caller : Address) (username : Symbol) (displayName bio : HostString) :
    Contract Address Symbol World Unit := do
  requireAuth env caller
  checkInitializedAndNotPaused
  validateInput displayName bio
  let registered ← instanceHas (.profile caller)
  panicIf (registered = true) .creatorAlreadyExists
  let taken ← instanceHas (.usernameToAddress username)
  panicIf (taken = true) .usernameTaken
  let maxCreators : U32 ← unwrap (← instanceGet .maxCreators)
  let creatorCount : U32 ← unwrap (← instanceGet .creatorCount)
  panicIf (0 < maxCreators ∧ maxCreators ≤ creatorCount) .capExceeded
  let profile : CreatorProfile Symbol :=
    { username, displayName, bio, registeredAt := env.timestamp }
  instanceSet (.profile caller) profile
  instanceSet (.usernameToAddress username) caller
  persistentSet (.tipCount caller) (0 : U64)
  extendPersistentTtl (.tipCount caller)
  let nextCount ← arithmetic (creatorCount.checkedAdd 1)
  instanceSet .creatorCount nextCount
  publish (.creatorRegistered caller profile.username profile.registeredAt)

def updateProfile (caller : Address) (displayName bio : HostString) :
    Contract Address Symbol World Unit := do
  requireAuth env caller
  checkInitializedAndNotPaused
  validateInput displayName bio
  let profile ← unwrapOrPanic (← instanceGet (.profile caller)) .creatorNotFound
  let profile : CreatorProfile Symbol := { profile with displayName, bio }
  instanceSet (.profile caller) profile
  extendInstanceTtl
  publish (.profileUpdated caller profile.username profile.displayName)

def decrementCreatorCount : Contract Address Symbol World Unit := do
  let currentCount : U32 ← unwrap (← instanceGet .creatorCount)
  if 0 < currentCount then
    instanceSet .creatorCount
      (← arithmetic (currentCount.checkedSub 1))
  else unwrap none

def unregister (caller : Address) : Contract Address Symbol World Unit := do
  requireAuth env caller
  checkInitializedAndNotPaused
  let profile ← unwrapOrPanic (← instanceGet (.profile caller)) .creatorNotFound
  clearTokens caller
  persistentRemove (.tipCount caller)
  instanceRemove (.usernameToAddress profile.username)
  instanceRemove (.profile caller)
  decrementCreatorCount
  publish (.creatorUnregistered caller)

def forwardFee (host : Host Address World) (token : Address) (optFeeRecipient : Option Address)
    (fee : I128) : Contract Address Symbol World Unit := do
  if 0 < fee then
    let feeRecipient ← unwrap optFeeRecipient
    tokenTransfer host ⟨token, host.currentContractAddress, feeRecipient, fee⟩
  else pure ()

def tip (sender creator token : Address) (amount : I128) (message : HostString) :
    Contract Address Symbol World U64 := do
  requireAuth env sender
  checkInitializedAndNotPaused
  panicIf (amount ≤ 0) .invalidAmount
  let minTipAmount : I128 ← unwrap (← instanceGet .minTipAmount)
  panicIf (0 < minTipAmount ∧ amount < minTipAmount) .belowMinimum
  let registered ← instanceHas (.profile creator)
  panicIf (registered = false) .creatorNotFound
  let maxTips : U32 ← unwrap (← instanceGet .maxTipsPerCreator)
  let index : U64 := (← persistentGet (.tipCount creator)).getD 0
  panicIf (0 < maxTips ∧ U32.asU64 maxTips ≤ index) .capExceeded
  let feeBps : U32 ← unwrap (← instanceGet .feeBps)
  let product ← arithmetic (amount.checkedMul (U32.asI128 feeBps))
  let fee ← arithmetic (product.checkedDiv (U32.asI128 MAX_FEE_BPS))
  let creatorAmount ← arithmetic (amount.checkedSub fee)
  let optFeeRecipient : Option Address ← instanceGet .feeRecipient
  Transaction.rejectIf (0 < feeBps ∧ optFeeRecipient = none) .missingEntry
  tokenTransfer host ⟨token, sender, host.currentContractAddress, amount⟩
  forwardFee host token optFeeRecipient fee
  creditBalance creator token creatorAmount
  trackToken creator token
  recordTip creator index { sender, token, amount, message, timestamp := env.timestamp }
  publish (.tipSent sender creator token amount fee index)
  return index

/-- The token set must be there and hold the token that is dropped. -/
def untrackToken (caller token : Address) : Contract Address Symbol World Unit := do
  let tokens : SortedSet Address ← unwrap (← persistentGet (.creatorTokens caller))
  if token ∈ tokens then
    if (tokens.remove token).isEmpty then persistentRemove (.creatorTokens caller)
    else do
      persistentSet (.creatorTokens caller) (tokens.remove token)
      extendPersistentTtl (.creatorTokens caller)
  else unwrap none

def settleBalance (caller token : Address) (remaining : I128) :
    Contract Address Symbol World Unit := do
  if 0 < remaining then
    persistentSet (.balance caller token) remaining
    extendPersistentTtl (.balance caller token)
    extendPersistentTtl (.creatorTokens caller)
  else
    persistentRemove (.balance caller token)
    untrackToken caller token

def withdraw (caller token : Address) (amount : I128) : Contract Address Symbol World Unit := do
  requireAuth env caller
  checkInitializedAndNotPaused
  let registered ← instanceHas (.profile caller)
  panicIf (registered = false) .creatorNotFound
  panicIf (amount ≤ 0) .invalidAmount
  let currentBalance : I128 := (← persistentGet (.balance caller token)).getD 0
  panicIf (currentBalance < amount) .insufficientBalance
  tokenTransfer host ⟨token, host.currentContractAddress, caller, amount⟩
  let remaining ← arithmetic (currentBalance.checkedSub amount)
  settleBalance caller token remaining
  publish (.withdraw caller token amount)

end Strict

/-! ## They run alike -/

variable {env : Env host} {frame : Frame Address Symbol World}

/-- All global keys are stored. -/
def Configured (storage : Storage Address Symbol) : Prop :=
  ∀ key : DataKey Address Symbol, key.IsGlobal → storage.instanceTier.get key ≠ none

omit [DecidableEq Symbol] in
/-- A read of a stored entry is not affected by its fallback. -/
theorem run_unwrap_instanceGet {α : Type} {key : DataKey Address Symbol}
    (h : frame.storage.instanceTier.get key ≠ none) (default : key.Value)
    {f : key.Value → Contract Address Symbol World α} :
    (instanceGet key >>= fun value ↦ Strict.unwrap value >>= f).run frame =
      (instanceGet key >>= fun value ↦ f (value.getD default)).run frame :=
  run_demand_query_bind h default

omit [DecidableEq Symbol] in
theorem run_unwrap_persistentGet {α : Type} {key : DataKey Address Symbol}
    (h : frame.storage.persistentTier.get key ≠ none) (default : key.Value)
    {f : key.Value → Contract Address Symbol World α} :
    (persistentGet key >>= fun value ↦ Strict.unwrap value >>= f).run frame =
      (persistentGet key >>= fun value ↦ f (value.getD default)).run frame :=
  run_demand_query_bind h default

omit [DecidableEq Symbol] in
theorem run_strict_checkInitializedAndNotPaused (h : Configured frame.storage) :
    Strict.checkInitializedAndNotPaused.run frame = checkInitializedAndNotPaused.run frame := by
  refine run_bind_congr rfl fun _ _ hread ↦ run_bind_congr rfl fun _ _ hcheck ↦ ?_
  obtain ⟨-, rfl⟩ := run_query_eq_ok.mp hread
  obtain ⟨-, rfl⟩ := run_rejectIf_eq_ok.mp hcheck
  exact run_unwrap_instanceGet (h .paused trivial) false

theorem run_strict_register (h : Configured frame.storage) {caller : Address} {username : Symbol}
    {displayName bio : HostString} :
    (Strict.register env caller username displayName bio).run frame =
      (register env caller username displayName bio).run frame := by
  refine run_bind_congr rfl fun _ _ hauth ↦ ?_
  obtain ⟨-, rfl⟩ := run_rejectIf_eq_ok.mp hauth
  refine run_bind_congr (run_strict_checkInitializedAndNotPaused h) fun _ _ hready ↦ ?_
  obtain ⟨-, rfl⟩ := run_checkInitializedAndNotPaused_eq_ok.mp hready
  refine run_bind_congr rfl fun _ _ hvalid ↦ ?_
  obtain ⟨-, -, rfl⟩ := run_validateInput_eq_ok.mp hvalid
  refine run_bind_congr rfl fun _ _ hread ↦ run_bind_congr rfl fun _ _ hregistered ↦ ?_
  obtain ⟨-, rfl⟩ := run_query_eq_ok.mp hread
  obtain ⟨-, rfl⟩ := run_rejectIf_eq_ok.mp hregistered
  refine run_bind_congr rfl fun _ _ hread ↦ run_bind_congr rfl fun _ _ htaken ↦ ?_
  obtain ⟨-, rfl⟩ := run_query_eq_ok.mp hread
  obtain ⟨-, rfl⟩ := run_rejectIf_eq_ok.mp htaken
  refine (run_unwrap_instanceGet (h .maxCreators trivial) (0 : U32)).trans ?_
  refine run_bind_congr rfl fun _ _ hread ↦ ?_
  obtain ⟨-, rfl⟩ := run_query_eq_ok.mp hread
  exact run_unwrap_instanceGet (h .creatorCount trivial) (0 : U32)

theorem run_strict_updateProfile (h : Configured frame.storage) {caller : Address}
    {displayName bio : HostString} :
    (Strict.updateProfile env caller displayName bio).run frame =
      (updateProfile env caller displayName bio).run frame := by
  refine run_bind_congr rfl fun _ _ hauth ↦ ?_
  obtain ⟨-, rfl⟩ := run_rejectIf_eq_ok.mp hauth
  exact run_bind_congr (run_strict_checkInitializedAndNotPaused h) fun _ _ _ ↦ rfl

theorem run_strict_decrementCreatorCount
    (hstored : frame.storage.instanceTier.get .creatorCount ≠ none)
    (hpos : 0 < getCreatorCount frame.storage) :
    Strict.decrementCreatorCount.run frame = decrementCreatorCount.run frame := by
  refine (run_unwrap_instanceGet hstored (0 : U32)).trans (run_bind_congr rfl fun _ mid hread ↦ ?_)
  obtain ⟨rfl, rfl⟩ := run_query_eq_ok.mp hread
  change (if 0 < getCreatorCount mid.storage then _ else _ :
    Contract Address Symbol World Unit).run mid = (if 0 < getCreatorCount mid.storage then _
      else _ : Contract Address Symbol World Unit).run mid
  rw [if_pos hpos, if_pos hpos]

theorem run_strict_unregister (h : Configured frame.storage) {caller : Address}
    (hpos : getProfile frame.storage caller ≠ none → 0 < getCreatorCount frame.storage) :
    (Strict.unregister env caller).run frame = (unregister env caller).run frame := by
  refine run_bind_congr rfl fun _ _ hauth ↦ ?_
  obtain ⟨-, rfl⟩ := run_rejectIf_eq_ok.mp hauth
  refine run_bind_congr (run_strict_checkInitializedAndNotPaused h) fun _ _ hready ↦ ?_
  obtain ⟨-, rfl⟩ := run_checkInitializedAndNotPaused_eq_ok.mp hready
  refine run_bind_congr rfl fun _ _ hread ↦ run_bind_congr rfl fun profile _ hprofile ↦ ?_
  obtain ⟨rfl, rfl⟩ := run_query_eq_ok.mp hread
  obtain ⟨hstored, rfl⟩ := run_demand_eq_ok.mp hprofile
  refine run_bind_congr rfl fun _ _ hcleared ↦ ?_
  obtain ⟨-, rfl⟩ := run_clearTokens_eq_ok.mp hcleared
  refine run_bind_congr rfl fun _ _ hremoved ↦ run_bind_congr rfl fun _ _ hremoved' ↦
    run_bind_congr rfl fun _ _ hremoved'' ↦ run_bind_congr ?_ fun _ _ _ ↦ rfl
  obtain rfl := run_update_eq_ok.mp hremoved
  obtain rfl := run_update_eq_ok.mp hremoved'
  obtain rfl := run_update_eq_ok.mp hremoved''
  apply run_strict_decrementCreatorCount
  · simpa using h .creatorCount trivial
  · simpa [getCreatorCount] using hpos (by rw [getProfile, hstored]; exact Option.some_ne_none _)

omit [DecidableEq Symbol] in
theorem run_strict_forwardFee {token : Address} {optFeeRecipient : Option Address} {fee : I128}
    (h : optFeeRecipient ≠ none) :
    (Strict.forwardFee host token optFeeRecipient fee).run frame =
      (forwardFee host token optFeeRecipient fee).run frame := by
  obtain ⟨recipient, rfl⟩ := Option.ne_none_iff_exists'.mp h
  rfl

theorem run_strict_tip (h : Configured frame.storage) {sender creator token : Address}
    {amount : I128} {message : HostString} :
    (Strict.tip env sender creator token amount message).run frame =
      (tip env sender creator token amount message).run frame := by
  refine run_bind_congr rfl fun _ _ hauth ↦ ?_
  obtain ⟨-, rfl⟩ := run_rejectIf_eq_ok.mp hauth
  refine run_bind_congr (run_strict_checkInitializedAndNotPaused h) fun _ _ hready ↦ ?_
  obtain ⟨-, rfl⟩ := run_checkInitializedAndNotPaused_eq_ok.mp hready
  refine run_bind_congr rfl fun _ _ hpositive ↦ ?_
  obtain ⟨-, rfl⟩ := run_rejectIf_eq_ok.mp hpositive
  refine (run_unwrap_instanceGet (h .minTipAmount trivial) (0 : I128)).trans ?_
  refine run_bind_congr rfl fun _ _ hread ↦ run_bind_congr rfl fun _ _ hminimum ↦ ?_
  obtain ⟨-, rfl⟩ := run_query_eq_ok.mp hread
  obtain ⟨-, rfl⟩ := run_rejectIf_eq_ok.mp hminimum
  refine run_bind_congr rfl fun _ _ hread ↦ run_bind_congr rfl fun _ _ hregistered ↦ ?_
  obtain ⟨-, rfl⟩ := run_query_eq_ok.mp hread
  obtain ⟨-, rfl⟩ := run_rejectIf_eq_ok.mp hregistered
  refine (run_unwrap_instanceGet (h .maxTipsPerCreator trivial) (0 : U32)).trans ?_
  refine run_bind_congr rfl fun _ _ hread ↦ run_bind_congr rfl fun _ _ hindex ↦
    run_bind_congr rfl fun _ _ hcap ↦ ?_
  obtain ⟨-, rfl⟩ := run_query_eq_ok.mp hread
  obtain ⟨-, rfl⟩ := run_query_eq_ok.mp hindex
  obtain ⟨-, rfl⟩ := run_rejectIf_eq_ok.mp hcap
  refine (run_unwrap_instanceGet (h .feeBps trivial) (0 : U32)).trans ?_
  refine run_bind_congr rfl fun _ _ hread ↦ run_bind_congr rfl fun _ _ hproduct ↦
    run_bind_congr rfl fun _ _ hfee ↦ run_bind_congr rfl fun _ _ hremainder ↦
      run_bind_congr rfl fun _ _ hrecipient ↦ ?_
  obtain ⟨-, rfl⟩ := run_query_eq_ok.mp hread
  obtain ⟨-, rfl⟩ := run_demand_eq_ok.mp hproduct
  obtain ⟨-, rfl⟩ := run_demand_eq_ok.mp hfee
  obtain ⟨-, rfl⟩ := run_demand_eq_ok.mp hremainder
  obtain ⟨rfl, rfl⟩ := run_query_eq_ok.mp hrecipient
  have hset := h .feeRecipient trivial
  refine run_bind_congr ?_ fun _ _ _ ↦ run_bind_congr rfl fun _ _ _ ↦
    run_bind_congr (run_strict_forwardFee hset) fun _ _ _ ↦ rfl
  -- Both guards pass, so it does not matter with which failure they would have stopped.
  exact (run_rejectIf_of_not fun hnone ↦ hset hnone.2).trans
    (run_rejectIf_of_not fun hnone ↦ hset hnone.2).symm

theorem run_strict_untrackToken {caller token : Address}
    (hmem : token ∈ trackedTokens frame.storage caller) :
    (Strict.untrackToken caller token).run frame = (untrackToken caller token).run frame := by
  obtain ⟨tokens, hget, hlisted⟩ := (mem_trackedTokens _).mp hmem
  have hstored : frame.storage.persistentTier.get (.creatorTokens caller) ≠ none := by
    rw [hget]
    exact Option.some_ne_none _
  refine (run_unwrap_persistentGet hstored (SortedSet.empty : SortedSet Address)).trans
    (run_bind_congr rfl fun _ _ hread ↦ ?_)
  obtain ⟨rfl, rfl⟩ := run_query_eq_ok.mp hread
  rw [hget]
  change (if token ∈ tokens then _ else _ : Contract Address Symbol World Unit).run _ =
    (if token ∈ tokens then _ else _ : Contract Address Symbol World Unit).run _
  rw [if_pos hlisted, if_pos hlisted]

theorem run_strict_settleBalance {caller token : Address} {remaining : I128}
    (hmem : ¬0 < remaining → token ∈ trackedTokens frame.storage caller) :
    (Strict.settleBalance caller token remaining).run frame =
      (settleBalance caller token remaining).run frame := by
  by_cases hpos : 0 < remaining
  · rw [Strict.settleBalance, settleBalance, if_pos hpos, if_pos hpos]
  · rw [Strict.settleBalance, settleBalance, if_neg hpos, if_neg hpos]
    refine run_bind_congr rfl fun _ _ hremoved ↦ ?_
    obtain rfl := run_update_eq_ok.mp hremoved
    apply run_strict_untrackToken
    simpa [trackedTokens] using hmem hpos

theorem run_strict_withdraw (h : Configured frame.storage) {caller token : Address} {amount : I128}
    (hmem : 0 < getBalance frame.storage caller token →
      token ∈ trackedTokens frame.storage caller) :
    (Strict.withdraw env caller token amount).run frame =
      (withdraw env caller token amount).run frame := by
  refine run_bind_congr rfl fun _ _ hauth ↦ ?_
  obtain ⟨-, rfl⟩ := run_rejectIf_eq_ok.mp hauth
  refine run_bind_congr (run_strict_checkInitializedAndNotPaused h) fun _ _ hready ↦ ?_
  obtain ⟨-, rfl⟩ := run_checkInitializedAndNotPaused_eq_ok.mp hready
  refine run_bind_congr rfl fun _ _ hread ↦ run_bind_congr rfl fun _ _ hregistered ↦
    run_bind_congr rfl fun _ _ hpositive ↦ ?_
  obtain ⟨-, rfl⟩ := run_query_eq_ok.mp hread
  obtain ⟨-, rfl⟩ := run_rejectIf_eq_ok.mp hregistered
  obtain ⟨hpos, rfl⟩ := run_rejectIf_eq_ok.mp hpositive
  refine run_bind_congr rfl fun _ _ hread ↦ run_bind_congr rfl fun _ _ hsufficient ↦ ?_
  obtain ⟨rfl, rfl⟩ := run_query_eq_ok.mp hread
  obtain ⟨hle, rfl⟩ := run_rejectIf_eq_ok.mp hsufficient
  refine run_bind_congr rfl fun _ _ hmoved ↦ run_bind_congr rfl fun _ _ hremaining ↦
    run_bind_congr (run_strict_settleBalance fun _ ↦ ?_) fun _ _ _ ↦ rfl
  obtain ⟨settled, -, rfl⟩ := run_tokenTransfer_eq_ok.mp hmoved
  obtain ⟨-, rfl⟩ := run_demand_eq_ok.mp hremaining
  exact hmem ((not_le.mp hpos).trans_le (not_lt.mp hle))

/-- The body of the called entry point without fallbacks; `init` and the setters have none. -/
def Call.strictBody (env : Env host) :
    Call Address Symbol → Contract Address Symbol World (Option U64)
  | .register caller username displayName bio => do
      Strict.register env caller username displayName bio
      return none
  | .updateProfile caller displayName bio => do
      Strict.updateProfile env caller displayName bio
      return none
  | .unregister caller => do
      Strict.unregister env caller
      return none
  | .tip sender creator token amount message => do
      let index ← Strict.tip env sender creator token amount message
      return some index
  | .withdraw caller token amount => do
      Strict.withdraw env caller token amount
      return none
  | call => call.body env

variable {state : State Address Symbol World} {call : Call Address Symbol}

/-- No call in an initialized contract takes a fallback: with every fallback replaced by a trap, it
runs exactly as it does. -/
theorem run_strictBody (h : ReachableState host state) (hadmin : getAdmin state.storage ≠ none)
    (env : Env host) (call : Call Address Symbol) :
    (call.strictBody env).run ⟨state.storage, state.world, [], []⟩ =
      (call.body env).run ⟨state.storage, state.world, [], []⟩ := by
  have hconfigured : Configured state.storage := fun key hkey ↦
    Option.isSome_iff_ne_none.mp (global_stored h hadmin hkey)
  cases call with
  | register => exact run_bind_congr (run_strict_register hconfigured) fun _ _ _ ↦ rfl
  | updateProfile => exact run_bind_congr (run_strict_updateProfile hconfigured) fun _ _ _ ↦ rfl
  | unregister caller =>
    have hpos : getProfile state.storage caller ≠ none → 0 < getCreatorCount state.storage :=
      (ExactCensus.of_reachable h).count_pos
    exact run_bind_congr (run_strict_unregister hconfigured hpos) fun _ _ _ ↦ rfl
  | tip => exact run_bind_congr (run_strict_tip hconfigured) fun _ _ _ ↦ rfl
  | withdraw caller token =>
    have hmem := (covered_of_reachable h caller).tracked_of_pos token
    exact run_bind_congr (run_strict_withdraw hconfigured hmem) fun _ _ _ ↦ rfl
  | _ => rfl

/-- No call in an initialized contract fails for want of an entry or of a fee recipient. -/
theorem failure_ne_missing (h : ReachableState host state) (hadmin : getAdmin state.storage ≠ none)
    {failure : Failure} (herror : invoke env call state = .error failure) :
    failure ≠ .missingEntry ∧ failure ≠ .tipError .feeRecipientNotSet := by
  have hrecipient := (ConfigurationInvariant.of_reachable h).feeRecipient_present hadmin
  cases refuses_of_invoke_eq_error herror with
  | tipBroken _ _ broken =>
    cases broken with
    | feeRecipientNotSet unset => exact absurd unset hrecipient
    | _ => exact ⟨Failure.noConfusion, Failure.noConfusion⟩
  | tokensMissing _ checked _ missing =>
    have hstored := has_tokens_of_pos h (checked.positive.trans_le checked.sufficient)
    exact absurd (hstored.symm.trans missing) (by decide)
  | _ => exact ⟨by simp, by simp⟩

/-- In every initialized state the configuration is complete and in range, and no fallback is taken. -/
theorem fallbacks_are_dead (h : ReachableState host state)
    (hadmin : getAdmin state.storage ≠ none) :
    (∀ key : DataKey Address Symbol, key.IsGlobal → state.storage.instanceTier.has key = true) ∧
      getFeePercentage state.storage ≤ MAX_FEE_BPS ∧ 0 ≤ getMinTipAmount state.storage ∧
      (∀ (env : Env host) (call : Call Address Symbol),
        (call.strictBody env).run ⟨state.storage, state.world, [], []⟩ =
          (call.body env).run ⟨state.storage, state.world, [], []⟩ ∧
        ∀ failure, invoke env call state = .error failure →
          failure ≠ .missingEntry ∧ failure ≠ .tipError .feeRecipientNotSet) ∧
      (∀ caller, isCreator state.storage caller = true → 0 < getCreatorCount state.storage) ∧
      ∀ caller token amount, WithdrawChecked state.storage caller token amount →
        ∃ tokens : SortedSet Address,
          state.storage.persistentTier.get (.creatorTokens caller) = some tokens ∧
            token ∈ tokens := by
  have hconfig := ConfigurationInvariant.of_reachable h
  refine ⟨fun key hkey ↦ global_stored h hadmin hkey, hconfig.feeBps_le, hconfig.minTipAmount_nonneg,
    fun env call ↦ ⟨run_strictBody h hadmin env call, fun failure ↦ failure_ne_missing h hadmin⟩,
    fun caller hregistered ↦ ?_, fun caller token amount checked ↦ ?_⟩
  · exact (ExactCensus.of_reachable h).count_pos ((isCreator_iff _ _).mp hregistered)
  · exact tokens_stored_of_pos h (checked.positive.trans_le checked.sufficient)

/-- In the small market a withdrawal runs alike with and without its fallbacks. -/
theorem fallbacks_are_dead_in_tippedMarket :
    ((Call.withdraw 3 7 (i128 95) : Call ℕ ℕ).strictBody (signedBy marketHost 3 (u64 104))).run
        ⟨tippedMarket.storage, tippedMarket.world, [], []⟩ =
      ((Call.withdraw 3 7 (i128 95) : Call ℕ ℕ).body (signedBy marketHost 3 (u64 104))).run
        ⟨tippedMarket.storage, tippedMarket.world, [], []⟩ :=
  ((fallbacks_are_dead tippedMarket_reachable (by decide)).2.2.2.1
    (signedBy marketHost 3 (u64 104)) (.withdraw 3 7 (i128 95))).1

end StellarTip
