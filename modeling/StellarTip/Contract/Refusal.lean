import StellarTip.Contract.Execution

/-!
# Why a call is refused

`Accepts` says when a call succeeds. `Refuses` is its counterpart: for every entry point, the checks
in their order, each with the failure that it reports. A failure beyond the checks carries the
conjunction of all of them, so it tells what went wrong although the arguments were in order: an
amount out of range, a transfer that the token refused, or a storage entry that was not there.
-/

namespace StellarTip

open Foundation Transaction TipContract

variable {Address Symbol World : Type}

/-- The address that authorizes a call. -/
def Call.signer : Call Address Symbol → Address
  | .init caller .. | .setAdmin caller _ | .pause caller | .unpause caller
  | .setFeePercentage caller _ | .setFeeRecipient caller _ | .setMaxCreators caller _
  | .setMaxTipsPerCreator caller _ | .setMinTipAmount caller _ | .register caller ..
  | .updateProfile caller .. | .unregister caller | .withdraw caller .. => caller
  | .tip sender .. => sender

/-- The calls that a pause stops. -/
def Call.IsUserCall : Call Address Symbol → Prop
  | .register .. | .updateProfile .. | .unregister .. | .tip .. | .withdraw .. => True
  | _ => False

variable [LinearOrder Address]

/-- What `register` checks. -/
structure RegisterChecked (storage : Storage Address Symbol) (caller : Address) (username : Symbol)
    (displayName bio : HostString) : Prop where
  displayName_le : displayName.length ≤ MAX_DISPLAY_NAME_LEN
  bio_le : bio.length ≤ MAX_BIO_LEN
  unregistered : getProfile storage caller = none
  username_free : getCreatorFromUsername storage username = none
  below_cap : ¬(0 < getMaxCreators storage ∧ getMaxCreators storage ≤ getCreatorCount storage)

/-- What `tip` checks before it computes the fee. -/
structure TipChecked (storage : Storage Address Symbol) (creator : Address) (amount : I128) :
    Prop where
  positive : 0 < amount
  minimum : ¬(0 < getMinTipAmount storage ∧ amount < getMinTipAmount storage)
  registered : isCreator storage creator = true
  below_cap : ¬(0 < getMaxTipsPerCreator storage ∧
    U32.asU64 (getMaxTipsPerCreator storage) ≤ getTipCount storage creator)

/-- What `withdraw` checks. -/
structure WithdrawChecked (storage : Storage Address Symbol) (caller token : Address)
    (amount : I128) : Prop where
  registered : isCreator storage caller = true
  positive : 0 < amount
  sufficient : amount ≤ getBalance storage caller token

section Helpers

variable {host : Host Address World} {frame : Frame Address Symbol World} {failure : Failure}

theorem run_tokenTransfer_eq_error {transfer : Transfer Address} :
    (tokenTransfer host transfer).run frame = .error failure ↔
      ∃ error, host.transfer frame.world transfer.token transfer.sender transfer.recipient
          transfer.amount = .error error ∧ failure = .callee error := by
  simp only [tokenTransfer, StateT.run]
  cases host.transfer frame.world transfer.token transfer.sender transfer.recipient
      transfer.amount <;> simp [eq_comm]

theorem run_extendPersistentTtl_eq_error {key : DataKey Address Symbol} :
    (extendPersistentTtl key).run frame = .error failure ↔
      frame.storage.persistentTier.has key = false ∧ failure = .missingEntry := by
  simp only [extendPersistentTtl, persistentHas, run_bind_eq_error, run_query_eq_error,
    run_query_eq_ok, run_rejectIf_eq_error, exists_and_left, exists_eq_left, and_assoc, false_or]

theorem run_checkInitializedAndNotPaused_eq_error :
    checkInitializedAndNotPaused.run frame = .error failure ↔
      (getAdmin frame.storage = none ∧ failure = .tipError .notInitialized) ∨
        (getAdmin frame.storage ≠ none ∧ isPaused frame.storage = true ∧
          failure = .tipError .paused) := by
  simp only [checkInitializedAndNotPaused, instanceHas, instanceGet, panicIf, extendInstanceTtl,
    run_bind_eq_error, run_query_eq_ok, run_query_eq_error, run_rejectIf_eq_ok,
    run_rejectIf_eq_error, run_pure_eq_error, exists_and_left, exists_eq_left, and_assoc,
    exists_const, exists_false, false_or, and_false, or_false]
  rw [← Bool.not_eq_true, KeyedStore.not_has_iff]
  rfl

theorem run_validateInput_eq_error {displayName bio : HostString} :
    (validateInput displayName bio).run frame = .error failure ↔
      ¬(displayName.length ≤ MAX_DISPLAY_NAME_LEN ∧ bio.length ≤ MAX_BIO_LEN) ∧
        failure = .tipError .invalidInput := by
  simp only [validateInput, panicIf, run_bind_eq_error, run_rejectIf_eq_ok, run_rejectIf_eq_error,
    exists_and_left, exists_eq_left, and_assoc, exists_const, not_lt, not_and, not_le]
  by_cases h : displayName.length ≤ MAX_DISPLAY_NAME_LEN
  · simp [h, not_lt.mpr h]
  · simp [h, not_le.mp h]

namespace TipContract

theorem run_setByAdmin_eq_error [DecidableEq Symbol] {env : Env host} {caller : Address}
    {invalid : Prop} [Decidable invalid] {key : DataKey Address Symbol} {value : key.Value}
    {event : Event Address Symbol} :
    (setByAdmin env caller invalid key value event).run frame = .error failure ↔
      (env.authorized caller = false ∧ failure = .unauthorized) ∨
      env.authorized caller = true ∧
        ((getAdmin frame.storage = none ∧ failure = .tipError .notInitialized) ∨
          ∃ admin, getAdmin frame.storage = some admin ∧
            ((caller ≠ admin ∧ failure = .tipError .notAuthorized) ∨
              (caller = admin ∧ invalid ∧ failure = .tipError .invalidInput))) := by
  simp only [setByAdmin, requireAuth, panicIf, unwrapOrPanic, instanceGet, instanceSet,
    extendInstanceTtl, publish, run_bind_eq_error, run_query_eq_ok, run_query_eq_error,
    run_rejectIf_eq_ok, run_rejectIf_eq_error, run_demand_eq_ok, run_demand_eq_error,
    run_update_eq_error, run_update_eq_ok, run_pure_eq_error, Bool.not_eq_false, ne_eq,
    Decidable.not_not, exists_and_left, exists_eq_left, and_assoc, exists_const, exists_false,
    false_or, or_false, and_false, getAdmin]

theorem run_balanceCheck_eq_error {caller token : Address} :
    (do
      let balance : I128 := (← persistentGet (.balance caller token)).getD 0
      panicIf (0 < balance) .balanceNotEmpty : Contract Address Symbol World Unit).run frame =
        .error failure ↔
      ¬getBalance frame.storage caller token ≤ 0 ∧ failure = .tipError .balanceNotEmpty := by
  simp only [persistentGet, panicIf, run_bind_eq_error, run_query_eq_error, run_query_eq_ok,
    run_rejectIf_eq_error, exists_and_left, exists_eq_left, and_assoc, false_or, not_le,
    getBalance]

theorem run_clearTokens_eq_error [DecidableEq Symbol] {caller : Address} :
    (clearTokens caller).run frame = .error failure ↔
      (∃ token ∈ trackedTokens frame.storage caller, 0 < getBalance frame.storage caller token) ∧
        failure = .tipError .balanceNotEmpty := by
  simp only [clearTokens, run_bind_eq_error, persistentGet, run_query_eq_ok, run_query_eq_error,
    exists_and_left, exists_eq_left, and_assoc, false_or]
  cases hget : frame.storage.persistentTier.get (.creatorTokens caller) with
  | none =>
    have htokens : trackedTokens frame.storage caller = SortedSet.empty := by
      simp [trackedTokens, hget]
    rw [htokens, run_pure_eq_error]
    simp
  | some tokens =>
    have hloop : (forM tokens.keys fun token ↦ do
        let balance : I128 := (← persistentGet (.balance caller token)).getD 0
        panicIf (0 < balance) .balanceNotEmpty :
          Contract Address Symbol World PUnit).run frame = .error failure ↔
        (∃ token ∈ tokens.keys, ¬getBalance frame.storage caller token ≤ 0) ∧
          failure = .tipError .balanceNotEmpty :=
      run_forM_eq_error (fun token final ↦ run_balanceCheck_eq_ok)
        (fun token error ↦ run_balanceCheck_eq_error) tokens.keys
    simp only [not_le] at hloop
    rw [trackedTokens_of_get hget]
    simp only [run_bind_eq_error, persistentRemove, run_update_eq_error, and_false, exists_false,
      or_false]
    exact hloop

variable [DecidableEq Symbol]

theorem run_decrementCreatorCount_eq_error :
    decrementCreatorCount.run frame = .error failure ↔ False := by
  have hok : decrementCreatorCount.run frame = .ok ((), _) :=
    run_decrementCreatorCount_eq_ok.mpr rfl
  simp only [hok, reduceCtorEq]

omit [DecidableEq Symbol] in
theorem run_forwardFee_eq_error {token : Address} {optFeeRecipient : Option Address} {fee : I128} :
    (forwardFee host token optFeeRecipient fee).run frame = .error failure ↔
      0 < fee ∧ ((optFeeRecipient = none ∧ failure = .tipError .feeRecipientNotSet) ∨
        ∃ recipient, optFeeRecipient = some recipient ∧ ∃ error,
          host.transfer frame.world token host.currentContractAddress recipient fee =
            .error error ∧ failure = .callee error) := by
  unfold forwardFee
  split
  · rename_i hpos
    simp only [unwrapOrPanic, run_bind_eq_error, run_demand_eq_ok, run_demand_eq_error,
      run_tokenTransfer_eq_error, hpos, true_and, exists_and_left, and_assoc, exists_eq_left]
  · rename_i hpos
    simp only [run_pure_eq_error, hpos, false_and]

theorem run_creditBalance_eq_error {creator token : Address} {creatorAmount : I128} :
    (creditBalance creator token creatorAmount).run frame = .error failure ↔
      (¬∃ newBalance : I128,
        newBalance.val = (getBalance frame.storage creator token).val + creatorAmount.val) ∧
        failure = .overflow := by
  simp only [creditBalance, persistentGet, persistentSet, arithmetic, run_bind_eq_error,
    run_query_eq_ok, run_query_eq_error, run_demand_eq_ok, run_demand_eq_error, run_update_eq_ok,
    run_update_eq_error, run_extendPersistentTtl_eq_error, exists_and_left, exists_eq_left,
    and_assoc, exists_const, exists_false, false_or, or_false, false_and, and_false,
    Bool.true_eq_false, Storage.persistentTier_setPersistent, KeyedStore.has_set_self,
    BoundedInt.checkedAdd_eq_none_iff, getBalance]

theorem run_trackToken_eq_error {creator token : Address} :
    (trackToken creator token).run frame = .error failure ↔ False := by
  have hok : (trackToken creator token).run frame = .ok ((), _) := run_trackToken_eq_ok.mpr rfl
  simp only [hok, reduceCtorEq]

theorem run_recordTip_eq_error {creator : Address} {index : U64} {tip : Tip Address} :
    (recordTip creator index tip).run frame = .error failure ↔
      (¬∃ nextIndex : U64, nextIndex.val = index.val + 1) ∧ failure = .overflow := by
  simp only [recordTip, persistentSet, arithmetic, run_bind_eq_error, run_demand_eq_ok,
    run_demand_eq_error, run_update_eq_ok, run_update_eq_error, run_extendPersistentTtl_eq_ok,
    run_extendPersistentTtl_eq_error, exists_and_left, exists_eq_left, and_assoc, exists_const,
    exists_false, false_or, or_false, false_and, true_and, and_false, Bool.true_eq_false,
    Storage.persistentTier_setPersistent, KeyedStore.has_set_self,
    BoundedInt.checkedAdd_eq_none_iff, U64.val_one]

theorem run_settleBalance_eq_error {caller token : Address} {remaining : I128} :
    (settleBalance caller token remaining).run frame = .error failure ↔
      0 < remaining ∧ frame.storage.persistentTier.has (.creatorTokens caller) = false ∧
        failure = .missingEntry := by
  unfold settleBalance
  split
  · rename_i hpos
    simp only [persistentSet, run_bind_eq_error, run_update_eq_ok, run_update_eq_error,
      run_extendPersistentTtl_eq_ok, run_extendPersistentTtl_eq_error, exists_eq_left,
      exists_const, and_assoc, exists_and_left, false_or, false_and, true_and, Bool.true_eq_false,
      Storage.persistentTier_setPersistent, KeyedStore.has_set_self, hpos, ne_eq, reduceCtorEq,
      not_false_eq_true, KeyedStore.has_set_of_ne]
  · rename_i hpos
    have hok (mid : Frame Address Symbol World) : (untrackToken caller token).run mid =
        .ok ((), _) := run_untrackToken_eq_ok.mpr rfl
    simp only [persistentRemove, run_bind_eq_error, run_update_eq_ok, run_update_eq_error,
      exists_eq_left, exists_const, false_or, hpos, false_and, hok, reduceCtorEq]

end TipContract

end Helpers

variable {host : Host Address World}

/-! ## Refused calls -/

/-- What can go wrong in `tip` after its checks. -/
inductive TipBreaks (host : Host Address World) (storage : Storage Address Symbol) (world : World)
    (sender creator token : Address) (amount : I128) : Failure → Prop
  | product
      (overflow : ¬∃ product : I128, product.val = amount.val * (getFeePercentage storage).val) :
      TipBreaks host storage world sender creator token amount .overflow
  | remainder {fee : I128}
      (fee_val : fee.val = (amount.val * (getFeePercentage storage).val).tdiv MAX_FEE_BPS.val)
      (overflow : ¬∃ creatorAmount : I128, creatorAmount.val = amount.val - fee.val) :
      TipBreaks host storage world sender creator token amount .overflow
  | feeRecipientNotSet (unset : getFeeRecipient storage = none) :
      TipBreaks host storage world sender creator token amount (.tipError .feeRecipientNotSet)
  | deposit {error : CalleeError}
      (refused : host.transfer world token sender host.currentContractAddress amount =
        .error error) :
      TipBreaks host storage world sender creator token amount (.callee error)
  | fee {fee : I128} {deposited : World} {recipient : Address} {error : CalleeError}
      (fee_val : fee.val = (amount.val * (getFeePercentage storage).val).tdiv MAX_FEE_BPS.val)
      (positive : 0 < fee)
      (moved : host.transfer world token sender host.currentContractAddress amount = .ok deposited)
      (configured : getFeeRecipient storage = some recipient)
      (refused : host.transfer deposited token host.currentContractAddress recipient fee =
        .error error) :
      TipBreaks host storage world sender creator token amount (.callee error)
  | credit {fee : I128}
      (fee_val : fee.val = (amount.val * (getFeePercentage storage).val).tdiv MAX_FEE_BPS.val)
      (overflow : ¬∃ newBalance : I128,
        newBalance.val = (getBalance storage creator token).val + (amount.val - fee.val)) :
      TipBreaks host storage world sender creator token amount .overflow
  | index
      (overflow : ¬∃ nextIndex : U64, nextIndex.val = (getTipCount storage creator).val + 1) :
      TipBreaks host storage world sender creator token amount .overflow

/-- The failures of a call, each with the check or the step that brings it about. -/
inductive Refuses (env : Env host) (state : State Address Symbol World) :
    Call Address Symbol → Failure → Prop
  | unauthorized {call : Call Address Symbol} (unsigned : env.authorized call.signer = false) :
      Refuses env state call .unauthorized
  | alreadyInitialized {caller feeRecipient : Address}
      {feeBps maxCreators maxTipsPerCreator : U32} {minTipAmount : I128}
      (initialized : getAdmin state.storage ≠ none) :
      Refuses env state
        (.init caller feeRecipient feeBps maxCreators maxTipsPerCreator minTipAmount)
        (.tipError .alreadyInitialized)
  | invalidInit {caller feeRecipient : Address} {feeBps maxCreators maxTipsPerCreator : U32}
      {minTipAmount : I128}
      (invalid : MAX_FEE_BPS < feeBps ∨ minTipAmount < 0 ∨
        feeRecipient = host.currentContractAddress) :
      Refuses env state
        (.init caller feeRecipient feeBps maxCreators maxTipsPerCreator minTipAmount)
        (.tipError .invalidInput)
  | setterUninitialized {call : Call Address Symbol} {change : AdminChange Address Symbol}
      (setter : call.adminChange host = some change) (uninitialized : getAdmin state.storage = none) :
      Refuses env state call (.tipError .notInitialized)
  | notAuthorized {call : Call Address Symbol} {change : AdminChange Address Symbol}
      (setter : call.adminChange host = some change)
      (notAdmin : getAdmin state.storage ≠ some change.caller) :
      Refuses env state call (.tipError .notAuthorized)
  | invalidSetting {call : Call Address Symbol} {change : AdminChange Address Symbol}
      (setter : call.adminChange host = some change) (invalid : change.invalid = true) :
      Refuses env state call (.tipError .invalidInput)
  | uninitialized {call : Call Address Symbol} (user : call.IsUserCall)
      (uninitialized : getAdmin state.storage = none) :
      Refuses env state call (.tipError .notInitialized)
  | paused {call : Call Address Symbol} (user : call.IsUserCall)
      (paused : isPaused state.storage = true) :
      Refuses env state call (.tipError .paused)
  | registerInvalid {caller : Address} {username : Symbol} {displayName bio : HostString}
      (invalid : ¬(displayName.length ≤ MAX_DISPLAY_NAME_LEN ∧ bio.length ≤ MAX_BIO_LEN)) :
      Refuses env state (.register caller username displayName bio) (.tipError .invalidInput)
  | creatorAlreadyExists {caller : Address} {username : Symbol} {displayName bio : HostString}
      (registered : getProfile state.storage caller ≠ none) :
      Refuses env state (.register caller username displayName bio)
        (.tipError .creatorAlreadyExists)
  | usernameTaken {caller : Address} {username : Symbol} {displayName bio : HostString}
      (taken : getCreatorFromUsername state.storage username ≠ none) :
      Refuses env state (.register caller username displayName bio) (.tipError .usernameTaken)
  | creatorsCapped {caller : Address} {username : Symbol} {displayName bio : HostString}
      (capped : 0 < getMaxCreators state.storage ∧
        getMaxCreators state.storage ≤ getCreatorCount state.storage) :
      Refuses env state (.register caller username displayName bio) (.tipError .capExceeded)
  | countOverflow {caller : Address} {username : Symbol} {displayName bio : HostString}
      (ready : state.storage.Ready)
      (checked : RegisterChecked state.storage caller username displayName bio)
      (overflow : ¬∃ nextCount : U32,
        nextCount.val = (getCreatorCount state.storage).val + 1) :
      Refuses env state (.register caller username displayName bio) .overflow
  | updateInvalid {caller : Address} {displayName bio : HostString}
      (invalid : ¬(displayName.length ≤ MAX_DISPLAY_NAME_LEN ∧ bio.length ≤ MAX_BIO_LEN)) :
      Refuses env state (.updateProfile caller displayName bio) (.tipError .invalidInput)
  | updateUnregistered {caller : Address} {displayName bio : HostString}
      (unregistered : getProfile state.storage caller = none) :
      Refuses env state (.updateProfile caller displayName bio) (.tipError .creatorNotFound)
  | unregisterUnregistered {caller : Address}
      (unregistered : getProfile state.storage caller = none) :
      Refuses env state (.unregister caller) (.tipError .creatorNotFound)
  | balanceNotEmpty {caller : Address}
      (left : ∃ token ∈ trackedTokens state.storage caller,
        0 < getBalance state.storage caller token) :
      Refuses env state (.unregister caller) (.tipError .balanceNotEmpty)
  | tipInvalid {sender creator token : Address} {amount : I128} {message : HostString}
      (nonpositive : amount ≤ 0) :
      Refuses env state (.tip sender creator token amount message) (.tipError .invalidAmount)
  | belowMinimum {sender creator token : Address} {amount : I128} {message : HostString}
      (below : 0 < getMinTipAmount state.storage ∧ amount < getMinTipAmount state.storage) :
      Refuses env state (.tip sender creator token amount message) (.tipError .belowMinimum)
  | tipUnregistered {sender creator token : Address} {amount : I128} {message : HostString}
      (unregistered : isCreator state.storage creator = false) :
      Refuses env state (.tip sender creator token amount message) (.tipError .creatorNotFound)
  | tipsCapped {sender creator token : Address} {amount : I128} {message : HostString}
      (capped : 0 < getMaxTipsPerCreator state.storage ∧
        U32.asU64 (getMaxTipsPerCreator state.storage) ≤ getTipCount state.storage creator) :
      Refuses env state (.tip sender creator token amount message) (.tipError .capExceeded)
  | tipBroken {sender creator token : Address} {amount : I128} {message : HostString}
      {failure : Failure} (ready : state.storage.Ready)
      (checked : TipChecked state.storage creator amount)
      (broken : TipBreaks host state.storage state.world sender creator token amount failure) :
      Refuses env state (.tip sender creator token amount message) failure
  | withdrawUnregistered {caller token : Address} {amount : I128}
      (unregistered : isCreator state.storage caller = false) :
      Refuses env state (.withdraw caller token amount) (.tipError .creatorNotFound)
  | withdrawInvalid {caller token : Address} {amount : I128} (nonpositive : amount ≤ 0) :
      Refuses env state (.withdraw caller token amount) (.tipError .invalidAmount)
  | insufficientBalance {caller token : Address} {amount : I128} (positive : 0 < amount)
      (insufficient : getBalance state.storage caller token < amount) :
      Refuses env state (.withdraw caller token amount) (.tipError .insufficientBalance)
  | payoutRefused {caller token : Address} {amount : I128} {error : CalleeError}
      (ready : state.storage.Ready)
      (checked : WithdrawChecked state.storage caller token amount)
      (refused : host.transfer state.world token host.currentContractAddress caller amount =
        .error error) :
      Refuses env state (.withdraw caller token amount) (.callee error)
  | tokensMissing {caller token : Address} {amount : I128} (ready : state.storage.Ready)
      (checked : WithdrawChecked state.storage caller token amount)
      (left : amount < getBalance state.storage caller token)
      (missing : state.storage.persistentTier.has (.creatorTokens caller) = false) :
      Refuses env state (.withdraw caller token amount) .missingEntry

variable [DecidableEq Symbol] {env : Env host} {call : Call Address Symbol}
  {state : State Address Symbol World} {failure : Failure}

theorem run_body_of_invoke_eq_error (h : invoke env call state = .error failure) :
    (call.body env).run ⟨state.storage, state.world, [], []⟩ = .error failure := by
  unfold invoke at h
  split at h
  · cases h
  · cases h
    assumption

/-- A body that returns nothing fails with the failure of its invocation. -/
theorem run_of_invoke_eq_error {body : Contract Address Symbol World Unit}
    (hbody : call.body env = do
      body
      return none)
    (h : invoke env call state = .error failure) :
    body.run ⟨state.storage, state.world, [], []⟩ = .error failure := by
  have hrun := run_body_of_invoke_eq_error h
  rw [hbody, run_bind_eq_error] at hrun
  rcases hrun with hrun | ⟨_, _, _, hreturn⟩
  · exact hrun
  · exact (run_pure_eq_error.mp hreturn).elim

theorem refuses_of_setter {change : AdminChange Address Symbol} {invalid : Prop}
    [Decidable invalid] {key : DataKey Address Symbol} {value : key.Value}
    {event : Event Address Symbol} (setter : call.adminChange host = some change)
    (hsigner : call.signer = change.caller) (hinvalid : change.invalid = decide invalid)
    (hbody : call.body env = do
      setByAdmin env change.caller invalid key value event
      return none)
    (h : invoke env call state = .error failure) : Refuses env state call failure := by
  rcases run_setByAdmin_eq_error.mp (run_of_invoke_eq_error hbody h) with ⟨hunsigned, rfl⟩ |
    ⟨-, ⟨hnone, rfl⟩ | ⟨admin, hadmin, ⟨hne, rfl⟩ | ⟨rfl, hinvalid', rfl⟩⟩⟩
  · exact .unauthorized (by rwa [hsigner])
  · exact .setterUninitialized setter hnone
  · refine .notAuthorized setter fun heq ↦ hne ?_
    exact Option.some.inj (heq.symm.trans hadmin)
  · exact .invalidSetting setter (by rw [hinvalid, decide_eq_true hinvalid'])

omit [DecidableEq Symbol] in
/-- The checks that every user call makes first. -/
theorem refuses_of_not_ready (huser : call.IsUserCall)
    (h : checkInitializedAndNotPaused.run
      (⟨state.storage, state.world, [], []⟩ : Frame Address Symbol World) = .error failure) :
    Refuses env state call failure := by
  rcases run_checkInitializedAndNotPaused_eq_error.mp h with ⟨hnone, rfl⟩ | ⟨-, hpaused, rfl⟩
  · exact .uninitialized huser hnone
  · exact .paused huser hpaused

theorem refuses_of_init {caller feeRecipient : Address}
    {feeBps maxCreators maxTipsPerCreator : U32} {minTipAmount : I128}
    (h : invoke env (.init caller feeRecipient feeBps maxCreators maxTipsPerCreator minTipAmount)
      state = .error failure) :
    Refuses env state
      (.init caller feeRecipient feeBps maxCreators maxTipsPerCreator minTipAmount) failure := by
  have hrun : (TipContract.init env caller feeRecipient feeBps maxCreators maxTipsPerCreator
      minTipAmount).run ⟨state.storage, state.world, [], []⟩ = .error failure :=
    run_of_invoke_eq_error rfl h
  simp only [init, requireAuth, panicIf, instanceHas, instanceSet, extendInstanceTtl, publish,
    run_bind_eq_error, run_query_eq_ok, run_query_eq_error, run_rejectIf_eq_ok,
    run_rejectIf_eq_error, run_update_eq_ok, run_update_eq_error, run_pure_eq_error,
    exists_and_left, exists_eq_left, and_assoc, exists_const, exists_false, false_or,
    and_false, or_false] at hrun
  rcases hrun with ⟨hunsigned, rfl⟩ | ⟨-, ⟨hstored, rfl⟩ | ⟨-, ⟨hfee, rfl⟩ | ⟨-, ⟨hmin, rfl⟩ |
    ⟨-, hrecipient, rfl⟩⟩⟩⟩
  · exact .unauthorized hunsigned
  · exact .alreadyInitialized (Option.isSome_iff_ne_none.mp hstored)
  · exact .invalidInit (.inl hfee)
  · exact .invalidInit (.inr (.inl hmin))
  · exact .invalidInit (.inr (.inr hrecipient))

theorem refuses_of_register {caller : Address} {username : Symbol} {displayName bio : HostString}
    (h : invoke env (.register caller username displayName bio) state = .error failure) :
    Refuses env state (.register caller username displayName bio) failure := by
  have hrun : (register env caller username displayName bio).run
      ⟨state.storage, state.world, [], []⟩ = .error failure := run_of_invoke_eq_error rfl h
  simp only [register, requireAuth, panicIf, instanceHas, instanceGet, instanceSet, persistentSet,
    publish, arithmetic, run_bind_eq_error, run_query_eq_ok, run_query_eq_error,
    run_rejectIf_eq_ok, run_rejectIf_eq_error, run_update_eq_ok, run_update_eq_error,
    run_demand_eq_ok, run_demand_eq_error, run_checkInitializedAndNotPaused_eq_ok,
    run_validateInput_eq_ok, run_validateInput_eq_error, run_extendPersistentTtl_eq_ok,
    run_extendPersistentTtl_eq_error, exists_and_left, exists_eq_left, and_assoc, exists_const,
    exists_false, false_or, and_false, or_false, false_and, true_and, Bool.true_eq_false,
    Storage.persistentTier_setPersistent, KeyedStore.has_set_self,
    BoundedInt.checkedAdd_eq_none_iff, KeyedStore.not_has_iff] at hrun
  rcases hrun with ⟨hunsigned, rfl⟩ | ⟨-, hguard | ⟨hready, ⟨hinvalid, rfl⟩ | ⟨hname, hbio,
    ⟨hstored, rfl⟩ | ⟨hprofile, ⟨htaken, rfl⟩ | ⟨hfree, ⟨hpos, hcapped, rfl⟩ | ⟨hcap, hmax,
      rfl⟩⟩⟩⟩⟩⟩
  · exact .unauthorized hunsigned
  · exact refuses_of_not_ready trivial hguard
  · exact .registerInvalid hinvalid
  · exact .creatorAlreadyExists (Option.isSome_iff_ne_none.mp hstored)
  · exact .usernameTaken (Option.isSome_iff_ne_none.mp htaken)
  · exact .creatorsCapped ⟨hpos, hcapped⟩
  · exact .countOverflow hready ⟨hname, hbio, hprofile, hfree, hcap⟩ hmax

theorem refuses_of_updateProfile {caller : Address} {displayName bio : HostString}
    (h : invoke env (.updateProfile caller displayName bio) state = .error failure) :
    Refuses env state (.updateProfile caller displayName bio) failure := by
  have hrun : (updateProfile env caller displayName bio).run
      ⟨state.storage, state.world, [], []⟩ = .error failure := run_of_invoke_eq_error rfl h
  simp only [updateProfile, requireAuth, unwrapOrPanic, instanceGet, instanceSet, publish,
    extendInstanceTtl, run_bind_eq_error, run_query_eq_ok, run_query_eq_error, run_rejectIf_eq_ok,
    run_rejectIf_eq_error, run_update_eq_ok, run_update_eq_error, run_demand_eq_ok,
    run_demand_eq_error, run_pure_eq_error, run_checkInitializedAndNotPaused_eq_ok,
    run_validateInput_eq_ok, run_validateInput_eq_error, exists_and_left, exists_eq_left,
    and_assoc, exists_const, exists_false, false_or, and_false, or_false] at hrun
  rcases hrun with ⟨hunsigned, rfl⟩ | ⟨-, hguard | ⟨-, ⟨hinvalid, rfl⟩ | ⟨-, -, hprofile, rfl⟩⟩⟩
  · exact .unauthorized hunsigned
  · exact refuses_of_not_ready trivial hguard
  · exact .updateInvalid hinvalid
  · exact .updateUnregistered hprofile

theorem refuses_of_unregister {caller : Address}
    (h : invoke env (.unregister caller) state = .error failure) :
    Refuses env state (.unregister caller) failure := by
  have hrun : (unregister env caller).run ⟨state.storage, state.world, [], []⟩ = .error failure :=
    run_of_invoke_eq_error rfl h
  simp only [unregister, requireAuth, unwrapOrPanic, instanceGet, instanceRemove,
    persistentRemove, publish, run_bind_eq_error, run_query_eq_ok, run_query_eq_error,
    run_rejectIf_eq_ok, run_rejectIf_eq_error, run_update_eq_ok, run_update_eq_error,
    run_demand_eq_ok, run_demand_eq_error, run_checkInitializedAndNotPaused_eq_ok,
    run_clearTokens_eq_ok, run_clearTokens_eq_error, run_decrementCreatorCount_eq_error,
    exists_and_left, exists_eq_left, and_assoc, exists_const, exists_false, false_or, and_false,
    or_false] at hrun
  rcases hrun with ⟨hunsigned, rfl⟩ | ⟨-, hguard | ⟨-, ⟨hprofile, rfl⟩ | ⟨_, -, hleft, rfl⟩⟩⟩
  · exact .unauthorized hunsigned
  · exact refuses_of_not_ready trivial hguard
  · exact .unregisterUnregistered hprofile
  · exact .balanceNotEmpty hleft

theorem refuses_of_tip {sender creator token : Address} {amount : I128} {message : HostString}
    (h : invoke env (.tip sender creator token amount message) state = .error failure) :
    Refuses env state (.tip sender creator token amount message) failure := by
  have hrun := run_body_of_invoke_eq_error h
  simp only [Call.body, tip, requireAuth, panicIf, instanceHas, instanceGet, persistentGet,
    publish, arithmetic, run_bind_eq_error, run_query_eq_ok, run_query_eq_error,
    run_rejectIf_eq_ok, run_rejectIf_eq_error, run_update_eq_ok, run_update_eq_error,
    run_demand_eq_ok, run_demand_eq_error, run_pure_eq_error,
    run_checkInitializedAndNotPaused_eq_ok, run_tokenTransfer_eq_ok, run_tokenTransfer_eq_error,
    run_forwardFee_eq_ok, run_forwardFee_eq_error, run_creditBalance_eq_ok,
    run_creditBalance_eq_error, run_trackToken_eq_ok, run_trackToken_eq_error,
    run_recordTip_eq_error, exists_and_left, exists_eq_left, and_assoc,
    exists_const, exists_false, false_or, or_false, and_false, BoundedInt.checkedMul_eq_some_iff,
    BoundedInt.checkedMul_eq_none_iff, BoundedInt.checkedDiv_eq_some_iff,
    BoundedInt.checkedSub_eq_some_iff, BoundedInt.checkedSub_eq_none_iff] at hrun
  rcases hrun with ⟨hunsigned, rfl⟩ | ⟨-, hguard | ⟨hready, ⟨hnonpos, rfl⟩ | ⟨hpos, ⟨hmin, hbelow, rfl⟩ |
    ⟨hminimum, ⟨hprofile, rfl⟩ | ⟨hregistered, ⟨hcap, hcapped, rfl⟩ | ⟨hbelow_cap, hbroken⟩⟩⟩⟩⟩⟩
  · exact .unauthorized hunsigned
  · exact refuses_of_not_ready trivial hguard
  · exact .tipInvalid hnonpos
  · exact .belowMinimum ⟨hmin, hbelow⟩
  · exact .tipUnregistered hprofile
  · exact .tipsCapped ⟨hcap, hcapped⟩
  · refine .tipBroken hready
      ⟨not_le.mp hpos, hminimum, Bool.not_eq_false _ ▸ hregistered, hbelow_cap⟩ ?_
    rcases hbroken with ⟨hproduct, rfl⟩ | ⟨product, hproduct, ⟨hquotient, -⟩ | ⟨-, fee, hfee,
      ⟨hremainder, rfl⟩ | ⟨creatorAmount, hcreator, ⟨-, hunset, rfl⟩ | ⟨-, ⟨error, hrefused, rfl⟩ |
        ⟨_, ⟨deposited, hdeposit, rfl⟩, ⟨hcharged, ⟨hunset, rfl⟩ | ⟨recipient, hconfigured, error,
          hrefused, rfl⟩⟩ | ⟨_, ⟨forwarded, settled, -, rfl⟩, ⟨hcredit, rfl⟩ |
            ⟨_, -, hindex, rfl⟩⟩⟩⟩⟩⟩⟩
    · exact .product hproduct
    · exact absurd hquotient (BoundedInt.checkedDiv_ne_none (by decide) (by decide) (by decide))
    · rw [hproduct] at hfee
      exact .remainder hfee hremainder
    · exact .feeRecipientNotSet hunset
    · exact .deposit hrefused
    · exact .feeRecipientNotSet hunset
    · rw [hproduct] at hfee
      exact .fee hfee hcharged hdeposit hconfigured hrefused
    · rw [hproduct] at hfee
      rw [hcreator] at hcredit
      exact .credit hfee hcredit
    · exact .index hindex

/-- What remains after a debit within the balance is in range. -/
theorem exists_remaining {balance amount : I128} (hpos : 0 < amount) (hle : amount ≤ balance) :
    ∃ remaining : I128, remaining.val = balance.val - amount.val := by
  have hpositive := BoundedInt.lt_def.mp hpos
  have hsufficient := BoundedInt.le_def.mp hle
  have hhi := balance.le_hi
  rw [I128.val_zero] at hpositive
  exact ⟨⟨balance.val - amount.val, by omega, by omega⟩, rfl⟩

theorem refuses_of_withdraw {caller token : Address} {amount : I128}
    (h : invoke env (.withdraw caller token amount) state = .error failure) :
    Refuses env state (.withdraw caller token amount) failure := by
  have hrun : (withdraw env caller token amount).run ⟨state.storage, state.world, [], []⟩ =
      .error failure := run_of_invoke_eq_error rfl h
  simp only [withdraw, requireAuth, panicIf, instanceHas, persistentGet, publish, arithmetic,
    run_bind_eq_error, run_query_eq_ok, run_query_eq_error, run_rejectIf_eq_ok,
    run_rejectIf_eq_error, run_update_eq_error, run_demand_eq_ok, run_demand_eq_error,
    run_checkInitializedAndNotPaused_eq_ok, run_tokenTransfer_eq_ok, run_tokenTransfer_eq_error,
    run_settleBalance_eq_error, exists_and_left, exists_eq_left, and_assoc, exists_const,
    exists_false, false_or, or_false, and_false, BoundedInt.checkedSub_eq_some_iff,
    BoundedInt.checkedSub_eq_none_iff] at hrun
  rcases hrun with ⟨hunsigned, rfl⟩ | ⟨-, hguard | ⟨hready, ⟨hprofile, rfl⟩ | ⟨hregistered,
    ⟨hnonpos, rfl⟩ | ⟨hpos, ⟨hinsufficient, rfl⟩ | ⟨hsufficient, ⟨error, hrefused, rfl⟩ |
      ⟨_, ⟨settled, -, rfl⟩, ⟨hremaining, -⟩ | ⟨remaining, hremaining, hleft, hmissing, rfl⟩⟩⟩⟩⟩⟩⟩
  · exact .unauthorized hunsigned
  · exact refuses_of_not_ready trivial hguard
  · exact .withdrawUnregistered hprofile
  · exact .withdrawInvalid hnonpos
  · exact .insufficientBalance (not_le.mp hpos) hinsufficient
  · exact .payoutRefused hready
      ⟨Bool.not_eq_false _ ▸ hregistered, not_le.mp hpos, not_lt.mp hsufficient⟩ hrefused
  · exact absurd (exists_remaining (not_le.mp hpos) (not_lt.mp hsufficient)) hremaining
  · refine .tokensMissing hready
      ⟨Bool.not_eq_false _ ▸ hregistered, not_le.mp hpos, not_lt.mp hsufficient⟩ ?_ hmissing
    have hval := BoundedInt.lt_def.mp hleft
    rw [hremaining] at hval
    exact BoundedInt.lt_def.mpr (Int.lt_of_sub_pos hval)

/-- Every failure of an invocation is one of the listed refusals. -/
theorem refuses_of_invoke_eq_error (h : invoke env call state = .error failure) :
    Refuses env state call failure := by
  cases call with
  | init => exact refuses_of_init h
  | register => exact refuses_of_register h
  | updateProfile => exact refuses_of_updateProfile h
  | unregister => exact refuses_of_unregister h
  | tip => exact refuses_of_tip h
  | withdraw => exact refuses_of_withdraw h
  | setAdmin => exact refuses_of_setter rfl rfl rfl rfl h
  | pause => exact refuses_of_setter rfl rfl rfl rfl h
  | unpause => exact refuses_of_setter rfl rfl rfl rfl h
  | setFeePercentage => exact refuses_of_setter rfl rfl rfl rfl h
  | setFeeRecipient => exact refuses_of_setter rfl rfl rfl rfl h
  | setMaxCreators => exact refuses_of_setter rfl rfl rfl rfl h
  | setMaxTipsPerCreator => exact refuses_of_setter rfl rfl rfl rfl h
  | setMinTipAmount => exact refuses_of_setter rfl rfl rfl rfl h

/-- A call that is not accepted is refused. -/
theorem accepts_or_refuses (env : Env host) (call : Call Address Symbol)
    (state : State Address Symbol World) :
    (∃ receipt state', Accepts env state call receipt state') ∨
      ∃ failure, invoke env call state = .error failure ∧ Refuses env state call failure := by
  cases h : invoke env call state with
  | ok pair => exact .inl ⟨pair.1, pair.2, invoke_eq_ok_iff.mp h⟩
  | error failure => exact .inr ⟨failure, rfl, refuses_of_invoke_eq_error h⟩

end StellarTip
