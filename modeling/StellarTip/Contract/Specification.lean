import StellarTip.Contract.Entrypoints
import StellarTip.Contract.Effects

/-!
# What a successful run of each entry point does

For each helper and each entry point, the exact condition under which a run succeeds and the frame
it then leaves. Callers reason with these conditions and never unfold an entry point again.
-/

namespace StellarTip

open Foundation Transaction

variable {Address Symbol World : Type} [LinearOrder Address]

/-- What step 2 of `tip` transfers: nothing for a fee of zero, otherwise the fee to the recipient. -/
inductive FeeForwarded (host : Host Address World) (token : Address)
    (optFeeRecipient : Option Address) (fee : I128) (world : World) :
    List (Transfer Address) → World → Prop
  | free (free : fee ≤ 0) : FeeForwarded host token optFeeRecipient fee world [] world
  | paid {recipient : Address} {settled : World} (positive : 0 < fee)
      (configured : optFeeRecipient = some recipient)
      (moved : host.transfer world token host.currentContractAddress recipient fee = .ok settled) :
      FeeForwarded host token optFeeRecipient fee world
        [⟨token, host.currentContractAddress, recipient, fee⟩] settled

/-- The conditions under which a tip of an authorized sender is accepted in a ready contract, with
the amounts, the advanced counter and the token worlds that it computes. -/
structure TipAccepted (host : Host Address World) (storage : Storage Address Symbol) (world : World)
    (sender creator token : Address) (amount fee newBalance : I128) (nextIndex : U64)
    (forwarded : List (Transfer Address)) (settled : World) : Prop where
  positive : 0 < amount
  minimum : 0 < TipContract.getMinTipAmount storage → TipContract.getMinTipAmount storage ≤ amount
  registered : TipContract.isCreator storage creator = true
  below_cap : 0 < TipContract.getMaxTipsPerCreator storage →
    TipContract.getTipCount storage creator <
      U32.asU64 (TipContract.getMaxTipsPerCreator storage)
  product_fits : ∃ product : I128,
    product.val = amount.val * (TipContract.getFeePercentage storage).val
  fee_val : fee.val =
    (amount.val * (TipContract.getFeePercentage storage).val).tdiv MAX_FEE_BPS.val
  remainder_fits : ∃ creatorAmount : I128, creatorAmount.val = amount.val - fee.val
  recipient_set : 0 < TipContract.getFeePercentage storage →
    TipContract.getFeeRecipient storage ≠ none
  moved : ∃ deposited,
    host.transfer world token sender host.currentContractAddress amount = .ok deposited ∧
      FeeForwarded host token (TipContract.getFeeRecipient storage) fee deposited forwarded settled
  newBalance_val : newBalance.val =
    (TipContract.getBalance storage creator token).val + (amount.val - fee.val)
  nextIndex_val : nextIndex.val = (TipContract.getTipCount storage creator).val + 1

/-- The conditions under which a withdrawal of an authorized caller is accepted in a ready
contract. -/
structure WithdrawAccepted (host : Host Address World) (storage : Storage Address Symbol)
    (world : World) (caller token : Address) (amount remaining : I128) (settled : World) :
    Prop where
  registered : TipContract.isCreator storage caller = true
  positive : 0 < amount
  sufficient : amount ≤ TipContract.getBalance storage caller token
  moved : host.transfer world token host.currentContractAddress caller amount = .ok settled
  remaining_val : remaining.val = (TipContract.getBalance storage caller token).val - amount.val
  tokens_present : 0 < remaining →
    storage.persistentTier.has (.creatorTokens caller) = true

section Helpers

variable {host : Host Address World} {frame final : Frame Address Symbol World} {result : Unit}

theorem run_tokenTransfer_eq_ok {transfer : Transfer Address} :
    (tokenTransfer host transfer).run frame = .ok (result, final) ↔
      ∃ world, host.transfer frame.world transfer.token transfer.sender transfer.recipient
          transfer.amount = .ok world ∧
        final = { frame with world, transfers := frame.transfers ++ [transfer] } := by
  simp only [tokenTransfer, StateT.run]
  cases host.transfer frame.world transfer.token transfer.sender transfer.recipient
      transfer.amount <;> simp [eq_comm]

theorem run_extendPersistentTtl_eq_ok {key : DataKey Address Symbol} :
    (extendPersistentTtl key).run frame = .ok (result, final) ↔
      frame.storage.persistentTier.has key = true ∧ final = frame := by
  simp only [extendPersistentTtl, persistentHas, run_bind_eq_ok, run_query_eq_ok,
    run_rejectIf_eq_ok, Bool.not_eq_false, exists_and_left, exists_eq_left, and_assoc]

theorem run_checkInitializedAndNotPaused_eq_ok :
    checkInitializedAndNotPaused.run frame = .ok (result, final) ↔
      frame.storage.Ready ∧ final = frame := by
  simp only [checkInitializedAndNotPaused, instanceHas, instanceGet, panicIf, extendInstanceTtl,
    run_bind_eq_ok, run_query_eq_ok, run_rejectIf_eq_ok, run_pure_eq_ok, Bool.not_eq_false,
    Bool.not_eq_true, exists_and_left, exists_eq_left, and_assoc, exists_const, true_and,
    Storage.Ready, TipContract.isPaused]

theorem run_validateInput_eq_ok {displayName bio : HostString} :
    (validateInput displayName bio).run frame = .ok (result, final) ↔
      displayName.length ≤ MAX_DISPLAY_NAME_LEN ∧ bio.length ≤ MAX_BIO_LEN ∧ final = frame := by
  simp only [validateInput, panicIf, run_bind_eq_ok, run_rejectIf_eq_ok, not_lt, exists_and_left,
    exists_eq_left, and_assoc, exists_const]

namespace TipContract

/-- The check of one token of the loop in `clearTokens`. -/
theorem run_balanceCheck_eq_ok {caller token : Address} :
    (do
      let balance : I128 := (← persistentGet (.balance caller token)).getD 0
      panicIf (0 < balance) .balanceNotEmpty : Contract Address Symbol World Unit).run frame =
        .ok (result, final) ↔
      getBalance frame.storage caller token ≤ 0 ∧ final = frame := by
  simp only [persistentGet, panicIf, run_bind_eq_ok, run_query_eq_ok, run_rejectIf_eq_ok,
    not_lt, exists_and_left, exists_eq_left, and_assoc, getBalance]

variable [DecidableEq Symbol]

theorem run_setByAdmin_eq_ok {env : Env host} {caller : Address} {invalid : Prop}
    [Decidable invalid] {key : DataKey Address Symbol} {value : key.Value}
    {event : Event Address Symbol} :
    (setByAdmin env caller invalid key value event).run frame = .ok (result, final) ↔
      env.authorized caller = true ∧ getAdmin frame.storage = some caller ∧ ¬invalid ∧
        final = { frame with
          storage := frame.storage.setInstance key value
          events := frame.events ++ [event] } := by
  simp only [setByAdmin, requireAuth, panicIf, unwrapOrPanic, instanceGet, instanceSet,
    extendInstanceTtl, publish, run_bind_eq_ok, run_query_eq_ok, run_rejectIf_eq_ok,
    run_demand_eq_ok, run_update_eq_ok, run_pure_eq_ok, Bool.not_eq_false, ne_eq,
    Decidable.not_not, exists_and_left, exists_eq_left, and_assoc, exists_const, true_and, getAdmin]
  constructor
  · rintro ⟨hauth, admin, hadmin, rfl, hvalid, hfinal⟩
    exact ⟨hauth, hadmin, hvalid, hfinal⟩
  · rintro ⟨hauth, hadmin, hvalid, hfinal⟩
    exact ⟨hauth, caller, hadmin, rfl, hvalid, hfinal⟩

theorem run_clearTokens_eq_ok {caller : Address} :
    (clearTokens caller).run frame = .ok (result, final) ↔
      (∀ token ∈ trackedTokens frame.storage caller, getBalance frame.storage caller token ≤ 0) ∧
        final = { frame with
          storage := frame.storage.removePersistent (.creatorTokens caller) } := by
  simp only [clearTokens, run_bind_eq_ok, persistentGet, run_query_eq_ok, exists_and_left,
    exists_eq_left, and_assoc]
  cases hget : frame.storage.persistentTier.get (.creatorTokens caller) with
  | none =>
    have htokens : trackedTokens frame.storage caller = SortedSet.empty := by
      simp [trackedTokens, hget]
    have hremove : frame.storage.removePersistent (.creatorTokens caller) = frame.storage :=
      Storage.ext rfl (KeyedStore.remove_eq_self hget)
    rw [htokens, hremove, run_pure_eq_ok]
    simp
  | some tokens =>
    have hloop (value : PUnit) (mid : Frame Address Symbol World) :
        (forM tokens.keys fun token ↦ do
          let balance : I128 := (← persistentGet (.balance caller token)).getD 0
          panicIf (0 < balance) .balanceNotEmpty :
            Contract Address Symbol World PUnit).run frame = .ok (value, mid) ↔
          (∀ token ∈ tokens.keys, getBalance frame.storage caller token ≤ 0) ∧ mid = frame :=
      run_forM_eq_ok (fun token final ↦ run_balanceCheck_eq_ok) tokens.keys
    simp only [run_bind_eq_ok]
    rw [trackedTokens_of_get hget]
    constructor
    · rintro ⟨value, mid, hcheck, hremove⟩
      obtain ⟨hall, rfl⟩ := (hloop value mid).mp hcheck
      exact ⟨hall, run_update_eq_ok.mp hremove⟩
    · rintro ⟨hall, hfinal⟩
      exact ⟨(), frame, (hloop () frame).mpr ⟨hall, rfl⟩, run_update_eq_ok.mpr hfinal⟩

theorem run_decrementCreatorCount_eq_ok :
    decrementCreatorCount.run frame = .ok (result, final) ↔
      final = { frame with storage := frame.storage.countDecremented } := by
  simp only [decrementCreatorCount, instanceGet, run_bind_eq_ok, run_query_eq_ok,
    exists_and_left, exists_eq_left, and_assoc]
  change (if 0 < getCreatorCount frame.storage then _ else _ :
    Contract Address Symbol World Unit).run frame = _ ↔ _
  have hnonneg := (getCreatorCount frame.storage).lo_le
  unfold Storage.countDecremented
  cases hsub : (getCreatorCount frame.storage).checkedSub 1 with
  | some count =>
    have hcount : count.val = (getCreatorCount frame.storage).val - 1 :=
      BoundedInt.checkedSub_eq_some_iff.mp hsub
    have hpos : 0 < getCreatorCount frame.storage := by
      rw [BoundedInt.lt_def, U32.val_zero]
      have := count.lo_le
      omega
    rw [if_pos hpos]
    simp only [instanceSet, run_bind_eq_ok, arithmetic, run_demand_eq_ok, run_update_eq_ok,
      exists_and_left, and_assoc]
    constructor
    · rintro ⟨value, hvalue, mid, rfl, hfinal⟩
      obtain rfl : count = value := Option.some.inj (hsub.symm.trans hvalue)
      exact hfinal
    · intro hfinal
      exact ⟨count, hsub, frame, rfl, hfinal⟩
  | none =>
    have hzero : ¬0 < getCreatorCount frame.storage := by
      rw [BoundedInt.lt_def, U32.val_zero]
      have hle := (getCreatorCount frame.storage).le_hi
      have hrange : (getCreatorCount frame.storage).val - 1 < 0 ∨
          4294967295 < (getCreatorCount frame.storage).val - 1 :=
        BoundedInt.ofInt?_eq_none_iff.mp hsub
      omega
    rw [if_neg hzero, run_pure_eq_ok]
    simp

omit [DecidableEq Symbol] in
theorem run_forwardFee_eq_ok {token : Address} {optFeeRecipient : Option Address} {fee : I128} :
    (forwardFee host token optFeeRecipient fee).run frame = .ok (result, final) ↔
      ∃ forwarded settled,
        FeeForwarded host token optFeeRecipient fee frame.world forwarded settled ∧
          final = { frame with
            world := settled
            transfers := frame.transfers ++ forwarded } := by
  unfold forwardFee
  split
  · rename_i hpos
    simp only [unwrapOrPanic, run_bind_eq_ok, run_demand_eq_ok, run_tokenTransfer_eq_ok,
      exists_and_left, and_assoc]
    constructor
    · rintro ⟨recipient, hrecipient, mid, rfl, settled, htransfer, hfinal⟩
      exact ⟨_, settled, .paid hpos hrecipient htransfer, hfinal⟩
    · rintro ⟨forwarded, settled, hforward, hfinal⟩
      cases hforward with
      | free hfree => exact absurd hpos (not_lt.mpr hfree)
      | paid _ hrecipient htransfer =>
        exact ⟨_, hrecipient, frame, rfl, settled, htransfer, hfinal⟩
  · rename_i hpos
    rw [run_pure_eq_ok]
    constructor
    · rintro ⟨-, hfinal⟩
      exact ⟨[], frame.world, .free (not_lt.mp hpos), by simpa using hfinal⟩
    · rintro ⟨forwarded, settled, hforward, hfinal⟩
      cases hforward with
      | free _ => exact ⟨rfl, by simpa using hfinal⟩
      | paid h => exact absurd h hpos

theorem run_creditBalance_eq_ok {creator token : Address} {creatorAmount : I128} :
    (creditBalance creator token creatorAmount).run frame = .ok (result, final) ↔
      ∃ newBalance : I128,
        newBalance.val = (getBalance frame.storage creator token).val + creatorAmount.val ∧
        final = { frame with
          storage := frame.storage.setPersistent (.balance creator token) newBalance } := by
  simp only [creditBalance, persistentGet, persistentSet, arithmetic, run_bind_eq_ok,
    run_query_eq_ok, run_demand_eq_ok, run_update_eq_ok, run_extendPersistentTtl_eq_ok,
    BoundedInt.checkedAdd_eq_some_iff, exists_and_left, exists_eq_left, and_assoc, exists_const,
    Storage.persistentTier_setPersistent, KeyedStore.has_set_self, true_and, getBalance]

theorem run_trackToken_eq_ok {creator token : Address} :
    (trackToken creator token).run frame = .ok (result, final) ↔
      final = { frame with storage := frame.storage.tracked creator token } := by
  simp only [trackToken, persistentGet, persistentSet, run_bind_eq_ok, run_query_eq_ok,
    exists_and_left, exists_eq_left, and_assoc]
  split
  · rename_i h
    obtain ⟨tokens, hget, -⟩ := (mem_trackedTokens frame.storage).mp h
    have hhas : frame.storage.persistentTier.has (.creatorTokens creator) = true :=
      KeyedStore.has_iff.mpr ⟨tokens, hget⟩
    rw [Storage.tracked_of_mem h, run_extendPersistentTtl_eq_ok]
    simp only [hhas, true_and]
  · simp only [run_bind_eq_ok, run_update_eq_ok, exists_eq_left, exists_const,
      run_extendPersistentTtl_eq_ok, Storage.persistentTier_setPersistent,
      KeyedStore.has_set_self, true_and]
    rfl

theorem run_recordTip_eq_ok {creator : Address} {index : U64} {tip : Tip Address} :
    (recordTip creator index tip).run frame = .ok (result, final) ↔
      ∃ nextIndex : U64, nextIndex.val = index.val + 1 ∧
        final = { frame with
          storage := (frame.storage.setPersistent (.tip creator index) tip).setPersistent
            (.tipCount creator) nextIndex } := by
  simp only [recordTip, persistentSet, arithmetic, run_bind_eq_ok, run_demand_eq_ok,
    run_update_eq_ok, run_extendPersistentTtl_eq_ok, BoundedInt.checkedAdd_eq_some_iff,
    U64.val_one, exists_and_left, exists_eq_left, and_assoc, exists_const,
    Storage.persistentTier_setPersistent, KeyedStore.has_set_self, true_and]

theorem run_untrackToken_eq_ok {caller token : Address} :
    (untrackToken caller token).run frame = .ok (result, final) ↔
      final = { frame with storage := frame.storage.untracked caller token } := by
  simp only [untrackToken, persistentGet, persistentSet, persistentRemove, run_bind_eq_ok,
    run_query_eq_ok, exists_and_left, exists_eq_left, and_assoc]
  change (if token ∈ trackedTokens frame.storage caller then _ else _ :
    Contract Address Symbol World Unit).run frame = _ ↔ _
  unfold Storage.untracked
  split
  · change (if ((trackedTokens frame.storage caller).remove token).isEmpty = true then _ else _ :
      Contract Address Symbol World Unit).run frame = _ ↔ _
    split
    · simp only [run_update_eq_ok]
    · simp only [run_bind_eq_ok, run_update_eq_ok, exists_eq_left, exists_const,
        run_extendPersistentTtl_eq_ok, Storage.persistentTier_setPersistent,
        KeyedStore.has_set_self, true_and]
      rfl
  · simp only [run_pure_eq_ok, true_and]

theorem run_settleBalance_eq_ok {caller token : Address} {remaining : I128} :
    (settleBalance caller token remaining).run frame = .ok (result, final) ↔
      (0 < remaining → frame.storage.persistentTier.has (.creatorTokens caller) = true) ∧
        final = { frame with
          storage := frame.storage.afterWithdraw caller token remaining } := by
  unfold settleBalance Storage.afterWithdraw
  split
  · rename_i h
    simp only [persistentSet, run_bind_eq_ok, run_update_eq_ok, exists_eq_left, exists_const,
      run_extendPersistentTtl_eq_ok, Storage.persistentTier_setPersistent,
      KeyedStore.has_set_self, true_and, h, forall_const, ne_eq, reduceCtorEq, not_false_eq_true,
      KeyedStore.has_set_of_ne]
  · rename_i h
    simp only [persistentRemove, run_bind_eq_ok, run_update_eq_ok, exists_eq_left, exists_const,
      run_untrackToken_eq_ok, h, false_implies, true_and]

end TipContract

end Helpers

/-! ## Entry points -/

namespace TipContract

variable [DecidableEq Symbol] {host : Host Address World} {env : Env host}
  {frame final : Frame Address Symbol World} {result : Unit}

theorem run_init_eq_ok {caller feeRecipient : Address}
    {feeBps maxCreators maxTipsPerCreator : U32} {minTipAmount : I128} :
    (init env caller feeRecipient feeBps maxCreators maxTipsPerCreator minTipAmount).run frame =
        .ok (result, final) ↔
      env.authorized caller = true ∧ getAdmin frame.storage = none ∧ feeBps ≤ MAX_FEE_BPS ∧
        0 ≤ minTipAmount ∧ feeRecipient ≠ host.currentContractAddress ∧
        final = { frame with
          storage := frame.storage.afterInit caller feeRecipient feeBps maxCreators
            maxTipsPerCreator minTipAmount
          events := frame.events ++ [.init caller feeRecipient feeBps] } := by
  simp only [init, requireAuth, panicIf, instanceHas, instanceSet, extendInstanceTtl, publish,
    run_bind_eq_ok, run_query_eq_ok, run_rejectIf_eq_ok, run_update_eq_ok, run_pure_eq_ok,
    Bool.not_eq_false, KeyedStore.not_has_iff, not_lt, exists_and_left, exists_eq_left, and_assoc,
    exists_const, true_and, getAdmin, Storage.afterInit]

theorem run_register_eq_ok {caller : Address} {username : Symbol} {displayName bio : HostString} :
    (register env caller username displayName bio).run frame = .ok (result, final) ↔
      env.authorized caller = true ∧ frame.storage.Ready ∧
        displayName.length ≤ MAX_DISPLAY_NAME_LEN ∧ bio.length ≤ MAX_BIO_LEN ∧
        getProfile frame.storage caller = none ∧
        getCreatorFromUsername frame.storage username = none ∧
        ¬(0 < getMaxCreators frame.storage ∧
          getMaxCreators frame.storage ≤ getCreatorCount frame.storage) ∧
        ∃ nextCount : U32, nextCount.val = (getCreatorCount frame.storage).val + 1 ∧
          final = { frame with
            storage := frame.storage.afterRegister caller
              { username, displayName, bio, registeredAt := env.timestamp } nextCount
            events := frame.events ++ [.creatorRegistered caller username env.timestamp] } := by
  simp only [register, requireAuth, panicIf, instanceHas, instanceGet, instanceSet, persistentSet,
    publish, arithmetic, run_bind_eq_ok, run_query_eq_ok, run_rejectIf_eq_ok, run_update_eq_ok,
    run_demand_eq_ok, run_checkInitializedAndNotPaused_eq_ok, run_validateInput_eq_ok,
    run_extendPersistentTtl_eq_ok, Bool.not_eq_false, KeyedStore.not_has_iff, exists_and_left,
    exists_eq_left, and_assoc, exists_const, true_and, Storage.persistentTier_setPersistent,
    KeyedStore.has_set_self, BoundedInt.checkedAdd_eq_some_iff]
  rfl

theorem run_updateProfile_eq_ok {caller : Address} {displayName bio : HostString} :
    (updateProfile env caller displayName bio).run frame = .ok (result, final) ↔
      env.authorized caller = true ∧ frame.storage.Ready ∧
        displayName.length ≤ MAX_DISPLAY_NAME_LEN ∧ bio.length ≤ MAX_BIO_LEN ∧
        ∃ profile : CreatorProfile Symbol, getProfile frame.storage caller = some profile ∧
          final = { frame with
            storage := frame.storage.afterUpdateProfile caller { profile with displayName, bio }
            events := frame.events ++ [.profileUpdated caller profile.username displayName] } := by
  simp only [updateProfile, requireAuth, unwrapOrPanic, instanceGet, instanceSet, publish,
    extendInstanceTtl, run_bind_eq_ok, run_query_eq_ok, run_rejectIf_eq_ok, run_update_eq_ok,
    run_demand_eq_ok, run_pure_eq_ok, run_checkInitializedAndNotPaused_eq_ok,
    run_validateInput_eq_ok, Bool.not_eq_false, exists_and_left, exists_eq_left, and_assoc,
    exists_const, true_and]
  rfl

theorem run_unregister_eq_ok {caller : Address} :
    (unregister env caller).run frame = .ok (result, final) ↔
      env.authorized caller = true ∧ frame.storage.Ready ∧
        ∃ profile : CreatorProfile Symbol, getProfile frame.storage caller = some profile ∧
          (∀ token ∈ trackedTokens frame.storage caller,
            getBalance frame.storage caller token ≤ 0) ∧
          final = { frame with
            storage := frame.storage.afterUnregister caller profile
            events := frame.events ++ [.creatorUnregistered caller] } := by
  simp only [unregister, requireAuth, unwrapOrPanic, instanceGet, instanceRemove,
    persistentRemove, publish, run_bind_eq_ok, run_query_eq_ok, run_rejectIf_eq_ok,
    run_update_eq_ok, run_demand_eq_ok, run_checkInitializedAndNotPaused_eq_ok,
    run_clearTokens_eq_ok, run_decrementCreatorCount_eq_ok, Bool.not_eq_false, exists_and_left,
    exists_eq_left, and_assoc, exists_const]
  rfl

theorem run_tip_eq_ok {sender creator token : Address} {amount : I128} {message : HostString}
    {index : U64} :
    (tip env sender creator token amount message).run frame = .ok (index, final) ↔
      env.authorized sender = true ∧ frame.storage.Ready ∧
        index = getTipCount frame.storage creator ∧
        ∃ fee newBalance nextIndex forwarded settled,
          TipAccepted host frame.storage frame.world sender creator token amount fee newBalance
            nextIndex forwarded settled ∧
          final =
            { storage := frame.storage.afterTip creator index nextIndex newBalance
                { sender, token, amount, message, timestamp := env.timestamp }
              world := settled
              events := frame.events ++ [.tipSent sender creator token amount fee index]
              transfers := frame.transfers ++
                ⟨token, sender, host.currentContractAddress, amount⟩ :: forwarded } := by
  simp only [tip, requireAuth, panicIf, instanceHas, instanceGet, persistentGet, publish,
    arithmetic, run_bind_eq_ok, run_query_eq_ok, run_rejectIf_eq_ok, run_update_eq_ok,
    run_demand_eq_ok, run_pure_eq_ok, run_checkInitializedAndNotPaused_eq_ok,
    run_tokenTransfer_eq_ok, run_forwardFee_eq_ok, run_creditBalance_eq_ok,
    run_trackToken_eq_ok, run_recordTip_eq_ok, Bool.not_eq_false, not_le, exists_and_left,
    exists_eq_left, and_assoc, exists_const, BoundedInt.checkedMul_eq_some_iff,
    BoundedInt.checkedDiv_eq_some_iff, BoundedInt.checkedSub_eq_some_iff]
  constructor
  · rintro ⟨hauth, hready, hpos, hmin, hregistered, hcap, product, hproduct, -, fee, hfee,
      creatorAmount, hcreator, hrecipient, -, ⟨deposited, hdeposit, rfl⟩, -,
      ⟨forwarded, settled, hforward, rfl⟩, -, ⟨newBalance, hbalance, rfl⟩, -,
      ⟨nextIndex, hnext, rfl⟩, rfl, rfl⟩
    refine ⟨hauth, hready, rfl, fee, newBalance, nextIndex, forwarded, settled, ?_, ?_⟩
    · exact
        { positive := hpos
          minimum := fun h ↦ not_lt.mp fun hlt ↦ hmin ⟨h, hlt⟩
          registered := hregistered
          below_cap := fun h ↦ not_le.mp fun hle ↦ hcap ⟨h, hle⟩
          product_fits := ⟨product, hproduct⟩
          fee_val := by rw [hfee, hproduct]; rfl
          remainder_fits := ⟨creatorAmount, hcreator⟩
          recipient_set := fun h hnone ↦ hrecipient ⟨h, hnone⟩
          moved := ⟨deposited, hdeposit, hforward⟩
          newBalance_val := by rw [hbalance, hcreator]
          nextIndex_val := hnext }
    · simp only [List.append_assoc, List.singleton_append]
      rfl
  · rintro ⟨hauth, hready, rfl, fee, newBalance, nextIndex, forwarded, settled, haccepted, rfl⟩
    obtain ⟨product, hproduct⟩ := haccepted.product_fits
    obtain ⟨creatorAmount, hcreator⟩ := haccepted.remainder_fits
    obtain ⟨deposited, hdeposit, hforward⟩ := haccepted.moved
    refine ⟨hauth, hready, haccepted.positive, fun h ↦ not_lt.mpr (haccepted.minimum h.1) h.2,
      haccepted.registered, fun h ↦ not_le.mpr (haccepted.below_cap h.1) h.2, product, hproduct,
      by decide, fee, ?_, creatorAmount, hcreator, fun h ↦ haccepted.recipient_set h.1 h.2, _,
      ⟨deposited, hdeposit, rfl⟩, _, ⟨forwarded, settled, hforward, rfl⟩, _,
      ⟨newBalance, ?_, rfl⟩, _, ⟨nextIndex, haccepted.nextIndex_val, rfl⟩, rfl, ?_⟩
    · rw [haccepted.fee_val, hproduct]
      rfl
    · rw [hcreator]
      exact haccepted.newBalance_val
    · simp only [List.append_assoc, List.singleton_append]
      rfl

theorem run_withdraw_eq_ok {caller token : Address} {amount : I128} :
    (withdraw env caller token amount).run frame = .ok (result, final) ↔
      env.authorized caller = true ∧ frame.storage.Ready ∧
        ∃ remaining settled,
          WithdrawAccepted host frame.storage frame.world caller token amount remaining settled ∧
          final =
            { storage := frame.storage.afterWithdraw caller token remaining
              world := settled
              events := frame.events ++ [.withdraw caller token amount]
              transfers := frame.transfers ++
                [⟨token, host.currentContractAddress, caller, amount⟩] } := by
  simp only [withdraw, requireAuth, panicIf, instanceHas, persistentGet, publish, arithmetic,
    run_bind_eq_ok, run_query_eq_ok, run_rejectIf_eq_ok, run_update_eq_ok, run_demand_eq_ok,
    run_checkInitializedAndNotPaused_eq_ok, run_tokenTransfer_eq_ok, run_settleBalance_eq_ok,
    Bool.not_eq_false, not_le, not_lt, exists_and_left, exists_eq_left, and_assoc, exists_const,
    BoundedInt.checkedSub_eq_some_iff]
  constructor
  · rintro ⟨hauth, hready, hregistered, hpos, hsufficient, -, ⟨settled, hmoved, rfl⟩, remaining,
      hremaining, htokens, rfl⟩
    exact ⟨hauth, hready, remaining, settled,
      ⟨hregistered, hpos, hsufficient, hmoved, hremaining, htokens⟩, rfl⟩
  · rintro ⟨hauth, hready, remaining, settled, haccepted, rfl⟩
    exact ⟨hauth, hready, haccepted.registered, haccepted.positive, haccepted.sufficient, _,
      ⟨settled, haccepted.moved, rfl⟩, remaining, haccepted.remaining_val,
      haccepted.tokens_present, rfl⟩

end TipContract

end StellarTip
