import StellarTip.Lifetime.Ledger

/-!
# The accesses of accepted calls

For each entry point, the accesses that an accepted call makes, in order, as a function of the storage
before it. The rules for single operations compose along the statements of the program, so the trail
of a call is read off its source.
-/

namespace StellarTip

open Foundation Transaction

variable {Address Symbol World : Type} [LinearOrder Address] [DecidableEq Symbol]
  {host : Host Address World}

omit [DecidableEq Symbol] in
/-- Something is kept exactly when less than the balance is withdrawn. -/
theorem WithdrawAccepted.lt_iff_pos {storage : Storage Address Symbol} {world settled : World}
    {caller token : Address} {amount remaining : I128}
    (h : WithdrawAccepted host storage world caller token amount remaining settled) :
    amount < TipContract.getBalance storage caller token ↔ 0 < remaining := by
  rw [BoundedInt.lt_def, BoundedInt.lt_def, h.remaining_val]
  exact Int.sub_pos.symm

namespace Storage

variable (storage : Storage Address Symbol) {key other : DataKey Address Symbol}

@[simp]
theorem touched_setPersistent_of_ne (h : other ≠ key) (value : key.Value) :
    (storage.setPersistent key value).touched other = storage.touched other := by
  simp [touched, h]

@[simp]
theorem touched_removePersistent_of_ne (h : other ≠ key) :
    (storage.removePersistent key).touched other = storage.touched other := by
  simp [touched, h]

@[simp]
theorem written_setPersistent_of_ne (h : other ≠ key) (value : key.Value) :
    (storage.setPersistent key value).written other = storage.written other := by
  simp [written, h]

@[simp]
theorem written_removePersistent_of_ne (h : other ≠ key) :
    (storage.removePersistent key).written other = storage.written other := by
  simp [written, h]

omit [DecidableEq Symbol] in
theorem touched_of_get_eq_none (h : storage.persistentTier.get key = none) :
    storage.touched key = [] :=
  if_neg (KeyedStore.not_has_iff.mpr h)

open TipContract

theorem trackedTokens_removePersistent_balance (caller token : Address) :
    trackedTokens (storage.removePersistent (.balance caller token)) caller =
      trackedTokens storage caller := by
  simp [trackedTokens]

/-- A write that is followed by an extension. -/
def renewal (key : DataKey Address Symbol) : List (Access Address Symbol) :=
  [storage.written key, .extend (.data key)]

/-- Step 4 of `tip`. -/
def tracking (creator token : Address) : List (Access Address Symbol) :=
  storage.touched (.creatorTokens creator) ++
    ((if token ∈ trackedTokens storage creator then []
      else [storage.written (.creatorTokens creator)]) ++
    [.extend (.data (.creatorTokens creator))])

/-- The removal of an emptied token from the token set. -/
def untracking (caller token : Address) : List (Access Address Symbol) :=
  storage.touched (.creatorTokens caller) ++
    if token ∈ trackedTokens storage caller then
      if ((trackedTokens storage caller).remove token).isEmpty then
        storage.touched (.creatorTokens caller)
      else storage.renewal (.creatorTokens caller)
    else []

/-- The balance update of `withdraw`, where something is kept or everything is paid out. -/
def settling (caller token : Address) (kept : Bool) : List (Access Address Symbol) :=
  if kept then
    storage.renewal (.balance caller token) ++ [.extend (.data (.creatorTokens caller))]
  else storage.touched (.balance caller token) ++ storage.untracking caller token

/-- The emptiness check of `unregister` with the removal of the token set. -/
def clearing (caller : Address) : List (Access Address Symbol) :=
  storage.touched (.creatorTokens caller) ++
    ((trackedTokens storage caller).keys.flatMap
      (fun token ↦ storage.touched (.balance caller token)) ++
    storage.touched (.creatorTokens caller))

/-- What an accepted call does to the persistent entries, and to the instance a second time. -/
def accesses : Call Address Symbol → List (Access Address Symbol)
  | .register caller .. => storage.renewal (.tipCount caller)
  | .updateProfile .. => [.extend .contractInstance]
  | .unregister caller => storage.clearing caller ++ storage.touched (.tipCount caller)
  | .tip _ creator token _ _ =>
      storage.touched (.tipCount creator) ++
        (storage.touched (.balance creator token) ++ storage.renewal (.balance creator token) ++
        (storage.tracking creator token ++
        (storage.renewal (.tip creator (getTipCount storage creator)) ++
        storage.renewal (.tipCount creator))))
  | .withdraw caller token amount =>
      storage.touched (.balance caller token) ++
        storage.settling caller token (amount < getBalance storage caller token)
  | _ => []

end Storage

namespace Script

/-- A successful run of a script with its accesses, its value and the frame that it leaves. -/
abbrev Traced {α : Type} (host : Host Address World) (script : Script Address Symbol α)
    (frame : Frame Address Symbol World) (trail : List (Access Address Symbol)) (value : α)
    (final : Frame Address Symbol World) : Prop :=
  Program.Traced (HostOp.perform host) HostOp.accesses script frame trail value final

/-- The accesses of a script, run from a frame. -/
abbrev trail {α : Type} (host : Host Address World) (script : Script Address Symbol α)
    (frame : Frame Address Symbol World) : List (Access Address Symbol) :=
  Program.trail (HostOp.perform host) HostOp.accesses script frame

variable {env : Env host} {frame : Frame Address Symbol World} {α : Type}
  {key : DataKey Address Symbol}

theorem traced_requireAuth {address : Address} (h : env.authorized address = true) :
    Traced host (requireAuth env address) frame [] () frame :=
  .lift (run_rejectIf_of_not (Bool.not_eq_false _ ▸ h))

theorem traced_panicIf {condition : Prop} [Decidable condition] {error : TipError}
    (h : ¬condition) : Traced host (panicIf condition error) frame [] () frame :=
  .lift (run_rejectIf_of_not h)

theorem traced_unwrapOrPanic {value : Option α} {result : α} {error : TipError}
    (h : value = some result) : Traced host (unwrapOrPanic value error) frame [] result frame :=
  .lift (run_demand_eq_ok.mpr ⟨h, rfl⟩)

theorem traced_arithmetic {value : Option α} {result : α} (h : value = some result) :
    Traced host (arithmetic value) frame [] result frame :=
  .lift (run_demand_eq_ok.mpr ⟨h, rfl⟩)

theorem traced_instanceGet :
    Traced host (instanceGet key) frame [] (frame.storage.instanceTier.get key) frame := .lift rfl

theorem traced_instanceHas :
    Traced host (instanceHas key) frame [] (frame.storage.instanceTier.has key) frame := .lift rfl

theorem traced_instanceSet {value : key.Value} :
    Traced host (instanceSet key value) frame [] ()
      { frame with storage := frame.storage.setInstance key value } := .lift rfl

theorem traced_instanceRemove :
    Traced host (instanceRemove key) frame [] ()
      { frame with storage := frame.storage.removeInstance key } := .lift rfl

theorem traced_persistentGet :
    Traced host (persistentGet key) frame (frame.storage.touched key)
      (frame.storage.persistentTier.get key) frame := .lift rfl

theorem traced_persistentSet {value : key.Value} :
    Traced host (persistentSet key value) frame [frame.storage.written key] ()
      { frame with storage := frame.storage.setPersistent key value } := .lift rfl

theorem traced_persistentRemove :
    Traced host (persistentRemove key) frame (frame.storage.touched key) ()
      { frame with storage := frame.storage.removePersistent key } := .lift rfl

theorem traced_publish {event : Event Address Symbol} :
    Traced host (publish event) frame [] () { frame with events := frame.events ++ [event] } :=
  .lift rfl

theorem traced_tokenTransfer {transfer : Transfer Address} {world : World}
    (h : host.transfer frame.world transfer.token transfer.sender transfer.recipient
      transfer.amount = .ok world) :
    Traced host (tokenTransfer transfer) frame [] ()
      { frame with world, transfers := frame.transfers ++ [transfer] } :=
  .lift (run_tokenTransfer_eq_ok.mpr ⟨world, h, rfl⟩)

theorem traced_extendInstanceTtl :
    Traced host extendInstanceTtl frame [.extend .contractInstance] () frame := .lift rfl

theorem traced_extendPersistentTtl (h : frame.storage.persistentTier.has key = true) :
    Traced host (extendPersistentTtl key) frame [.extend (.data key)] () frame where
  run := (congrFun (Program.run_lift _) frame).trans (run_extendPersistentTtl_eq_ok.mpr ⟨h, rfl⟩)
  trail := (Program.trail_lift _).trans (if_pos h)

theorem traced_checkInitializedAndNotPaused (h : frame.storage.Ready) :
    Traced host checkInitializedAndNotPaused frame [.extend .contractInstance] () frame := by
  refine .silent traced_instanceHas (.silent (traced_panicIf ?_) ?_)
  · simp [h.1]
  refine .silent traced_instanceGet (.silent (traced_panicIf ?_) traced_extendInstanceTtl)
  exact Bool.eq_false_iff.mp h.2

theorem traced_validateInput {displayName bio : HostString}
    (hname : displayName.length ≤ MAX_DISPLAY_NAME_LEN) (hbio : bio.length ≤ MAX_BIO_LEN) :
    Traced host (validateInput displayName bio) frame [] () frame :=
  .silent (traced_panicIf (not_lt.mpr hname)) (traced_panicIf (not_lt.mpr hbio))

variable {caller creator token : Address}

open TipContract in
/-- The check of one token of the loop in `clearTokens`. -/
theorem traced_balanceCheck (h : getBalance frame.storage caller token ≤ 0) :
    Traced host (do
      let balance : I128 := (← persistentGet (.balance caller token)).getD 0
      panicIf (0 < balance) .balanceNotEmpty : Script Address Symbol PUnit) frame
      (frame.storage.touched (.balance caller token)) PUnit.unit frame := by
  rw [← List.append_nil (frame.storage.touched _)]
  exact .bind traced_persistentGet (traced_panicIf (not_lt.mpr h))

open TipContract in
theorem traced_clearTokens (h : ∀ token ∈ trackedTokens frame.storage caller,
      getBalance frame.storage caller token ≤ 0) :
    Traced host (clearTokens caller) frame (frame.storage.clearing caller) ()
      { frame with storage := frame.storage.removePersistent (.creatorTokens caller) } := by
  refine .bind traced_persistentGet ?_
  cases hget : frame.storage.persistentTier.get (.creatorTokens caller) with
  | none =>
    have htokens : trackedTokens frame.storage caller = SortedSet.empty := by
      simp [trackedTokens, hget]
    have hremove : frame.storage.removePersistent (.creatorTokens caller) = frame.storage :=
      Storage.ext rfl (KeyedStore.remove_eq_self hget)
    rw [htokens, frame.storage.touched_of_get_eq_none hget, hremove]
    exact .pure ()
  | some tokens =>
    rw [trackedTokens_of_get hget] at h ⊢
    exact .bind (.forM fun token htoken ↦ traced_balanceCheck (h token htoken))
      traced_persistentRemove

theorem traced_decrementCreatorCount :
    Traced host decrementCreatorCount frame [] ()
      { frame with storage := frame.storage.countDecremented } where
  run := by
    rw [run_decrementCreatorCount]
    exact TipContract.run_decrementCreatorCount_eq_ok.mpr rfl
  trail := by
    change Program.trail (HostOp.perform host) HostOp.accesses (if 0 < _ then _ else _) frame = []
    split
    · rw [Program.trail_bind, Program.trail_lift]
      cases Program.run (HostOp.perform host) (arithmetic _) |>.run frame with
      | error failure => rfl
      | ok pair => exact Program.trail_lift _
    · rfl

theorem traced_forwardFee {optFeeRecipient : Option Address} {fee : I128}
    {forwarded : List (Transfer Address)} {settled : World}
    (h : FeeForwarded host token optFeeRecipient fee frame.world forwarded settled) :
    Traced host (forwardFee host token optFeeRecipient fee) frame [] ()
      { frame with world := settled, transfers := frame.transfers ++ forwarded } := by
  unfold forwardFee
  cases h with
  | free hfree =>
    rw [if_neg (not_lt.mpr hfree), List.append_nil]
    exact .pure ()
  | paid hpositive hconfigured hmoved =>
    rw [if_pos hpositive]
    exact .silent (traced_unwrapOrPanic hconfigured) (traced_tokenTransfer hmoved)

theorem traced_renewal {value : key.Value} :
    Traced host (do
      persistentSet key value
      extendPersistentTtl key) frame (frame.storage.renewal key) ()
      { frame with storage := frame.storage.setPersistent key value } :=
  .cons traced_persistentSet (traced_extendPersistentTtl (KeyedStore.has_set_self _ _ _))

open TipContract in
theorem traced_creditBalance {creatorAmount : I128} (newBalance : I128)
    (h : newBalance.val = (getBalance frame.storage creator token).val + creatorAmount.val) :
    Traced host (creditBalance creator token creatorAmount) frame
      (frame.storage.touched (.balance creator token) ++
        frame.storage.renewal (.balance creator token)) ()
      { frame with storage := frame.storage.setPersistent (.balance creator token) newBalance } := by
  refine .bind traced_persistentGet ?_
  exact .silent (traced_arithmetic (BoundedInt.checkedAdd_eq_some_iff.mpr h)) traced_renewal

open TipContract in
theorem traced_trackToken :
    Traced host (trackToken creator token) frame (frame.storage.tracking creator token) ()
      { frame with storage := frame.storage.tracked creator token } := by
  refine .bind traced_persistentGet ?_
  change Traced host (if token ∈ trackedTokens frame.storage creator then _ else _) _ _ _ _
  by_cases hmem : token ∈ trackedTokens frame.storage creator
  · obtain ⟨tokens, hget, -⟩ := (mem_trackedTokens frame.storage).mp hmem
    rw [if_pos hmem, if_pos hmem, Storage.tracked_of_mem hmem]
    exact traced_extendPersistentTtl (KeyedStore.has_iff.mpr ⟨tokens, hget⟩)
  · rw [if_neg hmem, if_neg hmem]
    exact traced_renewal

theorem traced_recordTip {index nextIndex : U64} {tip : Tip Address}
    (h : nextIndex.val = index.val + 1) :
    Traced host (recordTip creator index tip) frame
      (frame.storage.renewal (.tip creator index) ++ frame.storage.renewal (.tipCount creator)) ()
      { frame with
        storage := (frame.storage.setPersistent (.tip creator index) tip).setPersistent
          (.tipCount creator) nextIndex } := by
  have hcount : (frame.storage.setPersistent (.tip creator index) tip).renewal (.tipCount creator) =
      frame.storage.renewal (.tipCount creator) := by
    simp [Storage.renewal]
  rw [← hcount]
  refine .cons traced_persistentSet ?_
  refine .cons (traced_extendPersistentTtl (KeyedStore.has_set_self _ _ _)) ?_
  exact .silent (traced_arithmetic (BoundedInt.checkedAdd_eq_some_iff.mpr h)) traced_renewal

open TipContract in
theorem traced_untrackToken :
    Traced host (untrackToken caller token) frame (frame.storage.untracking caller token) ()
      { frame with storage := frame.storage.untracked caller token } := by
  refine .bind traced_persistentGet ?_
  change Traced host (if token ∈ trackedTokens frame.storage caller then
    if ((trackedTokens frame.storage caller).remove token).isEmpty = true then _ else _ else _) _ _ _ _
  unfold Storage.untracked
  split
  · split
    · exact traced_persistentRemove
    · exact traced_renewal
  · exact .pure ()

theorem traced_settleBalance {remaining : I128}
    (h : 0 < remaining → frame.storage.persistentTier.has (.creatorTokens caller) = true) :
    Traced host (settleBalance caller token remaining) frame
      (frame.storage.settling caller token (0 < remaining)) ()
      { frame with storage := frame.storage.afterWithdraw caller token remaining } := by
  unfold settleBalance Storage.afterWithdraw Storage.settling
  simp only [decide_eq_true_eq]
  split
  · rename_i hpositive
    refine .cons traced_persistentSet ?_
    refine .cons (traced_extendPersistentTtl (KeyedStore.has_set_self _ _ _)) ?_
    exact traced_extendPersistentTtl (by simpa using h hpositive)
  · have htokens := frame.storage.trackedTokens_removePersistent_balance caller token
    have huntracking : (frame.storage.removePersistent (.balance caller token)).untracking caller
        token = frame.storage.untracking caller token := by
      unfold Storage.untracking Storage.renewal
      rw [htokens]
      simp
    rw [← huntracking]
    exact .bind traced_persistentRemove traced_untrackToken

theorem traced_setByAdmin {invalid : Prop} [Decidable invalid] {value : key.Value}
    {event : Event Address Symbol} (hauth : env.authorized caller = true)
    (hadmin : TipContract.getAdmin frame.storage = some caller) (hvalid : ¬invalid) :
    Traced host (setByAdmin env caller invalid key value event) frame
      [.extend .contractInstance] ()
      { frame with
        storage := frame.storage.setInstance key value
        events := frame.events ++ [event] } := by
  refine .silent (traced_requireAuth hauth) (.silent traced_instanceGet ?_)
  refine .silent (traced_unwrapOrPanic hadmin) (.silent (traced_panicIf (not_not.mpr rfl)) ?_)
  refine .silent (traced_panicIf hvalid) (.silent traced_instanceSet ?_)
  exact .cons traced_extendInstanceTtl traced_publish

/-! ## Entry points -/

open TipContract

variable {final : Frame Address Symbol World} {amount : I128} {displayName bio : HostString}

theorem trail_init {feeRecipient : Address} {feeBps maxCreators maxTipsPerCreator : U32}
    {minTipAmount : I128} (h : (TipContract.init env caller feeRecipient feeBps maxCreators
      maxTipsPerCreator minTipAmount).run frame = .ok ((), final)) :
    trail host (init env caller feeRecipient feeBps maxCreators maxTipsPerCreator minTipAmount)
      frame = [.extend .contractInstance] := by
  obtain ⟨hauth, hfresh, hfee, hminimum, hrecipient, -⟩ := run_init_eq_ok.mp h
  refine (traced_requireAuth hauth).trail_silent (traced_instanceHas.trail_silent ?_)
  refine (traced_panicIf (KeyedStore.not_has_iff.mpr hfresh)).trail_silent ?_
  refine (traced_panicIf (not_lt.mpr hfee)).trail_silent ?_
  refine (traced_panicIf (not_lt.mpr hminimum)).trail_silent ?_
  refine (traced_panicIf hrecipient).trail_silent ?_
  iterate 8 refine traced_instanceSet.trail_silent ?_
  exact traced_extendInstanceTtl.trail_cons traced_publish.trail

theorem trail_register {username : Symbol}
    (h : (TipContract.register env caller username displayName bio).run frame = .ok ((), final)) :
    trail host (register env caller username displayName bio) frame =
      .extend .contractInstance :: frame.storage.renewal (.tipCount caller) := by
  obtain ⟨hauth, hready, hname, hbio, hunregistered, hfree, hcap, nextCount, hcount, -⟩ :=
    run_register_eq_ok.mp h
  refine (traced_requireAuth hauth).trail_silent ?_
  refine (traced_checkInitializedAndNotPaused hready).trail_cons ?_
  refine (traced_validateInput hname hbio).trail_silent (traced_instanceHas.trail_silent ?_)
  refine (traced_panicIf (KeyedStore.not_has_iff.mpr hunregistered)).trail_silent ?_
  refine traced_instanceHas.trail_silent ?_
  refine (traced_panicIf (KeyedStore.not_has_iff.mpr hfree)).trail_silent ?_
  refine traced_instanceGet.trail_silent (traced_instanceGet.trail_silent ?_)
  refine (traced_panicIf hcap).trail_silent ?_
  refine traced_instanceSet.trail_silent (traced_instanceSet.trail_silent ?_)
  refine traced_persistentSet.trail_cons ?_
  refine (traced_extendPersistentTtl (KeyedStore.has_set_self _ _ _)).trail_cons ?_
  refine (traced_arithmetic (BoundedInt.checkedAdd_eq_some_iff.mpr hcount)).trail_silent ?_
  exact traced_instanceSet.trail_silent traced_publish.trail

theorem trail_updateProfile
    (h : (TipContract.updateProfile env caller displayName bio).run frame = .ok ((), final)) :
    trail host (updateProfile env caller displayName bio) frame =
      [.extend .contractInstance, .extend .contractInstance] := by
  obtain ⟨hauth, hready, hname, hbio, profile, hregistered, -⟩ := run_updateProfile_eq_ok.mp h
  refine (traced_requireAuth hauth).trail_silent ?_
  refine (traced_checkInitializedAndNotPaused hready).trail_cons ?_
  refine (traced_validateInput hname hbio).trail_silent (traced_instanceGet.trail_silent ?_)
  refine (traced_unwrapOrPanic hregistered).trail_silent (traced_instanceSet.trail_silent ?_)
  exact traced_extendInstanceTtl.trail_cons traced_publish.trail

theorem trail_unregister (h : (TipContract.unregister env caller).run frame = .ok ((), final)) :
    trail host (unregister env caller) frame =
      .extend .contractInstance ::
        (frame.storage.clearing caller ++ frame.storage.touched (.tipCount caller)) := by
  obtain ⟨hauth, hready, profile, hregistered, hemptied, -⟩ := run_unregister_eq_ok.mp h
  have hcount : (frame.storage.removePersistent (.creatorTokens caller)).touched (.tipCount caller) =
      frame.storage.touched (.tipCount caller) := by
    simp
  refine (traced_requireAuth hauth).trail_silent ?_
  refine (traced_checkInitializedAndNotPaused hready).trail_cons ?_
  refine traced_instanceGet.trail_silent ((traced_unwrapOrPanic hregistered).trail_silent ?_)
  refine (traced_clearTokens hemptied).trail_append ?_
  rw [← hcount, ← List.append_nil (Storage.touched _ (.tipCount caller))]
  refine traced_persistentRemove.trail_append ?_
  refine traced_instanceRemove.trail_silent (traced_instanceRemove.trail_silent ?_)
  exact traced_decrementCreatorCount.trail_silent traced_publish.trail

theorem trail_tip {sender : Address} {message : HostString} {index : U64}
    (h : (TipContract.tip env sender creator token amount message).run frame =
      .ok (index, final)) :
    trail host (tip env sender creator token amount message) frame =
      .extend .contractInstance ::
        frame.storage.accesses (.tip sender creator token amount message) := by
  obtain ⟨hauth, hready, rfl, fee, newBalance, nextIndex, forwarded, settled, haccepted, -⟩ :=
    run_tip_eq_ok.mp h
  obtain ⟨product, hproduct⟩ := haccepted.product_fits
  obtain ⟨creatorAmount, hcreator⟩ := haccepted.remainder_fits
  obtain ⟨deposited, hdeposit, hforward⟩ := haccepted.moved
  have hfee : (U32.asI128 MAX_FEE_BPS).val ≠ 0 ∧
      fee.val = product.val.tdiv (U32.asI128 MAX_FEE_BPS).val := by
    rw [hproduct]
    exact ⟨by decide, haccepted.fee_val⟩
  have hbalance : newBalance.val =
      (getBalance frame.storage creator token).val + creatorAmount.val := by
    rw [hcreator, haccepted.newBalance_val]
  let credited := frame.storage.setPersistent (.balance creator token) newBalance
  have htracking : credited.tracking creator token = frame.storage.tracking creator token := by
    have htokens : trackedTokens credited creator = trackedTokens frame.storage creator := by
      simp [credited, trackedTokens]
    unfold Storage.tracking
    rw [htokens]
    simp [credited]
  have hrecording : (credited.tracked creator token).renewal
      (.tip creator (getTipCount frame.storage creator)) ++
        (credited.tracked creator token).renewal (.tipCount creator) =
      frame.storage.renewal (.tip creator (getTipCount frame.storage creator)) ++
        frame.storage.renewal (.tipCount creator) := by
    simp [credited, Storage.tracked, Storage.renewal]
  refine (traced_requireAuth hauth).trail_silent ?_
  refine (traced_checkInitializedAndNotPaused hready).trail_cons ?_
  refine (traced_panicIf (not_le.mpr haccepted.positive)).trail_silent ?_
  refine traced_instanceGet.trail_silent ?_
  refine (traced_panicIf fun h ↦ not_lt.mpr (haccepted.minimum h.1) h.2).trail_silent ?_
  refine traced_instanceHas.trail_silent ?_
  refine (traced_panicIf (Bool.not_eq_false _ ▸ haccepted.registered)).trail_silent ?_
  refine traced_instanceGet.trail_silent (traced_persistentGet.trail_append ?_)
  refine (traced_panicIf fun h ↦ not_le.mpr (haccepted.below_cap h.1) h.2).trail_silent ?_
  refine traced_instanceGet.trail_silent ?_
  refine (traced_arithmetic (BoundedInt.checkedMul_eq_some_iff.mpr hproduct)).trail_silent ?_
  refine (traced_arithmetic (BoundedInt.checkedDiv_eq_some_iff.mpr hfee)).trail_silent ?_
  refine (traced_arithmetic (BoundedInt.checkedSub_eq_some_iff.mpr hcreator)).trail_silent ?_
  refine traced_instanceGet.trail_silent ?_
  refine (traced_panicIf fun h ↦ haccepted.recipient_set h.1 h.2).trail_silent ?_
  refine (traced_tokenTransfer hdeposit).trail_silent ?_
  refine (traced_forwardFee hforward).trail_silent ?_
  refine (traced_creditBalance newBalance ?_).trail_append ?_
  · exact hbalance
  rw [← htracking, ← hrecording]
  refine traced_trackToken.trail_append ?_
  rw [← List.append_nil (Storage.renewal _ (.tip ..) ++ _)]
  exact (traced_recordTip haccepted.nextIndex_val).trail_append
    ((Program.trail_returning _ _).trans traced_publish.trail)

theorem trail_withdraw
    (h : (TipContract.withdraw env caller token amount).run frame = .ok ((), final)) :
    trail host (withdraw env caller token amount) frame =
      .extend .contractInstance :: frame.storage.accesses (.withdraw caller token amount) := by
  obtain ⟨hauth, hready, remaining, settled, haccepted, -⟩ := run_withdraw_eq_ok.mp h
  refine (traced_requireAuth hauth).trail_silent ?_
  refine (traced_checkInitializedAndNotPaused hready).trail_cons ?_
  refine traced_instanceHas.trail_silent ?_
  refine (traced_panicIf (Bool.not_eq_false _ ▸ haccepted.registered)).trail_silent ?_
  refine (traced_panicIf (not_le.mpr haccepted.positive)).trail_silent ?_
  refine traced_persistentGet.trail_append ?_
  refine (traced_panicIf (not_lt.mpr haccepted.sufficient)).trail_silent ?_
  refine (traced_tokenTransfer haccepted.moved).trail_silent ?_
  refine (traced_arithmetic
    (BoundedInt.checkedSub_eq_some_iff.mpr haccepted.remaining_val)).trail_silent ?_
  rw [decide_eq_decide.mpr haccepted.lt_iff_pos, ← List.append_nil (Storage.settling ..)]
  refine (traced_settleBalance ?_).trail_append traced_publish.trail
  exact haccepted.tokens_present

end Script

open TipContract

variable {env : Env host} {call : Call Address Symbol} {state state' : State Address Symbol World}
  {receipt : Receipt Address Symbol}

/-- What an accepted call does to the ledger entries: the instance is needed and extended, then the
entry point has its own accesses. -/
theorem Accepts.trail_eq (h : Accepts env state call receipt state') :
    call.trail env state =
      .touch .contractInstance :: .extend .contractInstance :: state.storage.accesses call := by
  unfold Call.trail
  congr 1
  cases h with
  | @configure call change setter authorized admin valid =>
    have hvalid : ¬change.invalid = true := by simp [valid]
    have hscript : call.script env = do
        Script.setByAdmin env change.caller (change.invalid = true) change.key change.value
          change.event
        return none := by
      simp only [Call.script, setter]
    have haccesses : state.storage.accesses call = [] := by
      cases call <;> first | rfl | cases setter
    rw [hscript, haccesses, Program.trail_returning]
    exact (Script.traced_setByAdmin authorized admin hvalid).trail
  | init authorized fresh feeBps_le minTip_nonneg recipient_ne =>
    exact (Program.trail_returning _ _).trans (Script.trail_init (run_init_eq_ok.mpr
      ⟨authorized, fresh, feeBps_le, minTip_nonneg, recipient_ne, rfl⟩))
  | register authorized ready displayName_le bio_le unregistered username_free below_cap
      nextCount_val =>
    exact (Program.trail_returning _ _).trans (Script.trail_register (run_register_eq_ok.mpr
      ⟨authorized, ready, displayName_le, bio_le, unregistered, username_free, below_cap, _,
        nextCount_val, rfl⟩))
  | updateProfile authorized ready displayName_le bio_le registered =>
    exact (Program.trail_returning _ _).trans (Script.trail_updateProfile
      (run_updateProfile_eq_ok.mpr ⟨authorized, ready, displayName_le, bio_le, _, registered, rfl⟩))
  | unregister authorized ready registered emptied =>
    exact (Program.trail_returning _ _).trans (Script.trail_unregister (run_unregister_eq_ok.mpr
      ⟨authorized, ready, _, registered, emptied, rfl⟩))
  | tip authorized ready accepted =>
    exact (Program.trail_returning _ _).trans (Script.trail_tip (run_tip_eq_ok.mpr
      ⟨authorized, ready, rfl, _, _, _, _, _, accepted, rfl⟩))
  | withdraw authorized ready accepted =>
    exact (Program.trail_returning _ _).trans (Script.trail_withdraw (run_withdraw_eq_ok.mpr
      ⟨authorized, ready, _, _, accepted, rfl⟩))

end StellarTip
