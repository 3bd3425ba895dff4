import StellarTip.Contract.Semantics
import StellarTip.Foundation.Program

/-!
# The entry points as programs of host operations

A transaction of the model shows its effect on storage and hides which entries it looked at. Here
the entry points are written once more, statement by statement, as programs that perform the host's
operations. Run with the operations of the plain model they are the entry points again, which is
`run_script`; run with other operations they show what each call reads, writes, creates and extends.
-/

namespace StellarTip

open Foundation

/-- The host functions that the contract calls, with the checks between them. -/
inductive HostOp (Address Symbol : Type) [LinearOrder Address] : Type → Type 1
  | rejectIf (condition : Prop) [Decidable condition] (failure : Failure) : HostOp Address Symbol Unit
  | demand {α : Type} (value : Option α) (failure : Failure) : HostOp Address Symbol α
  | instanceGet (key : DataKey Address Symbol) : HostOp Address Symbol (Option key.Value)
  | instanceHas (key : DataKey Address Symbol) : HostOp Address Symbol Bool
  | instanceSet (key : DataKey Address Symbol) (value : key.Value) : HostOp Address Symbol Unit
  | instanceRemove (key : DataKey Address Symbol) : HostOp Address Symbol Unit
  | persistentGet (key : DataKey Address Symbol) : HostOp Address Symbol (Option key.Value)
  | persistentHas (key : DataKey Address Symbol) : HostOp Address Symbol Bool
  | persistentSet (key : DataKey Address Symbol) (value : key.Value) : HostOp Address Symbol Unit
  | persistentRemove (key : DataKey Address Symbol) : HostOp Address Symbol Unit
  | publish (event : Event Address Symbol) : HostOp Address Symbol Unit
  | tokenTransfer (transfer : Transfer Address) : HostOp Address Symbol Unit
  | extendInstanceTtl : HostOp Address Symbol Unit
  | extendPersistentTtl (key : DataKey Address Symbol) : HostOp Address Symbol Unit

abbrev Script (Address Symbol : Type) [LinearOrder Address] := Program (HostOp Address Symbol)

variable {Address Symbol World : Type} [LinearOrder Address] {host : Host Address World}

/-- The operations of the plain model. -/
def HostOp.perform [DecidableEq Symbol] (host : Host Address World) :
    Handler (HostOp Address Symbol) (Frame Address Symbol World) Failure
  | _, @HostOp.rejectIf _ _ _ condition _ failure => Transaction.rejectIf condition failure
  | _, .demand value failure => Transaction.demand value failure
  | _, .instanceGet key => StellarTip.instanceGet key
  | _, .instanceHas key => StellarTip.instanceHas key
  | _, .instanceSet key value => StellarTip.instanceSet key value
  | _, .instanceRemove key => StellarTip.instanceRemove key
  | _, .persistentGet key => StellarTip.persistentGet key
  | _, .persistentHas key => StellarTip.persistentHas key
  | _, .persistentSet key value => StellarTip.persistentSet key value
  | _, .persistentRemove key => StellarTip.persistentRemove key
  | _, .publish event => StellarTip.publish event
  | _, .tokenTransfer transfer => StellarTip.tokenTransfer host transfer
  | _, .extendInstanceTtl => StellarTip.extendInstanceTtl
  | _, .extendPersistentTtl key => StellarTip.extendPersistentTtl key

namespace Script

abbrev requireAuth (env : Env host) (address : Address) : Script Address Symbol Unit :=
  Program.lift (.rejectIf (env.authorized address = false) .unauthorized)

abbrev panicIf (condition : Prop) [Decidable condition] (error : TipError) :
    Script Address Symbol Unit :=
  Program.lift (.rejectIf condition (.tipError error))

abbrev unwrapOrPanic {α : Type} (value : Option α) (error : TipError) : Script Address Symbol α :=
  Program.lift (.demand value (.tipError error))

abbrev arithmetic {α : Type} (value : Option α) : Script Address Symbol α :=
  Program.lift (.demand value .overflow)

abbrev instanceGet (key : DataKey Address Symbol) : Script Address Symbol (Option key.Value) :=
  Program.lift (.instanceGet key)

abbrev instanceHas (key : DataKey Address Symbol) : Script Address Symbol Bool :=
  Program.lift (.instanceHas key)

abbrev instanceSet (key : DataKey Address Symbol) (value : key.Value) : Script Address Symbol Unit :=
  Program.lift (.instanceSet key value)

abbrev instanceRemove (key : DataKey Address Symbol) : Script Address Symbol Unit :=
  Program.lift (.instanceRemove key)

abbrev persistentGet (key : DataKey Address Symbol) : Script Address Symbol (Option key.Value) :=
  Program.lift (.persistentGet key)

abbrev persistentSet (key : DataKey Address Symbol) (value : key.Value) : Script Address Symbol Unit :=
  Program.lift (.persistentSet key value)

abbrev persistentRemove (key : DataKey Address Symbol) : Script Address Symbol Unit :=
  Program.lift (.persistentRemove key)

abbrev publish (event : Event Address Symbol) : Script Address Symbol Unit :=
  Program.lift (.publish event)

abbrev tokenTransfer (transfer : Transfer Address) : Script Address Symbol Unit :=
  Program.lift (.tokenTransfer transfer)

abbrev extendInstanceTtl : Script Address Symbol Unit := Program.lift .extendInstanceTtl

abbrev extendPersistentTtl (key : DataKey Address Symbol) : Script Address Symbol Unit :=
  Program.lift (.extendPersistentTtl key)

/-- Verify the contract is initialized and not paused. -/
def checkInitializedAndNotPaused : Script Address Symbol Unit := do
  let initialized ← instanceHas .admin
  panicIf (initialized = false) .notInitialized
  let isPaused := (← instanceGet .paused).getD false
  panicIf (isPaused = true) .paused
  extendInstanceTtl

/-- Validate string length constraints. The username of the source's signature is ignored there. -/
def validateInput (displayName bio : HostString) : Script Address Symbol Unit := do
  panicIf (MAX_DISPLAY_NAME_LEN < displayName.length) .invalidInput
  panicIf (MAX_BIO_LEN < bio.length) .invalidInput

variable (env : Env host)

def init (caller feeRecipient : Address) (feeBps maxCreators maxTipsPerCreator : U32)
    (minTipAmount : I128) : Script Address Symbol Unit := do
  requireAuth env caller
  let initialized ← instanceHas .admin
  panicIf (initialized = true) .alreadyInitialized
  panicIf (MAX_FEE_BPS < feeBps) .invalidInput
  panicIf (minTipAmount < 0) .invalidInput
  panicIf (feeRecipient = host.currentContractAddress) .invalidInput
  instanceSet .admin caller
  instanceSet .feeRecipient feeRecipient
  instanceSet .feeBps feeBps
  instanceSet .paused false
  instanceSet .maxCreators maxCreators
  instanceSet .maxTipsPerCreator maxTipsPerCreator
  instanceSet .minTipAmount minTipAmount
  instanceSet .creatorCount 0
  extendInstanceTtl
  publish (.init caller feeRecipient feeBps)

/-- The body shared by the admin setters: authorization, the stored-admin check, the check of the
argument, one write and one event. -/
def setByAdmin (caller : Address) (invalid : Prop) [Decidable invalid]
    (key : DataKey Address Symbol) (value : key.Value) (event : Event Address Symbol) :
    Script Address Symbol Unit := do
  requireAuth env caller
  let admin ← unwrapOrPanic (← instanceGet .admin) .notInitialized
  panicIf (caller ≠ admin) .notAuthorized
  panicIf invalid .invalidInput
  instanceSet key value
  extendInstanceTtl
  publish event

def register (caller : Address) (username : Symbol) (displayName bio : HostString) :
    Script Address Symbol Unit := do
  requireAuth env caller
  checkInitializedAndNotPaused
  validateInput displayName bio
  let registered ← instanceHas (.profile caller)
  panicIf (registered = true) .creatorAlreadyExists
  let taken ← instanceHas (.usernameToAddress username)
  panicIf (taken = true) .usernameTaken
  let maxCreators : U32 := (← instanceGet .maxCreators).getD 0
  let creatorCount : U32 := (← instanceGet .creatorCount).getD 0
  panicIf (0 < maxCreators ∧ maxCreators ≤ creatorCount) .capExceeded
  let profile : CreatorProfile Symbol :=
    { username, displayName, bio, registeredAt := env.timestamp }
  instanceSet (.profile caller) profile
  instanceSet (.usernameToAddress username) caller
  persistentSet (.tipCount caller) (0 : U64)
  extendPersistentTtl (.tipCount caller)
  let nextCount ← arithmetic (creatorCount.checkedAdd 1)
  instanceSet .creatorCount nextCount
  publish (.creatorRegistered caller profile.username profile.registeredAt)

def updateProfile (caller : Address) (displayName bio : HostString) :
    Script Address Symbol Unit := do
  requireAuth env caller
  checkInitializedAndNotPaused
  validateInput displayName bio
  let profile ← unwrapOrPanic (← instanceGet (.profile caller)) .creatorNotFound
  let profile : CreatorProfile Symbol := { profile with displayName, bio }
  instanceSet (.profile caller) profile
  extendInstanceTtl
  publish (.profileUpdated caller profile.username profile.displayName)

/-- The emptiness check of `unregister`: every listed token must have no positive balance, and
then the token set is removed. An absent token set passes. -/
def clearTokens (caller : Address) : Script Address Symbol Unit := do
  match ← persistentGet (.creatorTokens caller) with
  | some tokens =>
      forM tokens.keys fun token ↦ do
        let balance : I128 := (← persistentGet (.balance caller token)).getD 0
        panicIf (0 < balance) .balanceNotEmpty
      persistentRemove (.creatorTokens caller)
  | none => pure ()

/-- The decrement of `unregister`, skipped at zero. -/
def decrementCreatorCount : Script Address Symbol Unit := do
  let currentCount : U32 := (← instanceGet .creatorCount).getD 0
  if 0 < currentCount then
    instanceSet .creatorCount
      (← arithmetic (currentCount.checkedSub 1))
  else pure ()

def unregister (caller : Address) : Script Address Symbol Unit := do
  requireAuth env caller
  checkInitializedAndNotPaused
  let profile ← unwrapOrPanic (← instanceGet (.profile caller)) .creatorNotFound
  clearTokens caller
  persistentRemove (.tipCount caller)
  instanceRemove (.usernameToAddress profile.username)
  instanceRemove (.profile caller)
  decrementCreatorCount
  publish (.creatorUnregistered caller)

/-- Step 2: forward the fee to the recipient. -/
def forwardFee (host : Host Address World) (token : Address) (optFeeRecipient : Option Address)
    (fee : I128) : Script Address Symbol Unit := do
  if 0 < fee then
    let feeRecipient ← unwrapOrPanic optFeeRecipient .feeRecipientNotSet
    tokenTransfer ⟨token, host.currentContractAddress, feeRecipient, fee⟩
  else pure ()

/-- Step 3: credit the creator's internal balance. -/
def creditBalance (creator token : Address) (creatorAmount : I128) :
    Script Address Symbol Unit := do
  let currentBalance : I128 := (← persistentGet (.balance creator token)).getD 0
  let newBalance ← arithmetic (currentBalance.checkedAdd creatorAmount)
  persistentSet (.balance creator token) newBalance
  extendPersistentTtl (.balance creator token)

/-- Step 4: track the token for the creator. -/
def trackToken (creator token : Address) : Script Address Symbol Unit := do
  let tokens : SortedSet Address :=
    (← persistentGet (.creatorTokens creator)).getD SortedSet.empty
  if token ∈ tokens then pure ()
  else persistentSet (.creatorTokens creator) (tokens.insert token)
  extendPersistentTtl (.creatorTokens creator)

/-- Step 5: record the tip under the index read at the start and advance the counter. -/
def recordTip (creator : Address) (index : U64) (tip : Tip Address) :
    Script Address Symbol Unit := do
  persistentSet (.tip creator index) tip
  extendPersistentTtl (.tip creator index)
  let nextIndex ← arithmetic (index.checkedAdd 1)
  persistentSet (.tipCount creator) nextIndex
  extendPersistentTtl (.tipCount creator)

def tip (sender creator token : Address) (amount : I128) (message : HostString) :
    Script Address Symbol U64 := do
  requireAuth env sender
  checkInitializedAndNotPaused
  panicIf (amount ≤ 0) .invalidAmount
  let minTipAmount : I128 := (← instanceGet .minTipAmount).getD 0
  panicIf (0 < minTipAmount ∧ amount < minTipAmount) .belowMinimum
  let registered ← instanceHas (.profile creator)
  panicIf (registered = false) .creatorNotFound
  let maxTips : U32 := (← instanceGet .maxTipsPerCreator).getD 0
  let index : U64 := (← persistentGet (.tipCount creator)).getD 0
  panicIf (0 < maxTips ∧ U32.asU64 maxTips ≤ index) .capExceeded
  let feeBps : U32 := (← instanceGet .feeBps).getD 0
  let product ← arithmetic (amount.checkedMul (U32.asI128 feeBps))
  let fee ← arithmetic (product.checkedDiv (U32.asI128 MAX_FEE_BPS))
  let creatorAmount ← arithmetic (amount.checkedSub fee)
  let optFeeRecipient : Option Address ← instanceGet .feeRecipient
  panicIf (0 < feeBps ∧ optFeeRecipient = none) .feeRecipientNotSet
  tokenTransfer ⟨token, sender, host.currentContractAddress, amount⟩
  forwardFee host token optFeeRecipient fee
  creditBalance creator token creatorAmount
  trackToken creator token
  recordTip creator index { sender, token, amount, message, timestamp := env.timestamp }
  publish (.tipSent sender creator token amount fee index)
  return index

/-- The removal of an emptied token from the token set; the last removal drops the set. -/
def untrackToken (caller token : Address) : Script Address Symbol Unit := do
  let tokens : SortedSet Address :=
    (← persistentGet (.creatorTokens caller)).getD SortedSet.empty
  if token ∈ tokens then
    if (tokens.remove token).isEmpty then persistentRemove (.creatorTokens caller)
    else do
      persistentSet (.creatorTokens caller) (tokens.remove token)
      extendPersistentTtl (.creatorTokens caller)
  else pure ()

/-- The balance update of `withdraw`: rewrite what remains, or drop the entry and the token. -/
def settleBalance (caller token : Address) (remaining : I128) :
    Script Address Symbol Unit := do
  if 0 < remaining then
    persistentSet (.balance caller token) remaining
    extendPersistentTtl (.balance caller token)
    extendPersistentTtl (.creatorTokens caller)
  else
    persistentRemove (.balance caller token)
    untrackToken caller token

def withdraw (caller token : Address) (amount : I128) : Script Address Symbol Unit := do
  requireAuth env caller
  checkInitializedAndNotPaused
  let registered ← instanceHas (.profile caller)
  panicIf (registered = false) .creatorNotFound
  panicIf (amount ≤ 0) .invalidAmount
  let currentBalance : I128 := (← persistentGet (.balance caller token)).getD 0
  panicIf (currentBalance < amount) .insufficientBalance
  tokenTransfer ⟨token, host.currentContractAddress, caller, amount⟩
  let remaining ← arithmetic (currentBalance.checkedSub amount)
  settleBalance caller token remaining
  publish (.withdraw caller token amount)

end Script

variable [DecidableEq Symbol]

/-- The program of a call; the admin setters are configuration writes. -/
def Call.script (env : Env host) (call : Call Address Symbol) : Script Address Symbol (Option U64) :=
  match call.adminChange host with
  | some change => do
      Script.setByAdmin env change.caller (change.invalid = true) change.key change.value change.event
      return none
  | none =>
      match call with
      | .init caller feeRecipient feeBps maxCreators maxTipsPerCreator minTipAmount => do
          Script.init env caller feeRecipient feeBps maxCreators maxTipsPerCreator minTipAmount
          return none
      | .register caller username displayName bio => do
          Script.register env caller username displayName bio
          return none
      | .updateProfile caller displayName bio => do
          Script.updateProfile env caller displayName bio
          return none
      | .unregister caller => do
          Script.unregister env caller
          return none
      | .tip sender creator token amount message => do
          let index ← Script.tip env sender creator token amount message
          return some index
      | .withdraw caller token amount => do
          Script.withdraw env caller token amount
          return none
      | _ => return none

/-! ## The entry points again -/

namespace Script

variable {env : Env host} {caller creator token : Address}

@[simp]
theorem run_checkInitializedAndNotPaused :
    (checkInitializedAndNotPaused : Script Address Symbol Unit).run (HostOp.perform host) =
      StellarTip.checkInitializedAndNotPaused := by
  simp only [checkInitializedAndNotPaused, Program.run_bind, Program.run_lift]
  rfl

@[simp]
theorem run_validateInput (displayName bio : HostString) :
    (validateInput displayName bio : Script Address Symbol Unit).run (HostOp.perform host) =
      StellarTip.validateInput displayName bio := by
  simp only [validateInput, Program.run_bind, Program.run_lift]
  rfl

@[simp]
theorem run_clearTokens :
    (clearTokens caller : Script Address Symbol Unit).run (HostOp.perform host) =
      TipContract.clearTokens caller := by
  unfold clearTokens TipContract.clearTokens
  rw [Program.run_bind, Program.run_lift]
  congr 1
  funext tokens
  cases tokens with
  | none => rfl
  | some tokens =>
    simp only [Program.run_bind, Program.run_lift, Program.run_forM]
    rfl

@[simp]
theorem run_decrementCreatorCount :
    (decrementCreatorCount : Script Address Symbol Unit).run (HostOp.perform host) =
      TipContract.decrementCreatorCount := by
  simp only [decrementCreatorCount, Program.run_bind, Program.run_lift, Program.run_ite,
    Program.run_pure]
  rfl

@[simp]
theorem run_forwardFee (optFeeRecipient : Option Address) (fee : I128) :
    (forwardFee host token optFeeRecipient fee : Script Address Symbol Unit).run (HostOp.perform host) =
      TipContract.forwardFee host token optFeeRecipient fee := by
  simp only [forwardFee, Program.run_bind, Program.run_lift, Program.run_ite, Program.run_pure]
  rfl

@[simp]
theorem run_creditBalance (creatorAmount : I128) :
    (creditBalance creator token creatorAmount : Script Address Symbol Unit).run (HostOp.perform host) =
      TipContract.creditBalance creator token creatorAmount := by
  simp only [creditBalance, Program.run_bind, Program.run_lift]
  rfl

@[simp]
theorem run_trackToken :
    (trackToken creator token : Script Address Symbol Unit).run (HostOp.perform host) =
      TipContract.trackToken creator token := by
  simp only [trackToken, Program.run_bind, Program.run_lift, Program.run_ite]
  rfl

@[simp]
theorem run_recordTip (index : U64) (tip : Tip Address) :
    (recordTip creator index tip : Script Address Symbol Unit).run (HostOp.perform host) =
      TipContract.recordTip creator index tip := by
  simp only [recordTip, Program.run_bind, Program.run_lift]
  rfl

@[simp]
theorem run_untrackToken :
    (untrackToken caller token : Script Address Symbol Unit).run (HostOp.perform host) =
      TipContract.untrackToken caller token := by
  simp only [untrackToken, Program.run_bind, Program.run_lift, Program.run_ite, Program.run_pure]
  rfl

@[simp]
theorem run_settleBalance (remaining : I128) :
    (settleBalance caller token remaining : Script Address Symbol Unit).run (HostOp.perform host) =
      TipContract.settleBalance caller token remaining := by
  simp only [settleBalance, run_untrackToken, Program.run_bind, Program.run_lift, Program.run_ite]
  rfl

@[simp]
theorem run_setByAdmin (invalid : Prop) [Decidable invalid] (key : DataKey Address Symbol)
    (value : key.Value) (event : Event Address Symbol) :
    (setByAdmin env caller invalid key value event).run (HostOp.perform host) =
      TipContract.setByAdmin env caller invalid key value event := by
  simp only [setByAdmin, Program.run_bind, Program.run_lift]
  rfl

end Script

/-- The programs of the calls, run with the operations of the plain model, are the entry points. -/
theorem Call.run_script (env : Env host) (call : Call Address Symbol) :
    (call.script env).run (HostOp.perform host) = call.body env := by
  cases call with
  | init =>
    simp only [script, adminChange, Script.init, Program.run_bind, Program.run_lift,
      Program.run_pure]
    rfl
  | register =>
    simp only [script, adminChange, Script.register, Script.run_checkInitializedAndNotPaused,
      Script.run_validateInput, Program.run_bind, Program.run_lift, Program.run_pure]
    rfl
  | updateProfile =>
    simp only [script, adminChange, Script.updateProfile, Script.run_checkInitializedAndNotPaused,
      Script.run_validateInput, Program.run_bind, Program.run_lift, Program.run_pure]
    rfl
  | unregister =>
    simp only [script, adminChange, Script.unregister, Script.run_checkInitializedAndNotPaused,
      Script.run_clearTokens, Script.run_decrementCreatorCount, Program.run_bind,
      Program.run_lift, Program.run_pure]
    rfl
  | tip =>
    simp only [script, adminChange, Script.tip, Script.run_checkInitializedAndNotPaused,
      Script.run_forwardFee, Script.run_creditBalance, Script.run_trackToken,
      Script.run_recordTip, Program.run_bind, Program.run_lift, Program.run_pure]
    rfl
  | withdraw =>
    simp only [script, adminChange, Script.withdraw, Script.run_checkInitializedAndNotPaused,
      Script.run_settleBalance, Program.run_bind, Program.run_lift, Program.run_pure]
    rfl
  | setAdmin | pause | unpause | setFeePercentage | setFeeRecipient | setMaxCreators
  | setMaxTipsPerCreator | setMinTipAmount =>
    simp only [script, adminChange, Script.run_setByAdmin, Program.run_bind, Program.run_pure,
      decide_eq_true_eq, Bool.false_eq_true]
    rfl

end StellarTip
