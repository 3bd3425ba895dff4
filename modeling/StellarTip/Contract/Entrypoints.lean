import StellarTip.Contract.Host

/-!
# The fourteen state-changing entry points

Each entry point of `impl TipContract` in `src/lib.rs`, statement by statement. The eight admin
setters run the same checks and differ in the key they write, the condition that makes their
argument invalid and the event they publish, so they are instances of `setByAdmin`. The numbered
steps of `tip` and the balance update of `withdraw` are functions of their own.
-/

namespace StellarTip

open Foundation

variable {Address Symbol World : Type} [LinearOrder Address] [DecidableEq Symbol]
  {host : Host Address World}

/-- Verify the contract is initialized and not paused. -/
def checkInitializedAndNotPaused : Contract Address Symbol World Unit := do
  let initialized ← instanceHas .admin
  panicIf (initialized = false) .notInitialized
  let isPaused := (← instanceGet .paused).getD false
  panicIf (isPaused = true) .paused
  extendInstanceTtl

/-- Validate string length constraints. The username of the source's signature is ignored there. -/
def validateInput (displayName bio : HostString) : Contract Address Symbol World Unit := do
  panicIf (MAX_DISPLAY_NAME_LEN < displayName.length) .invalidInput
  panicIf (MAX_BIO_LEN < bio.length) .invalidInput

namespace TipContract

variable (env : Env host)

/-! ## Entry points -/

def init (caller feeRecipient : Address) (feeBps maxCreators maxTipsPerCreator : U32)
    (minTipAmount : I128) : Contract Address Symbol World Unit := do
  requireAuth env caller
  let initialized ← instanceHas .admin
  panicIf (initialized = true) .alreadyInitialized
  panicIf (MAX_FEE_BPS < feeBps) .invalidInput
  panicIf (minTipAmount < 0) .invalidInput
  panicIf (feeRecipient = host.currentContractAddress) .invalidInput
  instanceSet .admin caller
  instanceSet .feeRecipient feeRecipient
  instanceSet .feeBps feeBps
  instanceSet .paused false
  instanceSet .maxCreators maxCreators
  instanceSet .maxTipsPerCreator maxTipsPerCreator
  instanceSet .minTipAmount minTipAmount
  instanceSet .creatorCount 0
  extendInstanceTtl
  publish (.init caller feeRecipient feeBps)

/-- The body shared by the admin setters: authorization, the stored-admin check, the check of the
argument, one write and one event. -/
def setByAdmin (caller : Address) (invalid : Prop) [Decidable invalid]
    (key : DataKey Address Symbol) (value : key.Value) (event : Event Address Symbol) :
    Contract Address Symbol World Unit := do
  requireAuth env caller
  let admin ← unwrapOrPanic (← instanceGet .admin) .notInitialized
  panicIf (caller ≠ admin) .notAuthorized
  panicIf invalid .invalidInput
  instanceSet key value
  extendInstanceTtl
  publish event

/-- The string form of the Stellar all-zero account. -/
def ZERO_ADDRESS : String := "GAAAAAAAAAAAAAAAAAAAAAAAAAAAAAAAAAAAAAAAAAAAAAAAAAAAAWHF"

def setAdmin (caller newAdmin : Address) : Contract Address Symbol World Unit :=
  setByAdmin env caller (newAdmin = caller ∨ newAdmin = host.addressFromString ZERO_ADDRESS)
    .admin newAdmin (.adminChanged caller newAdmin)

def pause (caller : Address) : Contract Address Symbol World Unit :=
  setByAdmin env caller False .paused true (.paused caller)

def unpause (caller : Address) : Contract Address Symbol World Unit :=
  setByAdmin env caller False .paused false (.unpaused caller)

def setFeePercentage (caller : Address) (feeBps : U32) : Contract Address Symbol World Unit :=
  setByAdmin env caller (MAX_FEE_BPS < feeBps) .feeBps feeBps (.feeChanged caller feeBps)

def setFeeRecipient (caller feeRecipient : Address) : Contract Address Symbol World Unit :=
  setByAdmin env caller (feeRecipient = host.currentContractAddress) .feeRecipient feeRecipient
    (.feeRecipientChanged caller feeRecipient)

def setMaxCreators (caller : Address) (maxCreators : U32) : Contract Address Symbol World Unit :=
  setByAdmin env caller False .maxCreators maxCreators (.maxCreatorsChanged caller maxCreators)

def setMaxTipsPerCreator (caller : Address) (maxTips : U32) :
    Contract Address Symbol World Unit :=
  setByAdmin env caller False .maxTipsPerCreator maxTips (.maxTipsChanged caller maxTips)

def setMinTipAmount (caller : Address) (minTipAmount : I128) :
    Contract Address Symbol World Unit :=
  setByAdmin env caller (minTipAmount < 0) .minTipAmount minTipAmount
    (.minTipChanged caller minTipAmount)

def register (caller : Address) (username : Symbol) (displayName bio : HostString) :
    Contract Address Symbol World Unit := do
  requireAuth env caller
  checkInitializedAndNotPaused
  validateInput displayName bio
  let registered ← instanceHas (.profile caller)
  panicIf (registered = true) .creatorAlreadyExists
  let taken ← instanceHas (.usernameToAddress username)
  panicIf (taken = true) .usernameTaken
  let maxCreators : U32 := (← instanceGet .maxCreators).getD 0
  let creatorCount : U32 := (← instanceGet .creatorCount).getD 0
  panicIf (0 < maxCreators ∧ maxCreators ≤ creatorCount) .capExceeded
  let profile : CreatorProfile Symbol :=
    { username, displayName, bio, registeredAt := env.timestamp }
  instanceSet (.profile caller) profile
  instanceSet (.usernameToAddress username) caller
  persistentSet (.tipCount caller) (0 : U64)
  extendPersistentTtl (.tipCount caller)
  let nextCount ← arithmetic (creatorCount.checkedAdd 1)
  instanceSet .creatorCount nextCount
  publish (.creatorRegistered caller profile.username profile.registeredAt)

def updateProfile (caller : Address) (displayName bio : HostString) :
    Contract Address Symbol World Unit := do
  requireAuth env caller
  checkInitializedAndNotPaused
  validateInput displayName bio
  let profile ← unwrapOrPanic (← instanceGet (.profile caller)) .creatorNotFound
  let profile : CreatorProfile Symbol := { profile with displayName, bio }
  instanceSet (.profile caller) profile
  extendInstanceTtl
  publish (.profileUpdated caller profile.username profile.displayName)

/-- The emptiness check of `unregister`: every listed token must have no positive balance, and
then the token set is removed. An absent token set passes. -/
def clearTokens (caller : Address) : Contract Address Symbol World Unit := do
  match ← persistentGet (.creatorTokens caller) with
  | some tokens =>
      forM tokens.keys fun token ↦ do
        let balance : I128 := (← persistentGet (.balance caller token)).getD 0
        panicIf (0 < balance) .balanceNotEmpty
      persistentRemove (.creatorTokens caller)
  | none => pure ()

/-- The decrement of `unregister`, skipped at zero. -/
def decrementCreatorCount : Contract Address Symbol World Unit := do
  let currentCount : U32 := (← instanceGet .creatorCount).getD 0
  if 0 < currentCount then
    instanceSet .creatorCount
      (← arithmetic (currentCount.checkedSub 1))
  else pure ()

def unregister (caller : Address) : Contract Address Symbol World Unit := do
  requireAuth env caller
  checkInitializedAndNotPaused
  let profile ← unwrapOrPanic (← instanceGet (.profile caller)) .creatorNotFound
  clearTokens caller
  persistentRemove (.tipCount caller)
  instanceRemove (.usernameToAddress profile.username)
  instanceRemove (.profile caller)
  decrementCreatorCount
  publish (.creatorUnregistered caller)

/-- Step 2: forward the fee to the recipient. -/
def forwardFee (host : Host Address World) (token : Address) (optFeeRecipient : Option Address)
    (fee : I128) : Contract Address Symbol World Unit := do
  if 0 < fee then
    let feeRecipient ← unwrapOrPanic optFeeRecipient .feeRecipientNotSet
    tokenTransfer host ⟨token, host.currentContractAddress, feeRecipient, fee⟩
  else pure ()

/-- Step 3: credit the creator's internal balance. -/
def creditBalance (creator token : Address) (creatorAmount : I128) :
    Contract Address Symbol World Unit := do
  let currentBalance : I128 := (← persistentGet (.balance creator token)).getD 0
  let newBalance ← arithmetic (currentBalance.checkedAdd creatorAmount)
  persistentSet (.balance creator token) newBalance
  extendPersistentTtl (.balance creator token)

/-- Step 4: track the token for the creator. -/
def trackToken (creator token : Address) : Contract Address Symbol World Unit := do
  let tokens : SortedSet Address :=
    (← persistentGet (.creatorTokens creator)).getD SortedSet.empty
  if token ∈ tokens then pure ()
  else persistentSet (.creatorTokens creator) (tokens.insert token)
  extendPersistentTtl (.creatorTokens creator)

/-- Step 5: record the tip under the index read at the start and advance the counter. -/
def recordTip (creator : Address) (index : U64) (tip : Tip Address) :
    Contract Address Symbol World Unit := do
  persistentSet (.tip creator index) tip
  extendPersistentTtl (.tip creator index)
  let nextIndex ← arithmetic (index.checkedAdd 1)
  persistentSet (.tipCount creator) nextIndex
  extendPersistentTtl (.tipCount creator)

def tip (sender creator token : Address) (amount : I128) (message : HostString) :
    Contract Address Symbol World U64 := do
  requireAuth env sender
  checkInitializedAndNotPaused
  panicIf (amount ≤ 0) .invalidAmount
  let minTipAmount : I128 := (← instanceGet .minTipAmount).getD 0
  panicIf (0 < minTipAmount ∧ amount < minTipAmount) .belowMinimum
  let registered ← instanceHas (.profile creator)
  panicIf (registered = false) .creatorNotFound
  let maxTips : U32 := (← instanceGet .maxTipsPerCreator).getD 0
  let index : U64 := (← persistentGet (.tipCount creator)).getD 0
  panicIf (0 < maxTips ∧ U32.asU64 maxTips ≤ index) .capExceeded
  let feeBps : U32 := (← instanceGet .feeBps).getD 0
  let product ← arithmetic (amount.checkedMul (U32.asI128 feeBps))
  let fee ← arithmetic (product.checkedDiv (U32.asI128 MAX_FEE_BPS))
  let creatorAmount ← arithmetic (amount.checkedSub fee)
  let optFeeRecipient : Option Address ← instanceGet .feeRecipient
  panicIf (0 < feeBps ∧ optFeeRecipient = none) .feeRecipientNotSet
  tokenTransfer host ⟨token, sender, host.currentContractAddress, amount⟩
  forwardFee host token optFeeRecipient fee
  creditBalance creator token creatorAmount
  trackToken creator token
  recordTip creator index { sender, token, amount, message, timestamp := env.timestamp }
  publish (.tipSent sender creator token amount fee index)
  return index

/-- The removal of an emptied token from the token set; the last removal drops the set. -/
def untrackToken (caller token : Address) : Contract Address Symbol World Unit := do
  let tokens : SortedSet Address :=
    (← persistentGet (.creatorTokens caller)).getD SortedSet.empty
  if token ∈ tokens then
    if (tokens.remove token).isEmpty then persistentRemove (.creatorTokens caller)
    else do
      persistentSet (.creatorTokens caller) (tokens.remove token)
      extendPersistentTtl (.creatorTokens caller)
  else pure ()

/-- The balance update of `withdraw`: rewrite what remains, or drop the entry and the token. -/
def settleBalance (caller token : Address) (remaining : I128) :
    Contract Address Symbol World Unit := do
  if 0 < remaining then
    persistentSet (.balance caller token) remaining
    extendPersistentTtl (.balance caller token)
    extendPersistentTtl (.creatorTokens caller)
  else
    persistentRemove (.balance caller token)
    untrackToken caller token

def withdraw (caller token : Address) (amount : I128) : Contract Address Symbol World Unit := do
  requireAuth env caller
  checkInitializedAndNotPaused
  let registered ← instanceHas (.profile caller)
  panicIf (registered = false) .creatorNotFound
  panicIf (amount ≤ 0) .invalidAmount
  let currentBalance : I128 := (← persistentGet (.balance caller token)).getD 0
  panicIf (currentBalance < amount) .insufficientBalance
  tokenTransfer host ⟨token, host.currentContractAddress, caller, amount⟩
  let remaining ← arithmetic (currentBalance.checkedSub amount)
  settleBalance caller token remaining
  publish (.withdraw caller token amount)

end TipContract

end StellarTip
