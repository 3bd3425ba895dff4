import StellarTip.Contract.Specification

/-!
# Calls and their outcomes

A call names an entry point with its arguments; `invoke` runs it atomically on the stored state.
The relation `Accepts` lists, once for all, what an accepted call may look like: seven shapes, of
which `configure` covers the eight admin setters. `invoke_eq_ok_iff` states that it says exactly
when a call succeeds and what it then does, so every property of the contract is proved by cases on
`Accepts`.
-/

namespace StellarTip

open Foundation Transaction TipContract

variable {Address Symbol World : Type} [LinearOrder Address]

/-- The state-changing entry points with their arguments. -/
inductive Call (Address Symbol : Type) where
  | init (caller feeRecipient : Address) (feeBps maxCreators maxTipsPerCreator : U32)
      (minTipAmount : I128)
  | setAdmin (caller newAdmin : Address)
  | pause (caller : Address)
  | unpause (caller : Address)
  | setFeePercentage (caller : Address) (feeBps : U32)
  | setFeeRecipient (caller feeRecipient : Address)
  | setMaxCreators (caller : Address) (maxCreators : U32)
  | setMaxTipsPerCreator (caller : Address) (maxTips : U32)
  | setMinTipAmount (caller : Address) (minTipAmount : I128)
  | register (caller : Address) (username : Symbol) (displayName bio : HostString)
  | updateProfile (caller : Address) (displayName bio : HostString)
  | unregister (caller : Address)
  | tip (sender creator token : Address) (amount : I128) (message : HostString)
  | withdraw (caller token : Address) (amount : I128)
  deriving DecidableEq

/-- What an accepted call hands back: the returned value of `tip`, the published events and the
issued token transfers. -/
structure Receipt (Address Symbol : Type) where
  returned : Option U64
  events : List (Event Address Symbol)
  transfers : List (Transfer Address)
  deriving DecidableEq

/-- The contract's storage together with the token world around it. -/
structure State (Address Symbol World : Type) [LinearOrder Address] where
  storage : Storage Address Symbol
  world : World

/-- One configuration write of the admin: the arguments of `TipContract.setByAdmin`. -/
structure AdminChange (Address Symbol : Type) [LinearOrder Address] where
  caller : Address
  invalid : Bool
  key : DataKey Address Symbol
  value : key.Value
  event : Event Address Symbol
  isConfig : key.IsConfig

/-- The admin setters as configuration writes. -/
def Call.adminChange (host : Host Address World) :
    Call Address Symbol → Option (AdminChange Address Symbol)
  | .setAdmin caller newAdmin =>
      some ⟨caller, decide (newAdmin = caller ∨ newAdmin = host.addressFromString ZERO_ADDRESS),
        .admin, newAdmin, .adminChanged caller newAdmin, trivial⟩
  | .pause caller => some ⟨caller, false, .paused, true, .paused caller, trivial⟩
  | .unpause caller => some ⟨caller, false, .paused, false, .unpaused caller, trivial⟩
  | .setFeePercentage caller feeBps =>
      some ⟨caller, decide (MAX_FEE_BPS < feeBps), .feeBps, feeBps, .feeChanged caller feeBps,
        trivial⟩
  | .setFeeRecipient caller feeRecipient =>
      some ⟨caller, decide (feeRecipient = host.currentContractAddress), .feeRecipient,
        feeRecipient, .feeRecipientChanged caller feeRecipient, trivial⟩
  | .setMaxCreators caller maxCreators =>
      some ⟨caller, false, .maxCreators, maxCreators, .maxCreatorsChanged caller maxCreators,
        trivial⟩
  | .setMaxTipsPerCreator caller maxTips =>
      some ⟨caller, false, .maxTipsPerCreator, maxTips, .maxTipsChanged caller maxTips, trivial⟩
  | .setMinTipAmount caller minTipAmount =>
      some ⟨caller, decide (minTipAmount < 0), .minTipAmount, minTipAmount,
        .minTipChanged caller minTipAmount, trivial⟩
  | _ => none

variable [DecidableEq Symbol] {host : Host Address World}

/-- The body of the called entry point; only `tip` returns a value. -/
def Call.body (env : Env host) : Call Address Symbol → Contract Address Symbol World (Option U64)
  | .init caller feeRecipient feeBps maxCreators maxTipsPerCreator minTipAmount => do
      TipContract.init env caller feeRecipient feeBps maxCreators maxTipsPerCreator minTipAmount
      return none
  | .setAdmin caller newAdmin => do
      TipContract.setAdmin env caller newAdmin
      return none
  | .pause caller => do
      TipContract.pause env caller
      return none
  | .unpause caller => do
      TipContract.unpause env caller
      return none
  | .setFeePercentage caller feeBps => do
      TipContract.setFeePercentage env caller feeBps
      return none
  | .setFeeRecipient caller feeRecipient => do
      TipContract.setFeeRecipient env caller feeRecipient
      return none
  | .setMaxCreators caller maxCreators => do
      TipContract.setMaxCreators env caller maxCreators
      return none
  | .setMaxTipsPerCreator caller maxTips => do
      TipContract.setMaxTipsPerCreator env caller maxTips
      return none
  | .setMinTipAmount caller minTipAmount => do
      TipContract.setMinTipAmount env caller minTipAmount
      return none
  | .register caller username displayName bio => do
      TipContract.register env caller username displayName bio
      return none
  | .updateProfile caller displayName bio => do
      TipContract.updateProfile env caller displayName bio
      return none
  | .unregister caller => do
      TipContract.unregister env caller
      return none
  | .tip sender creator token amount message => do
      let index ← TipContract.tip env sender creator token amount message
      return some index
  | .withdraw caller token amount => do
      TipContract.withdraw env caller token amount
      return none

/-- An atomic invocation: a failure leaves no receipt and no state. -/
def invoke (env : Env host) (call : Call Address Symbol) (state : State Address Symbol World) :
    Except Failure (Receipt Address Symbol × State Address Symbol World) :=
  match (call.body env).run ⟨state.storage, state.world, [], []⟩ with
  | .ok (returned, final) =>
      .ok (⟨returned, final.events, final.transfers⟩, ⟨final.storage, final.world⟩)
  | .error failure => .error failure

/-! ## Accepted calls -/

/-- What an accepted call requires and does. -/
inductive Accepts (env : Env host) (state : State Address Symbol World) :
    Call Address Symbol → Receipt Address Symbol → State Address Symbol World → Prop
  | init {caller feeRecipient : Address} {feeBps maxCreators maxTipsPerCreator : U32}
      {minTipAmount : I128}
      (authorized : env.authorized caller = true)
      (fresh : getAdmin state.storage = none)
      (feeBps_le : feeBps ≤ MAX_FEE_BPS)
      (minTip_nonneg : 0 ≤ minTipAmount)
      (recipient_ne : feeRecipient ≠ host.currentContractAddress) :
      Accepts env state
        (.init caller feeRecipient feeBps maxCreators maxTipsPerCreator minTipAmount)
        ⟨none, [.init caller feeRecipient feeBps], []⟩
        ⟨state.storage.afterInit caller feeRecipient feeBps maxCreators maxTipsPerCreator
          minTipAmount, state.world⟩
  | configure {call : Call Address Symbol} {change : AdminChange Address Symbol}
      (setter : call.adminChange host = some change)
      (authorized : env.authorized change.caller = true)
      (admin : getAdmin state.storage = some change.caller)
      (valid : change.invalid = false) :
      Accepts env state call ⟨none, [change.event], []⟩
        ⟨state.storage.setInstance change.key change.value, state.world⟩
  | register {caller : Address} {username : Symbol} {displayName bio : HostString} {nextCount : U32}
      (authorized : env.authorized caller = true)
      (ready : state.storage.Ready)
      (displayName_le : displayName.length ≤ MAX_DISPLAY_NAME_LEN)
      (bio_le : bio.length ≤ MAX_BIO_LEN)
      (unregistered : getProfile state.storage caller = none)
      (username_free : getCreatorFromUsername state.storage username = none)
      (below_cap : ¬(0 < getMaxCreators state.storage ∧
        getMaxCreators state.storage ≤ getCreatorCount state.storage))
      (nextCount_val : nextCount.val = (getCreatorCount state.storage).val + 1) :
      Accepts env state (.register caller username displayName bio)
        ⟨none, [.creatorRegistered caller username env.timestamp], []⟩
        ⟨state.storage.afterRegister caller
          { username, displayName, bio, registeredAt := env.timestamp } nextCount, state.world⟩
  | updateProfile {caller : Address} {displayName bio : HostString}
      {profile : CreatorProfile Symbol}
      (authorized : env.authorized caller = true)
      (ready : state.storage.Ready)
      (displayName_le : displayName.length ≤ MAX_DISPLAY_NAME_LEN)
      (bio_le : bio.length ≤ MAX_BIO_LEN)
      (registered : getProfile state.storage caller = some profile) :
      Accepts env state (.updateProfile caller displayName bio)
        ⟨none, [.profileUpdated caller profile.username displayName], []⟩
        ⟨state.storage.afterUpdateProfile caller { profile with displayName, bio }, state.world⟩
  | unregister {caller : Address} {profile : CreatorProfile Symbol}
      (authorized : env.authorized caller = true)
      (ready : state.storage.Ready)
      (registered : getProfile state.storage caller = some profile)
      (emptied : ∀ token ∈ trackedTokens state.storage caller,
        getBalance state.storage caller token ≤ 0) :
      Accepts env state (.unregister caller) ⟨none, [.creatorUnregistered caller], []⟩
        ⟨state.storage.afterUnregister caller profile, state.world⟩
  | tip {sender creator token : Address} {amount fee newBalance : I128} {message : HostString}
      {nextIndex : U64} {forwarded : List (Transfer Address)} {settled : World}
      (authorized : env.authorized sender = true)
      (ready : state.storage.Ready)
      (accepted : TipAccepted host state.storage state.world sender creator token amount fee
        newBalance nextIndex forwarded settled) :
      Accepts env state (.tip sender creator token amount message)
        ⟨some (getTipCount state.storage creator),
          [.tipSent sender creator token amount fee (getTipCount state.storage creator)],
          ⟨token, sender, host.currentContractAddress, amount⟩ :: forwarded⟩
        ⟨state.storage.afterTip creator (getTipCount state.storage creator) nextIndex newBalance
          { sender, token, amount, message, timestamp := env.timestamp }, settled⟩
  | withdraw {caller token : Address} {amount remaining : I128} {settled : World}
      (authorized : env.authorized caller = true)
      (ready : state.storage.Ready)
      (accepted : WithdrawAccepted host state.storage state.world caller token amount remaining
        settled) :
      Accepts env state (.withdraw caller token amount)
        ⟨none, [.withdraw caller token amount],
          [⟨token, host.currentContractAddress, caller, amount⟩]⟩
        ⟨state.storage.afterWithdraw caller token remaining, settled⟩

variable {env : Env host} {call : Call Address Symbol} {state state' : State Address Symbol World}
  {receipt : Receipt Address Symbol}

/-- The receipt and the state after are read off the final frame. -/
theorem invoke_eq_ok_iff_run :
    invoke env call state = .ok (receipt, state') ↔
      ∃ returned final, (call.body env).run ⟨state.storage, state.world, [], []⟩ =
          .ok (returned, final) ∧
        receipt = ⟨returned, final.events, final.transfers⟩ ∧
        state' = ⟨final.storage, final.world⟩ := by
  unfold invoke
  cases (call.body env).run ⟨state.storage, state.world, [], []⟩ with
  | error failure => simp
  | ok pair =>
    constructor
    · rintro ⟨⟩
      exact ⟨_, _, rfl, rfl, rfl⟩
    · rintro ⟨returned, final, ⟨⟩, rfl, rfl⟩
      rfl

/-- A body that returns nothing, run from the start of an invocation. -/
theorem invoke_eq_ok_iff_of_unit {body : Contract Address Symbol World Unit}
    (hbody : call.body env = do
      body
      return none) :
    invoke env call state = .ok (receipt, state') ↔
      ∃ final, body.run ⟨state.storage, state.world, [], []⟩ = .ok ((), final) ∧
        receipt = ⟨none, final.events, final.transfers⟩ ∧
        state' = ⟨final.storage, final.world⟩ := by
  rw [invoke_eq_ok_iff_run, hbody]
  simp only [run_bind_eq_ok, run_pure_eq_ok]
  constructor
  · rintro ⟨returned, final, ⟨⟨⟩, mid, hrun, rfl, rfl⟩, rfl, rfl⟩
    exact ⟨_, hrun, rfl, rfl⟩
  · rintro ⟨final, hrun, rfl, rfl⟩
    exact ⟨none, final, ⟨(), final, hrun, rfl, rfl⟩, rfl, rfl⟩

/-- A setter whose run is that of `setByAdmin` is accepted as a configuration write. -/
theorem invoke_eq_ok_iff_of_setter {change : AdminChange Address Symbol}
    {body : Contract Address Symbol World Unit} (hchange : call.adminChange host = some change)
    (hbody : call.body env = do
      body
      return none)
    (hrun : ∀ frame final, body.run frame = .ok ((), final) ↔
      env.authorized change.caller = true ∧ getAdmin frame.storage = some change.caller ∧
        change.invalid = false ∧
        final = { frame with
          storage := frame.storage.setInstance change.key change.value
          events := frame.events ++ [change.event] }) :
    invoke env call state = .ok (receipt, state') ↔ Accepts env state call receipt state' := by
  rw [invoke_eq_ok_iff_of_unit hbody]
  simp only [hrun]
  constructor
  · rintro ⟨final, ⟨hauth, hadmin, hvalid, rfl⟩, rfl, rfl⟩
    exact .configure hchange hauth hadmin hvalid
  · intro h
    cases h with
    | configure setter authorized admin valid =>
      obtain rfl : _ = change := Option.some.inj (setter.symm.trans hchange)
      exact ⟨_, ⟨authorized, admin, valid, rfl⟩, rfl, rfl⟩
    | init => cases hchange
    | register => cases hchange
    | updateProfile => cases hchange
    | unregister => cases hchange
    | tip => cases hchange
    | withdraw => cases hchange

theorem invoke_eq_ok_iff :
    invoke env call state = .ok (receipt, state') ↔ Accepts env state call receipt state' := by
  cases call with
  | init caller feeRecipient feeBps maxCreators maxTipsPerCreator minTipAmount =>
    rw [invoke_eq_ok_iff_of_unit rfl]
    simp only [run_init_eq_ok]
    constructor
    · rintro ⟨final, ⟨hauth, hfresh, hfee, hmin, hrecipient, rfl⟩, rfl, rfl⟩
      exact .init hauth hfresh hfee hmin hrecipient
    · intro h
      cases h with
      | init authorized fresh feeBps_le minTip_nonneg recipient_ne =>
        exact ⟨_, ⟨authorized, fresh, feeBps_le, minTip_nonneg, recipient_ne, rfl⟩, rfl, rfl⟩
      | configure setter => cases setter
  | setAdmin caller newAdmin =>
    exact invoke_eq_ok_iff_of_setter rfl rfl fun frame final ↦ by
      simp only [setAdmin, run_setByAdmin_eq_ok, decide_eq_false_iff_not]
  | pause caller =>
    exact invoke_eq_ok_iff_of_setter rfl rfl fun frame final ↦ by
      simp only [pause, run_setByAdmin_eq_ok, not_false_eq_true]
  | unpause caller =>
    exact invoke_eq_ok_iff_of_setter rfl rfl fun frame final ↦ by
      simp only [unpause, run_setByAdmin_eq_ok, not_false_eq_true]
  | setFeePercentage caller feeBps =>
    exact invoke_eq_ok_iff_of_setter rfl rfl fun frame final ↦ by
      simp only [setFeePercentage, run_setByAdmin_eq_ok, decide_eq_false_iff_not]
  | setFeeRecipient caller feeRecipient =>
    exact invoke_eq_ok_iff_of_setter rfl rfl fun frame final ↦ by
      simp only [setFeeRecipient, run_setByAdmin_eq_ok, decide_eq_false_iff_not]
  | setMaxCreators caller maxCreators =>
    exact invoke_eq_ok_iff_of_setter rfl rfl fun frame final ↦ by
      simp only [setMaxCreators, run_setByAdmin_eq_ok, not_false_eq_true]
  | setMaxTipsPerCreator caller maxTips =>
    exact invoke_eq_ok_iff_of_setter rfl rfl fun frame final ↦ by
      simp only [setMaxTipsPerCreator, run_setByAdmin_eq_ok, not_false_eq_true]
  | setMinTipAmount caller minTipAmount =>
    exact invoke_eq_ok_iff_of_setter rfl rfl fun frame final ↦ by
      simp only [setMinTipAmount, run_setByAdmin_eq_ok, decide_eq_false_iff_not]
  | register caller username displayName bio =>
    rw [invoke_eq_ok_iff_of_unit rfl]
    simp only [run_register_eq_ok]
    constructor
    · rintro ⟨final, ⟨hauth, hready, hname, hbio, hprofile, hfree, hcap, nextCount, hnext, rfl⟩, rfl, rfl⟩
      exact .register hauth hready hname hbio hprofile hfree hcap hnext
    · intro h
      cases h with
      | register authorized ready displayName_le bio_le unregistered username_free below_cap
          nextCount_val =>
        exact ⟨_, ⟨authorized, ready, displayName_le, bio_le, unregistered, username_free,
          below_cap, _, nextCount_val, rfl⟩, rfl, rfl⟩
      | configure setter => cases setter
  | updateProfile caller displayName bio =>
    rw [invoke_eq_ok_iff_of_unit rfl]
    simp only [run_updateProfile_eq_ok]
    constructor
    · rintro ⟨final, ⟨hauth, hready, hname, hbio, profile, hprofile, rfl⟩, rfl, rfl⟩
      exact .updateProfile hauth hready hname hbio hprofile
    · intro h
      cases h with
      | updateProfile authorized ready displayName_le bio_le registered =>
        exact ⟨_, ⟨authorized, ready, displayName_le, bio_le, _, registered, rfl⟩, rfl, rfl⟩
      | configure setter => cases setter
  | unregister caller =>
    rw [invoke_eq_ok_iff_of_unit rfl]
    simp only [run_unregister_eq_ok]
    constructor
    · rintro ⟨final, ⟨hauth, hready, profile, hprofile, hemptied, rfl⟩, rfl, rfl⟩
      exact .unregister hauth hready hprofile hemptied
    · intro h
      cases h with
      | unregister authorized ready registered emptied =>
        exact ⟨_, ⟨authorized, ready, _, registered, emptied, rfl⟩, rfl, rfl⟩
      | configure setter => cases setter
  | tip sender creator token amount message =>
    rw [invoke_eq_ok_iff_run, Call.body]
    simp only [run_bind_eq_ok, run_pure_eq_ok, run_tip_eq_ok]
    constructor
    · rintro ⟨returned, final, ⟨index, mid, ⟨hauth, hready, rfl, fee, newBalance, nextIndex,
        forwarded, settled, haccepted, rfl⟩, rfl, rfl⟩, rfl, rfl⟩
      exact .tip hauth hready haccepted
    · intro h
      cases h with
      | tip authorized ready accepted =>
        exact ⟨_, _, ⟨_, _, ⟨authorized, ready, rfl, _, _, _, _, _, accepted, rfl⟩, rfl, rfl⟩,
          rfl, rfl⟩
      | configure setter => cases setter
  | withdraw caller token amount =>
    rw [invoke_eq_ok_iff_of_unit rfl]
    simp only [run_withdraw_eq_ok]
    constructor
    · rintro ⟨final, ⟨hauth, hready, remaining, settled, haccepted, rfl⟩, rfl, rfl⟩
      exact .withdraw hauth hready haccepted
    · intro h
      cases h with
      | withdraw authorized ready accepted =>
        exact ⟨_, ⟨authorized, ready, _, _, accepted, rfl⟩, rfl, rfl⟩
      | configure setter => cases setter

/-- An accepted setter makes its one write. -/
theorem Accepts.eq_of_setter {change : AdminChange Address Symbol}
    (h : Accepts env state call receipt state') (setter : call.adminChange host = some change) :
    state' = ⟨state.storage.setInstance change.key change.value, state.world⟩ := by
  cases h with
  | configure setter' => rw [Option.some.inj (setter.symm.trans setter')]
  | _ => cases setter

section Inversion

variable {sender creator token caller : Address} {amount : I128} {message : HostString}

theorem Accepts.of_unregister (h : Accepts env state (.unregister caller) receipt state') :
    env.authorized caller = true ∧ ∃ profile, getProfile state.storage caller = some profile ∧
      (∀ token ∈ trackedTokens state.storage caller, getBalance state.storage caller token ≤ 0) ∧
      receipt = ⟨none, [.creatorUnregistered caller], []⟩ ∧
      state' = ⟨state.storage.afterUnregister caller profile, state.world⟩ := by
  cases h with
  | unregister authorized _ registered emptied =>
    exact ⟨authorized, _, registered, emptied, rfl, rfl⟩
  | configure setter => cases setter

theorem Accepts.of_tip
    (h : Accepts env state (.tip sender creator token amount message) receipt state') :
    env.authorized sender = true ∧ ∃ fee newBalance nextIndex forwarded settled,
      TipAccepted host state.storage state.world sender creator token amount fee newBalance
        nextIndex forwarded settled ∧
      receipt = ⟨some (getTipCount state.storage creator),
        [.tipSent sender creator token amount fee (getTipCount state.storage creator)],
        ⟨token, sender, host.currentContractAddress, amount⟩ :: forwarded⟩ ∧
      state' = ⟨state.storage.afterTip creator (getTipCount state.storage creator) nextIndex
        newBalance { sender, token, amount, message, timestamp := env.timestamp }, settled⟩ := by
  cases h with
  | tip authorized _ accepted => exact ⟨authorized, _, _, _, _, _, accepted, rfl, rfl⟩
  | configure setter => cases setter

theorem Accepts.of_withdraw (h : Accepts env state (.withdraw caller token amount) receipt state') :
    env.authorized caller = true ∧ ∃ remaining settled,
      WithdrawAccepted host state.storage state.world caller token amount remaining settled ∧
      receipt = ⟨none, [.withdraw caller token amount],
        [⟨token, host.currentContractAddress, caller, amount⟩]⟩ ∧
      state' = ⟨state.storage.afterWithdraw caller token remaining, settled⟩ := by
  cases h with
  | withdraw authorized _ accepted => exact ⟨authorized, _, _, accepted, rfl, rfl⟩
  | configure setter => cases setter

end Inversion

end StellarTip
