import StellarTip.Account.Census
import StellarTip.Account.Ownership
import StellarTip.Administration.Provenance

/-!
# When a refused call is worth another try

An error names a condition of the contract, and only certain calls can end the condition. Until one of
them is accepted the refused call stays refused, whoever signs it, whatever else the others do and
however the tokens move. Some errors have no such call at all: their arguments never go through.
-/

namespace StellarTip

open Foundation TipContract

variable {Address Symbol World : Type} [LinearOrder Address] {host : Host Address World}

/-- Arguments that the called entry point refuses in every state. -/
def Call.Malformed (host : Host Address World) : Call Address Symbol → Prop
  | .init _ feeRecipient feeBps _ _ minTipAmount =>
      MAX_FEE_BPS < feeBps ∨ minTipAmount < 0 ∨ feeRecipient = host.currentContractAddress
  | .register _ _ displayName bio | .updateProfile _ displayName bio =>
      ¬(displayName.length ≤ MAX_DISPLAY_NAME_LEN ∧ bio.length ≤ MAX_BIO_LEN)
  | call => ∃ change, call.adminChange host = some change ∧ change.invalid = true

/-- The amount that a call moves. -/
def Call.amount : Call Address Symbol → Option I128
  | .tip _ _ _ amount _ | .withdraw _ _ amount => some amount
  | _ => none

/-- The condition of the stored state that an error of a call names. -/
inductive Blocked (host : Host Address World) (storage : Storage Address Symbol) :
    Call Address Symbol → TipError → Prop
  | notInitialized {call : Call Address Symbol}
      (later : call.IsUserCall ∨ ∃ change, call.adminChange host = some change)
      (uninitialized : getAdmin storage = none) : Blocked host storage call .notInitialized
  | alreadyInitialized {caller feeRecipient : Address}
      {feeBps maxCreators maxTipsPerCreator : U32} {minTipAmount : I128}
      (initialized : getAdmin storage ≠ none) :
      Blocked host storage
        (.init caller feeRecipient feeBps maxCreators maxTipsPerCreator minTipAmount)
        .alreadyInitialized
  | paused {call : Call Address Symbol} (user : call.IsUserCall)
      (paused : isPaused storage = true) : Blocked host storage call .paused
  | notAuthorized {call : Call Address Symbol} {change : AdminChange Address Symbol}
      (setter : call.adminChange host = some change)
      (notAdmin : getAdmin storage ≠ some call.signer) : Blocked host storage call .notAuthorized
  | invalidInput {call : Call Address Symbol} (malformed : call.Malformed host) :
      Blocked host storage call .invalidInput
  | invalidAmount {call : Call Address Symbol} {amount : I128} (moves : call.amount = some amount)
      (nonpositive : amount ≤ 0) : Blocked host storage call .invalidAmount
  | creatorAlreadyExists {caller : Address} {username : Symbol} {displayName bio : HostString}
      (registered : getProfile storage caller ≠ none) :
      Blocked host storage (.register caller username displayName bio) .creatorAlreadyExists
  | usernameTaken {caller : Address} {username : Symbol} {displayName bio : HostString}
      (taken : getCreatorFromUsername storage username ≠ none) :
      Blocked host storage (.register caller username displayName bio) .usernameTaken
  | creatorsCapped {caller : Address} {username : Symbol} {displayName bio : HostString}
      (capped : 0 < getMaxCreators storage ∧ getMaxCreators storage ≤ getCreatorCount storage) :
      Blocked host storage (.register caller username displayName bio) .capExceeded
  | creatorNotFound {call : Call Address Symbol} {owner : Address}
      (user : call.IsUserCall) (other : ∀ username displayName bio,
        call ≠ .register owner username displayName bio)
      (account : call.account = some owner) (unregistered : getProfile storage owner = none) :
      Blocked host storage call .creatorNotFound
  | balanceNotEmpty {caller token : Address} (tracked : token ∈ trackedTokens storage caller)
      (positive : 0 < getBalance storage caller token) :
      Blocked host storage (.unregister caller) .balanceNotEmpty
  | belowMinimum {sender creator token : Address} {amount : I128} {message : HostString}
      (below : 0 < getMinTipAmount storage ∧ amount < getMinTipAmount storage) :
      Blocked host storage (.tip sender creator token amount message) .belowMinimum
  | tipsCapped {sender creator token : Address} {amount : I128} {message : HostString}
      (capped : getProfile storage creator = none ∨ (0 < getMaxTipsPerCreator storage ∧
        U32.asU64 (getMaxTipsPerCreator storage) ≤ getTipCount storage creator)) :
      Blocked host storage (.tip sender creator token amount message) .capExceeded
  | insufficientBalance {caller token : Address} {amount : I128}
      (insufficient : getBalance storage caller token < amount) :
      Blocked host storage (.withdraw caller token amount) .insufficientBalance

/-- The calls that end the condition behind an error of a call when they are accepted. -/
inductive Lifts (storage : Storage Address Symbol) :
    Call Address Symbol → TipError → Call Address Symbol → Prop
  | initialized {call : Call Address Symbol} {caller feeRecipient : Address}
      {feeBps maxCreators maxTipsPerCreator : U32} {minTipAmount : I128} :
      Lifts storage call .notInitialized
        (.init caller feeRecipient feeBps maxCreators maxTipsPerCreator minTipAmount)
  | unpaused {call : Call Address Symbol} {admin : Address} :
      Lifts storage call .paused (.unpause admin)
  | appointed {call other : Call Address Symbol} (appoints : other.appoints = some call.signer) :
      Lifts storage call .notAuthorized other
  | left {caller : Address} {username : Symbol} {displayName bio : HostString} :
      Lifts storage (.register caller username displayName bio) .creatorAlreadyExists
        (.unregister caller)
  | released {caller owner : Address} {username : Symbol} {displayName bio : HostString}
      (owned : getCreatorFromUsername storage username = some owner) :
      Lifts storage (.register caller username displayName bio) .usernameTaken (.unregister owner)
  | creatorsRaised {caller admin : Address} {username : Symbol} {displayName bio : HostString}
      {maxCreators : U32} (raised : maxCreators = 0 ∨ getCreatorCount storage < maxCreators) :
      Lifts storage (.register caller username displayName bio) .capExceeded
        (.setMaxCreators admin maxCreators)
  | vacated {caller owner : Address} {username : Symbol} {displayName bio : HostString}
      (full : getCreatorCount storage = getMaxCreators storage) :
      Lifts storage (.register caller username displayName bio) .capExceeded (.unregister owner)
  | registered {call : Call Address Symbol} {owner : Address} {username : Symbol}
      {displayName bio : HostString} (account : call.account = some owner) :
      Lifts storage call .creatorNotFound (.register owner username displayName bio)
  | emptied {caller token : Address} {amount : I128}
      (whole : amount = getBalance storage caller token)
      (last : ∀ other ∈ trackedTokens storage caller, other ≠ token →
        getBalance storage caller other ≤ 0) :
      Lifts storage (.unregister caller) .balanceNotEmpty (.withdraw caller token amount)
  | minimumLowered {sender creator token admin : Address} {amount minTipAmount : I128}
      {message : HostString} (lowered : minTipAmount ≤ amount ∨ minTipAmount = 0) :
      Lifts storage (.tip sender creator token amount message) .belowMinimum
        (.setMinTipAmount admin minTipAmount)
  | tipsRaised {sender creator token admin : Address} {amount : I128} {message : HostString}
      {maxTips : U32} (registered : getProfile storage creator ≠ none)
      (raised : maxTips = 0 ∨ getTipCount storage creator < U32.asU64 maxTips) :
      Lifts storage (.tip sender creator token amount message) .capExceeded
        (.setMaxTipsPerCreator admin maxTips)
  | reregistered {sender creator token : Address} {amount : I128} {message : HostString}
      {username : Symbol} {displayName bio : HostString} :
      Lifts storage (.tip sender creator token amount message) .capExceeded
        (.register creator username displayName bio)
  | credited {sender caller token : Address} {amount credit : I128} {message : HostString}
      (covers : amount.val ≤ (getBalance storage caller token).val + (credit.val -
        (credit.val * (getFeePercentage storage).val).tdiv MAX_FEE_BPS.val)) :
      Lifts storage (.withdraw caller token amount) .insufficientBalance
        (.tip sender caller token credit message)

/-- A step that ends the condition behind an error of a call. -/
def Label.Lifts (call : Call Address Symbol) (error : TipError)
    (state : State Address Symbol World) : Label host Symbol → Prop
  | .accepted _ other _ => StellarTip.Lifts state.storage call error other
  | .rejected .. | .outside => False

variable [DecidableEq Symbol] {env : Env host} {state state' start stop : State Address Symbol World}
  {call other : Call Address Symbol} {receipt : Receipt Address Symbol} {error : TipError}
  {failure : Failure} {labels : List (Label host Symbol)}

omit [DecidableEq Symbol] in
theorem isCreator_eq_false_iff {storage : Storage Address Symbol} {owner : Address} :
    isCreator storage owner = false ↔ getProfile storage owner = none := by
  rw [← Bool.not_eq_true, isCreator, KeyedStore.not_has_iff, getProfile]

omit [DecidableEq Symbol] in
theorem Call.malformed_of_setter {change : AdminChange Address Symbol}
    (setter : call.adminChange host = some change) (invalid : change.invalid = true) :
    call.Malformed host := by
  cases call <;> first | exact ⟨change, setter, invalid⟩ | cases setter

/-- Every error of the contract names a condition that holds when it is raised. -/
theorem Refuses.blocked (h : ReachableState host state)
    (hrefuses : Refuses env state call (.tipError error)) : Blocked host state.storage call error := by
  generalize hfailure : Failure.tipError error = failure at hrefuses
  cases hrefuses with
  | unauthorized | countOverflow | payoutRefused | tokensMissing => cases hfailure
  | alreadyInitialized initialized => cases hfailure; exact .alreadyInitialized initialized
  | invalidInit invalid => cases hfailure; exact .invalidInput invalid
  | setterUninitialized setter uninitialized =>
    cases hfailure
    exact .notInitialized (.inr ⟨_, setter⟩) uninitialized
  | notAuthorized setter notAdmin =>
    cases hfailure
    rw [← Call.signer_of_adminChange setter] at notAdmin
    exact .notAuthorized setter notAdmin
  | invalidSetting setter invalid =>
    cases hfailure
    exact .invalidInput (Call.malformed_of_setter setter invalid)
  | uninitialized user uninitialized => cases hfailure; exact .notInitialized (.inl user) uninitialized
  | paused user paused => cases hfailure; exact .paused user paused
  | registerInvalid invalid | updateInvalid invalid => cases hfailure; exact .invalidInput invalid
  | creatorAlreadyExists registered => cases hfailure; exact .creatorAlreadyExists registered
  | usernameTaken taken => cases hfailure; exact .usernameTaken taken
  | creatorsCapped capped => cases hfailure; exact .creatorsCapped capped
  | updateUnregistered unregistered | unregisterUnregistered unregistered =>
    cases hfailure
    exact .creatorNotFound trivial nofun rfl unregistered
  | tipUnregistered unregistered | withdrawUnregistered unregistered =>
    cases hfailure
    exact .creatorNotFound trivial nofun rfl (isCreator_eq_false_iff.mp unregistered)
  | balanceNotEmpty left =>
    cases hfailure
    obtain ⟨token, tracked, positive⟩ := left
    exact .balanceNotEmpty tracked positive
  | tipInvalid nonpositive | withdrawInvalid nonpositive =>
    cases hfailure
    exact .invalidAmount rfl nonpositive
  | belowMinimum below => cases hfailure; exact .belowMinimum below
  | tipsCapped capped => cases hfailure; exact .tipsCapped (.inr capped)
  | tipBroken ready checked broken =>
    cases hfailure
    cases broken with
    | feeRecipientNotSet unset => exact absurd unset (feeRecipient_ne_none h ready)
  | insufficientBalance positive insufficient =>
    cases hfailure
    exact .insufficientBalance insufficient

/-! ## From the condition to the refusal -/

omit [DecidableEq Symbol] in
theorem Call.invalid_of_malformed {change : AdminChange Address Symbol}
    (setter : call.adminChange host = some change) (malformed : call.Malformed host) :
    change.invalid = true := by
  have hother : ∃ other, call.adminChange host = some other ∧ other.invalid = true := by
    cases call <;> first | exact malformed | cases setter
  obtain ⟨other, hsetter, hinvalid⟩ := hother
  obtain rfl := Option.some.inj (setter.symm.trans hsetter)
  exact hinvalid

section Checks

variable {storage : Storage Address Symbol} {caller sender creator token : Address}
  {username : Symbol} {displayName bio message : HostString} {amount : I128}

omit [DecidableEq Symbol] in
theorem Blocked.not_registerChecked (ready : storage.Ready)
    (checked : RegisterChecked storage caller username displayName bio) :
    ¬Blocked host storage (.register caller username displayName bio) error := by
  intro h
  cases h with
  | notInitialized _ uninitialized => exact ready.admin_ne_none uninitialized
  | paused _ paused => exact absurd (ready.2.symm.trans paused) (by decide)
  | notAuthorized setter => cases setter
  | invalidInput malformed => exact malformed ⟨checked.displayName_le, checked.bio_le⟩
  | invalidAmount moves => cases moves
  | creatorAlreadyExists registered => exact registered checked.unregistered
  | usernameTaken taken => exact taken checked.username_free
  | creatorsCapped capped => exact checked.below_cap capped
  | creatorNotFound _ other account =>
    cases account
    exact other _ _ _ rfl

omit [DecidableEq Symbol] in
theorem Blocked.not_tipChecked (ready : storage.Ready)
    (checked : TipChecked storage creator amount) :
    ¬Blocked host storage (.tip sender creator token amount message) error := by
  have hregistered : getProfile storage creator ≠ none := fun hnone ↦
    absurd (checked.registered.symm.trans (isCreator_eq_false_iff.mpr hnone)) (by decide)
  intro h
  cases h with
  | notInitialized _ uninitialized => exact ready.admin_ne_none uninitialized
  | paused _ paused => exact absurd (ready.2.symm.trans paused) (by decide)
  | notAuthorized setter => cases setter
  | invalidInput malformed =>
    obtain ⟨change, setter, -⟩ := malformed
    cases setter
  | invalidAmount moves nonpositive =>
    cases moves
    exact absurd checked.positive (not_lt.mpr nonpositive)
  | creatorNotFound _ _ account unregistered =>
    cases account
    exact hregistered unregistered
  | belowMinimum below => exact checked.minimum below
  | tipsCapped capped => exact capped.elim hregistered checked.below_cap

omit [DecidableEq Symbol] in
theorem Blocked.not_withdrawChecked (ready : storage.Ready)
    (checked : WithdrawChecked storage caller token amount) :
    ¬Blocked host storage (.withdraw caller token amount) error := by
  intro h
  cases h with
  | notInitialized _ uninitialized => exact ready.admin_ne_none uninitialized
  | paused _ paused => exact absurd (ready.2.symm.trans paused) (by decide)
  | notAuthorized setter => cases setter
  | invalidInput malformed =>
    obtain ⟨change, setter, -⟩ := malformed
    cases setter
  | invalidAmount moves nonpositive =>
    cases moves
    exact absurd checked.positive (not_lt.mpr nonpositive)
  | creatorNotFound _ _ account unregistered =>
    cases account
    exact absurd (checked.registered.symm.trans (isCreator_eq_false_iff.mpr unregistered))
      (by decide)
  | insufficientBalance insufficient => exact absurd checked.sufficient (not_le.mpr insufficient)

end Checks

/-- No call is accepted while its condition holds. -/
theorem Accepts.not_blocked (h : Accepts env state call receipt state') :
    ¬Blocked host state.storage call error := by
  cases h with
  | init authorized fresh feeBps_le minTip_nonneg recipient_ne =>
    intro hblocked
    cases hblocked with
    | notInitialized later => exact later.elim id fun ⟨_, setter⟩ ↦ nomatch setter
    | alreadyInitialized initialized => exact initialized fresh
    | paused user => exact user.elim
    | notAuthorized setter => cases setter
    | invalidInput malformed =>
      exact malformed.elim (not_lt.mpr feeBps_le) (Or.rec (not_lt.mpr minTip_nonneg) recipient_ne)
    | invalidAmount moves => cases moves
    | creatorNotFound user => exact user.elim
  | @configure call change setter authorized admin valid =>
    intro hblocked
    cases hblocked with
    | notInitialized _ uninitialized => cases admin.symm.trans uninitialized
    | paused user => cases call <;> first | exact user | cases setter
    | notAuthorized setter' notAdmin =>
      rw [Call.signer_of_adminChange setter] at notAdmin
      exact notAdmin admin
    | invalidInput malformed =>
      cases valid.symm.trans (Call.invalid_of_malformed setter malformed)
    | invalidAmount moves => cases call <;> cases setter <;> cases moves
    | creatorNotFound user => cases call <;> first | exact user | cases setter
    | _ => cases setter
  | register _ ready displayName_le bio_le unregistered username_free below_cap =>
    exact Blocked.not_registerChecked ready
      ⟨displayName_le, bio_le, unregistered, username_free, below_cap⟩
  | updateProfile _ ready displayName_le bio_le registered =>
    intro hblocked
    cases hblocked with
    | notInitialized _ uninitialized => exact ready.admin_ne_none uninitialized
    | paused _ paused => exact absurd (ready.2.symm.trans paused) (by decide)
    | notAuthorized setter => cases setter
    | invalidInput malformed => exact malformed ⟨displayName_le, bio_le⟩
    | invalidAmount moves => cases moves
    | creatorNotFound _ _ account unregistered =>
      cases account
      cases registered.symm.trans unregistered
  | unregister _ ready registered emptied =>
    intro hblocked
    cases hblocked with
    | notInitialized _ uninitialized => exact ready.admin_ne_none uninitialized
    | paused _ paused => exact absurd (ready.2.symm.trans paused) (by decide)
    | notAuthorized setter => cases setter
    | invalidInput malformed =>
      obtain ⟨change, setter, -⟩ := malformed
      cases setter
    | invalidAmount moves => cases moves
    | creatorNotFound _ _ account unregistered =>
      cases account
      cases registered.symm.trans unregistered
    | balanceNotEmpty tracked positive => exact absurd (emptied _ tracked) (not_le.mpr positive)
  | tip _ ready accepted =>
    refine Blocked.not_tipChecked ready ⟨accepted.positive, fun below ↦ ?_, accepted.registered,
      fun capped ↦ ?_⟩
    · exact absurd (accepted.minimum below.1) (not_le.mpr below.2)
    · exact absurd (accepted.below_cap capped.1) (not_lt.mpr capped.2)
  | withdraw _ ready accepted =>
    exact Blocked.not_withdrawChecked ready
      ⟨accepted.registered, accepted.positive, accepted.sufficient⟩

/-- A blocked call is refused, and when it is signed, by one of the errors of the contract. -/
theorem Blocked.refused (h : Blocked host state.storage call error) (env : Env host) :
    ∃ failure, invoke env call state = .error failure ∧
      (env.authorized call.signer = true → ∃ error', failure = .tipError error') := by
  rcases accepts_or_refuses env call state with ⟨receipt, state', haccepts⟩ |
    ⟨failure, herror, hrefuses⟩
  · exact absurd h haccepts.not_blocked
  · refine ⟨failure, herror, fun hauth ↦ ?_⟩
    cases hrefuses with
    | unauthorized unsigned => cases hauth.symm.trans unsigned
    | countOverflow ready checked => exact absurd h (Blocked.not_registerChecked ready checked)
    | tipBroken ready checked => exact absurd h (Blocked.not_tipChecked ready checked)
    | payoutRefused ready checked => exact absurd h (Blocked.not_withdrawChecked ready checked)
    | tokensMissing ready checked => exact absurd h (Blocked.not_withdrawChecked ready checked)
    | _ => exact ⟨_, rfl⟩

/-- What a call writes into a configuration entry when it is accepted. -/
def Call.configures (host : Host Address World) (call : Call Address Symbol)
    (key : DataKey Address Symbol) : Option key.Value :=
  match call, key with
  | .init caller .., .admin => some caller
  | .init .., .paused => some false
  | .init _ _ feeBps .., .feeBps => some feeBps
  | .init _ feeRecipient .., .feeRecipient => some feeRecipient
  | .init _ _ _ maxCreators .., .maxCreators => some maxCreators
  | .init _ _ _ _ maxTipsPerCreator _, .maxTipsPerCreator => some maxTipsPerCreator
  | .init _ _ _ _ _ minTipAmount, .minTipAmount => some minTipAmount
  | call, key => call.adminChange host >>= fun change ↦
      if h : change.key = key then some (h ▸ change.value) else none

/-- A configuration entry after an accepted call. -/
theorem Accepts.get_config (h : Accepts env state call receipt state')
    {key : DataKey Address Symbol} (hkey : key.IsConfig) :
    state'.storage.instanceTier.get key =
      (call.configures host key).or (state.storage.instanceTier.get key) := by
  cases h with
  | init => cases key <;> first | exact hkey.elim | simp [Storage.afterInit, Call.configures]
  | configure setter =>
    cases call <;> cases setter <;> cases key <;>
      first | exact hkey.elim | simp [Call.configures, Call.adminChange]
  | register | updateProfile | unregister =>
    cases key <;> first | exact hkey.elim | simp [Call.configures, Call.adminChange]
  | tip =>
    rw [Storage.instanceTier_afterTip]
    cases key <;> first | exact hkey.elim | simp [Call.configures, Call.adminChange]
  | withdraw =>
    rw [Storage.instanceTier_afterWithdraw]
    cases key <;> first | exact hkey.elim | simp [Call.configures, Call.adminChange]

namespace Account.Step

variable {account account' : Account Address Symbol} {feeBps : U32} {owner token : Address}

omit [DecidableEq Symbol] in
/-- Only unregistration removes a profile, and nothing changes its username. -/
theorem profile_kept (h : Account.Step env feeBps owner account call receipt account')
    {profile : CreatorProfile Symbol} (hregistered : account.profile = some profile)
    (hcall : call ≠ .unregister owner) :
    ∃ profile', account'.profile = some profile' ∧ profile'.username = profile.username := by
  cases h with
  | opened _ unregistered => cases hregistered.symm.trans unregistered
  | edited _ registered =>
    cases hregistered.symm.trans registered
    exact ⟨_, rfl, rfl⟩
  | closed => exact absurd rfl hcall
  | credited | other => exact ⟨profile, hregistered, rfl⟩
  | debited => exact ⟨profile, (profile_debited _ _ _).trans hregistered, rfl⟩

omit [DecidableEq Symbol] in
/-- Only registration creates a profile. -/
theorem profile_eq_none (h : Account.Step env feeBps owner account call receipt account')
    (hunregistered : account.profile = none)
    (hcall : ∀ username displayName bio, call ≠ .register owner username displayName bio) :
    account'.profile = none := by
  cases h with
  | opened => exact absurd rfl (hcall _ _ _)
  | edited _ registered => cases registered.symm.trans hunregistered
  | closed => rfl
  | credited registered | debited _ registered => exact absurd hunregistered registered
  | other => exact hunregistered

omit [DecidableEq Symbol] in
/-- While an account stays registered its count never falls. -/
theorem count_le (h : Account.Step env feeBps owner account call receipt account')
    (hregistered : account'.profile ≠ none)
    (hcall : ∀ username displayName bio, call ≠ .register owner username displayName bio) :
    account.count ≤ account'.count := by
  cases h with
  | opened => exact absurd rfl (hcall _ _ _)
  | edited | other => exact le_rfl
  | closed => exact absurd rfl hregistered
  | credited _ _ _ _ nextIndex_val =>
    rw [count_credited, BoundedInt.le_def, nextIndex_val]
    omega
  | debited =>
    rw [count_debited]

omit [DecidableEq Symbol] in
/-- A tracked token with a credit stays so until the whole credit is withdrawn. -/
theorem tracked_and_pos (hfeeBps : feeBps ≤ MAX_FEE_BPS)
    (h : Account.Step env feeBps owner account call receipt account')
    (htracked : token ∈ account.tracked) (hpos : 0 < account.balance token)
    (hcall : call ≠ .withdraw owner token (account.balance token)) :
    token ∈ account'.tracked ∧ 0 < account'.balance token := by
  cases h with
  | opened | edited | other => exact ⟨htracked, hpos⟩
  | closed _ _ emptied => exact absurd (emptied token htracked) (not_le.mpr hpos)
  | @credited _ tipped _ _ newBalance _ _ _ _ positive fee_val newBalance_val =>
    have hfee := fee_bounds positive hfeeBps fee_val
    have hbalance : 0 < (account.balance token).val := BoundedInt.lt_def.mp hpos
    rw [tracked_credited, SortedSet.mem_insert, balance_credited]
    refine ⟨.inr htracked, ?_⟩
    split
    · rename_i heq
      subst heq
      refine BoundedInt.lt_def.mpr ?_
      rw [I128.val_zero, newBalance_val]
      omega
    · exact hpos
  | @debited withdrawn amount remaining _ _ _ sufficient remaining_val =>
    have hnonneg := remaining_nonneg sufficient remaining_val
    rw [tracked_debited, balance_debited _ _ _ hnonneg]
    by_cases heq : token = withdrawn
    · subst heq
      have hleft : 0 < remaining := by
        refine lt_of_le_of_ne hnonneg fun hzero ↦ hcall ?_
        have hwhole : amount = account.balance token := by
          refine BoundedInt.ext ?_
          rw [← hzero, I128.val_zero] at remaining_val
          omega
        rw [hwhole]
      rw [if_pos hleft, if_pos rfl]
      exact ⟨htracked, hleft⟩
    · rw [if_neg heq]
      refine ⟨?_, hpos⟩
      split
      · exact htracked
      · exact SortedSet.mem_remove.mpr ⟨heq, htracked⟩

end Account.Step

/-- `init` is accepted only while nothing is stored. -/
theorem Accepts.storage_eq_empty_of_init (h : ReachableState host state) {caller feeRecipient : Address}
    {feeBps maxCreators maxTipsPerCreator : U32} {minTipAmount : I128}
    (haccepts : Accepts env state
      (.init caller feeRecipient feeBps maxCreators maxTipsPerCreator minTipAmount) receipt state') :
    state.storage = Storage.empty := by
  cases haccepts with
  | init _ fresh => exact storage_eq_empty h fresh
  | configure setter => cases setter

theorem U32.pos_of_ne_zero {value : U32} (h : value ≠ 0) : 0 < value :=
  lt_of_le_of_ne (BoundedInt.le_def.mpr value.lo_le) h.symm

/-- Only unregistration lowers the number of creators. -/
theorem Accepts.getCreatorCount_le (h : ReachableState host state)
    (haccepts : Accepts env state other receipt state') (hcall : ∀ owner, other ≠ .unregister owner) :
    getCreatorCount state.storage ≤ getCreatorCount state'.storage := by
  cases haccepts with
  | init _ fresh =>
    rw [storage_eq_empty h fresh]
    exact BoundedInt.le_def.mpr (getCreatorCount _).lo_le
  | @configure _ change =>
    have hcount : ¬(DataKey.creatorCount : DataKey Address Symbol).IsConfig := not_false
    refine le_of_eq (congrArg (Option.getD · (0 : U32)) ?_)
    exact (state.storage.get_setInstance_of_isConfig change.isConfig hcount change.value).symm
  | register _ _ _ _ _ _ _ nextCount_val =>
    rw [getCreatorCount_afterRegister, BoundedInt.le_def, nextCount_val]
    omega
  | unregister => exact absurd rfl (hcall _)
  | updateProfile => simp [getCreatorCount]
  | tip => simp [getCreatorCount]
  | withdraw => simp [getCreatorCount]

/-- The balance of a tipped creator, with the fee worked out. -/
theorem Accepts.getBalance_of_tip {sender creator token : Address} {amount : I128}
    {message : HostString}
    (haccepts : Accepts env state (.tip sender creator token amount message) receipt state') :
    (getBalance state'.storage creator token).val =
      (getBalance state.storage creator token).val + (amount.val -
        (amount.val * (getFeePercentage state.storage).val).tdiv MAX_FEE_BPS.val) := by
  obtain ⟨-, fee, newBalance, nextIndex, _, _, accepted, -, rfl⟩ := haccepts.of_tip
  rw [Storage.getBalance_afterTip, accepted.newBalance_val, accepted.fee_val]

/-- A condition outlasts every call that does not lift it. -/
theorem Blocked.accepts (h : ReachableState host state)
    (hblocked : Blocked host state.storage call error)
    (haccepts : Accepts env state other receipt state')
    (hlifts : ¬Lifts state.storage call error other) : Blocked host state'.storage call error := by
  have hreach : ReachableState host state' := h.step (.accepted (invoke_eq_ok_iff.mpr haccepts))
  have hfeeBps := (ConfigurationInvariant.of_reachable h).feeBps_le
  cases hblocked with
  | notInitialized later uninitialized =>
    rcases haccepts.isInit_or_admin_stored with ⟨_, _, _, _, _, _, rfl, -, -⟩ | hadmin
    · exact absurd .initialized hlifts
    · exact absurd hadmin (KeyedStore.not_has_iff.mpr uninitialized)
  | alreadyInitialized => exact .alreadyInitialized haccepts.admin_ne_none
  | notAuthorized setter notAdmin =>
    refine .notAuthorized setter ?_
    rw [haccepts.getAdmin_eq]
    cases happoints : other.appoints with
    | none => exact notAdmin
    | some appointed => exact fun heq ↦ hlifts (.appointed (happoints.trans heq))
  | invalidInput malformed => exact .invalidInput malformed
  | invalidAmount moves nonpositive => exact .invalidAmount moves nonpositive
  | paused user paused =>
    refine .paused user ?_
    have hget : state'.storage.instanceTier.get .paused = _ := haccepts.get_config trivial
    rw [isPaused, hget]
    cases other with
    | init =>
      rw [haccepts.storage_eq_empty_of_init h] at paused
      cases paused
    | unpause => exact absurd .unpaused hlifts
    | pause => rfl
    | _ => exact paused
  | belowMinimum below =>
    refine .belowMinimum ?_
    have hnonneg := (ConfigurationInvariant.of_reachable hreach).minTipAmount_nonneg
    have hget : state'.storage.instanceTier.get .minTipAmount = _ := haccepts.get_config trivial
    rw [getMinTipAmount, hget] at hnonneg ⊢
    cases other with
    | init =>
      rw [haccepts.storage_eq_empty_of_init h] at below
      exact absurd below.1 (lt_irrefl (0 : I128))
    | setMinTipAmount admin minTipAmount =>
      refine ⟨lt_of_le_of_ne hnonneg fun hzero ↦ hlifts (.minimumLowered (.inr hzero.symm)), ?_⟩
      exact not_le.mp fun hle ↦ hlifts (.minimumLowered (.inl hle))
    | _ => exact below
  | @creatorAlreadyExists caller username displayName bio registered =>
    obtain ⟨profile, hprofile⟩ := Option.ne_none_iff_exists'.mp registered
    obtain ⟨profile', hprofile', -⟩ :=
      (haccepts.accountStep caller).profile_kept hprofile fun hother ↦ hlifts (hother ▸ .left)
    exact .creatorAlreadyExists (Option.ne_none_iff_exists'.mpr ⟨profile', hprofile'⟩)
  | @usernameTaken caller username displayName bio taken =>
    obtain ⟨owner, howned⟩ := Option.ne_none_iff_exists'.mp taken
    obtain ⟨profile, hprofile, husername⟩ :=
      (UsernameInvariant.of_reachable h username owner).mp howned
    obtain ⟨profile', hprofile', hkept⟩ := (haccepts.accountStep owner).profile_kept hprofile
      fun hother ↦ hlifts (hother ▸ .released howned)
    have hstill := (UsernameInvariant.of_reachable hreach username owner).mpr
      ⟨profile', hprofile', hkept.trans husername⟩
    exact .usernameTaken (Option.ne_none_iff_exists'.mpr ⟨owner, hstill⟩)
  | creatorsCapped capped =>
    refine .creatorsCapped ?_
    have hget : state'.storage.instanceTier.get .maxCreators = _ := haccepts.get_config trivial
    have hcount := haccepts.getCreatorCount_le h
    rw [getMaxCreators, hget]
    cases other with
    | init =>
      rw [haccepts.storage_eq_empty_of_init h] at capped
      exact absurd capped.1 (lt_irrefl (0 : U32))
    | setMaxCreators admin maxCreators =>
      obtain ⟨hne, hfull⟩ := not_or.mp fun hraised ↦ hlifts (.creatorsRaised hraised)
      exact ⟨U32.pos_of_ne_zero hne, (not_lt.mp hfull).trans (hcount fun _ heq ↦ by cases heq)⟩
    | unregister owner =>
      obtain ⟨-, hfewer⟩ := count_of_unregister h haccepts
      have hover := lt_of_le_of_ne capped.2 fun hfull ↦ hlifts (.vacated hfull.symm)
      refine ⟨capped.1, BoundedInt.le_def.mpr ?_⟩
      rw [hfewer]
      exact Int.le_sub_one_of_lt (BoundedInt.lt_def.mp hover)
    | _ => exact ⟨capped.1, capped.2.trans (hcount fun _ heq ↦ by cases heq)⟩
  | @creatorNotFound call owner user hother account unregistered =>
    refine .creatorNotFound user hother account ?_
    refine (haccepts.accountStep owner).profile_eq_none unregistered ?_
    rintro username displayName bio rfl
    exact hlifts (.registered account)
  | @balanceNotEmpty caller token tracked positive =>
    have hlasts {owed : Address} (howed : owed ∈ trackedTokens state.storage caller)
        (hpos : 0 < getBalance state.storage caller owed)
        (hcall : other ≠ .withdraw caller owed (getBalance state.storage caller owed)) :
        Blocked host state'.storage (.unregister caller) .balanceNotEmpty := by
      have hstill := (haccepts.accountStep caller).tracked_and_pos hfeeBps howed hpos hcall
      exact .balanceNotEmpty hstill.1 hstill.2
    by_cases hwhole : other = .withdraw caller token (getBalance state.storage caller token)
    · -- The credit in this token goes, so the condition rests on another one.
      subst hwhole
      obtain ⟨owed, howed, hne, hpos⟩ : ∃ owed ∈ trackedTokens state.storage caller,
          owed ≠ token ∧ 0 < getBalance state.storage caller owed := by
        by_contra hnone
        refine hlifts (.emptied rfl fun owed howed hne ↦ not_lt.mp fun hpos ↦ hnone ?_)
        exact ⟨owed, howed, hne, hpos⟩
      refine hlasts howed hpos fun hcall ↦ hne ?_
      injection hcall with _ htoken
      exact htoken.symm
    · exact hlasts tracked positive hwhole
  | @tipsCapped sender creator token amount message capped =>
    refine .tipsCapped ?_
    have hregister (username : Symbol) (displayName bio : HostString) :
        other ≠ .register creator username displayName bio := fun hother ↦
      hlifts (hother ▸ .reregistered)
    have haccount := haccepts.accountStep creator
    rcases capped with hnone | ⟨hpos, hfull⟩
    · exact .inl (haccount.profile_eq_none hnone hregister)
    · refine or_iff_not_imp_left.mpr fun hregistered ↦ ?_
      have hcount : getTipCount state.storage creator ≤ getTipCount state'.storage creator :=
        haccount.count_le hregistered hregister
      have hget : state'.storage.instanceTier.get .maxTipsPerCreator = _ :=
        haccepts.get_config trivial
      rw [getMaxTipsPerCreator, hget]
      cases other with
      | init =>
        rw [haccepts.storage_eq_empty_of_init h] at hpos
        exact absurd hpos (lt_irrefl (0 : U32))
      | setMaxTipsPerCreator admin maxTips =>
        have hbefore : getProfile state.storage creator ≠ none := fun hnone ↦
          hregistered (haccount.profile_eq_none hnone hregister)
        obtain ⟨hne, hfull⟩ := not_or.mp fun hraised ↦ hlifts (.tipsRaised hbefore hraised)
        exact ⟨U32.pos_of_ne_zero hne, (not_lt.mp hfull).trans hcount⟩
      | _ => exact ⟨hpos, hfull.trans hcount⟩
  | @insufficientBalance caller token amount insufficient =>
    refine .insufficientBalance (not_le.mp fun hcovered ↦ ?_)
    obtain ⟨sender, credit, message, rfl⟩ :=
      (haccepts.accountStep caller).tip_of_balance_gt (insufficient.trans_le hcovered)
    refine hlifts (.credited ?_)
    rw [← haccepts.getBalance_of_tip]
    exact BoundedInt.le_def.mp hcovered

/-- A call that lifts a condition ends it. -/
theorem Lifts.not_blocked (h : ReachableState host state)
    (hlifts : Lifts state.storage call error other)
    (haccepts : Accepts env state other receipt state') :
    ¬Blocked host state'.storage call error := by
  intro hblocked
  cases hlifts with
  | initialized =>
    cases hblocked with
    | notInitialized _ uninitialized => exact haccepts.admin_ne_none uninitialized
  | unpaused =>
    obtain rfl := haccepts.eq_of_setter rfl
    cases hblocked with
    | paused _ paused => cases paused
  | appointed appoints =>
    cases hblocked with
    | notAuthorized _ notAdmin =>
      rw [haccepts.getAdmin_eq, appoints] at notAdmin
      exact notAdmin rfl
  | left =>
    obtain ⟨-, profile, -, -, -, rfl⟩ := haccepts.of_unregister
    cases hblocked with
    | creatorAlreadyExists registered =>
      exact registered (congrArg Account.profile (state.storage.account_afterUnregister_self _ profile))
  | released owned =>
    obtain ⟨-, profile, registered, -, -, rfl⟩ := haccepts.of_unregister
    obtain ⟨owner, howner, rfl⟩ := (UsernameInvariant.of_reachable h _ _).mp owned
    obtain rfl := Option.some.inj (registered.symm.trans howner)
    cases hblocked with
    | usernameTaken taken => exact taken (by simp [getCreatorFromUsername])
  | @creatorsRaised _ _ _ _ _ maxCreators raised =>
    obtain rfl := haccepts.eq_of_setter rfl
    cases hblocked with
    | creatorsCapped capped =>
      have hcapped : 0 < maxCreators ∧ maxCreators ≤ getCreatorCount state.storage := capped
      exact raised.elim hcapped.1.ne' (not_lt.mpr hcapped.2)
  | vacated full =>
    cases hblocked with
    | creatorsCapped capped =>
      obtain ⟨hpos, hfewer⟩ := count_of_unregister h haccepts
      have hcap : state'.storage.instanceTier.get .maxCreators = _ := haccepts.get_config trivial
      have hfull : getMaxCreators state'.storage = getCreatorCount state.storage :=
        (congrArg (Option.getD · 0) hcap).trans full.symm
      have hle := BoundedInt.le_def.mp capped.2
      rw [hfull, hfewer] at hle
      omega
  | registered account =>
    cases haccepts with
    | register =>
      cases hblocked with
      | creatorNotFound _ _ account' unregistered =>
        cases account.symm.trans account'
        simp [getProfile] at unregistered
    | configure setter => cases setter
  | @emptied caller token amount whole last =>
    obtain ⟨-, remaining, _, accepted, -, rfl⟩ := haccepts.of_withdraw
    have hzero : remaining = 0 := by
      refine BoundedInt.ext ?_
      rw [accepted.remaining_val, whole, sub_self, I128.val_zero]
    cases hblocked with
    | @balanceNotEmpty _ owed tracked positive =>
      rw [← Storage.account_tracked, Storage.account_afterWithdraw_self, Account.tracked_debited,
        if_neg (not_lt.mpr hzero.le)] at tracked
      obtain ⟨hne, howed⟩ := SortedSet.mem_remove.mp tracked
      rw [← Storage.account_balance, Storage.account_afterWithdraw_self,
        Account.balance_debited _ _ _ hzero.ge, if_neg hne] at positive
      exact absurd (last owed howed hne) (not_le.mpr positive)
  | @minimumLowered _ _ _ _ amount minTipAmount _ lowered =>
    obtain rfl := haccepts.eq_of_setter rfl
    cases hblocked with
    | belowMinimum below =>
      have hbelow : 0 < minTipAmount ∧ amount < minTipAmount := below
      exact lowered.elim (not_le.mpr hbelow.2) hbelow.1.ne'
  | @tipsRaised _ creator _ _ _ _ maxTips registered raised =>
    obtain rfl := haccepts.eq_of_setter rfl
    cases hblocked with
    | tipsCapped capped =>
      have hcapped : getProfile state.storage creator = none ∨
          (0 < maxTips ∧ U32.asU64 maxTips ≤ getTipCount state.storage creator) := capped
      rcases hcapped with hnone | ⟨hpos, hfull⟩
      · exact registered hnone
      · exact raised.elim hpos.ne' (not_lt.mpr hfull)
  | @reregistered _ creator =>
    cases haccepts with
    | @register _ _ _ _ nextCount =>
      cases hblocked with
      | tipsCapped capped =>
        rcases capped with hnone | ⟨hpos, hfull⟩
        · simp [getProfile] at hnone
        · have hcount (profile : CreatorProfile Symbol) :
              getTipCount (state.storage.afterRegister creator profile nextCount) creator = 0 :=
            congrArg Account.count
              (state.storage.account_afterRegister_self creator profile nextCount)
          rw [hcount] at hfull
          exact absurd (BoundedInt.lt_def.mp hpos) (not_lt.mpr (BoundedInt.le_def.mp hfull))
    | configure setter => cases setter
  | credited covers =>
    cases hblocked with
    | insufficientBalance insufficient =>
      rw [← haccepts.getBalance_of_tip] at covers
      exact absurd (BoundedInt.lt_def.mp insufficient) (not_lt.mpr covers)

/-- **When a retry is worth it.** A call that the contract has refused with an error is refused again
after every run in which no accepted call lifts the condition behind the error, and a signed retry then
gets an error of the contract; right after a call that lifts the condition, the error is gone. -/
theorem refused_until_lifted (h : ReachableState host start)
    (hrefused : invoke env call start = .error (.tipError error))
    (run : Run (restrict (Step host) fun state label ↦ ¬label.Lifts call error state) start labels
      stop) (retry : Env host) :
    (∃ failure, invoke retry call stop = .error failure ∧
      (retry.authorized call.signer = true → ∃ error', failure = .tipError error')) ∧
    ∀ label after, Step host stop label after → label.Lifts call error stop →
      invoke retry call after ≠ .error (.tipError error) := by
  have hlasts : ReachableState host stop ∧ Blocked host stop.storage call error := by
    refine run.invariant (P := fun state ↦ ReachableState host state ∧
      Blocked host state.storage call error) ?_
      ⟨h, (refuses_of_invoke_eq_error hrefused).blocked h⟩
    rintro before label after ⟨hreach, hblocked⟩ ⟨hstep, hlifts⟩
    refine ⟨hreach.step hstep, ?_⟩
    cases hstep with
    | accepted ok => exact hblocked.accepts hreach (invoke_eq_ok_iff.mp ok) hlifts
    | rejected | outside => exact hblocked
  refine ⟨hlasts.2.refused retry, fun label after hstep hlifts herror ↦ ?_⟩
  have hblocked := (refuses_of_invoke_eq_error herror).blocked (hlasts.1.step hstep)
  cases hstep with
  | accepted ok => exact hlifts.not_blocked hlasts.1 (invoke_eq_ok_iff.mp ok) hblocked
  | rejected | outside => exact hlifts

/-- The creator of the tipped market cannot leave, not even after a withdrawal of a part of the 95
units; the withdrawal of the rest ends that. -/
theorem refused_until_emptied_in_tippedMarket :
    (∃ failure, invoke (signedBy marketHost 3 (u64 106)) (.unregister 3)
      (replay tippedMarket [marketWithdraw 3 7 (i128 40)]).2 = .error failure) ∧
    invoke (signedBy marketHost 3 (u64 106)) (.unregister 3)
      (replay tippedMarket [marketWithdraw 3 7 (i128 40), marketWithdraw 3 7 (i128 55)]).2 ≠
        .error (.tipError .balanceNotEmpty) := by
  have hrefused : invoke (signedBy marketHost 3 (u64 105)) (.unregister 3) tippedMarket =
      .error (.tipError .balanceNotEmpty) := rfl
  have hkeeps : ¬Lifts tippedMarket.storage (.unregister 3) .balanceNotEmpty
      (.withdraw 3 7 (i128 40)) := by
    intro hlifts
    cases hlifts with
    | emptied whole => exact absurd whole (by decide)
  have hall := refused_until_lifted tippedMarket_reachable hrefused
    (run_replay_of_allowed [marketWithdraw 3 7 (i128 40)] tippedMarket ⟨hkeeps, trivial⟩)
    (signedBy marketHost 3 (u64 106))
  obtain ⟨failure, hstill, -⟩ := hall.1
  exact ⟨⟨failure, hstill⟩, hall.2 _ _ (step_perform _ (.withdraw 3 7 (i128 55)) _)
    (.emptied (by decide) (by decide))⟩

end StellarTip
