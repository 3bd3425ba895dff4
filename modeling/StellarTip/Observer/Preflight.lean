import StellarTip.Custody.Exit
import StellarTip.Observer.Retry

/-!
# What can come between a simulation and its submission

A client simulates a call before it submits it, and others may get in between. Only certain calls can
make a simulated success fail a check of the contract, and which ones those are can be read off the
simulated state. Until one of them is accepted nothing that the contract checks stands in the way of
the submission: it can fail only in the token contract or by an amount out of range.
-/

namespace StellarTip

open Foundation TipContract

variable {Address Symbol World : Type} [LinearOrder Address] {host : Host Address World}

/-- The calls that bring about the condition behind an error of a call when they are accepted. -/
inductive Imposes (host : Host Address World) (storage : Storage Address Symbol) :
    Call Address Symbol → TipError → Call Address Symbol → Prop
  | initialized {caller feeRecipient other otherRecipient : Address}
      {feeBps maxCreators maxTipsPerCreator otherBps otherCreators otherTips : U32}
      {minTipAmount otherMinimum : I128} :
      Imposes host storage
        (.init caller feeRecipient feeBps maxCreators maxTipsPerCreator minTipAmount)
        .alreadyInitialized
        (.init other otherRecipient otherBps otherCreators otherTips otherMinimum)
  | paused {call : Call Address Symbol} {admin : Address} (user : call.IsUserCall) :
      Imposes host storage call .paused (.pause admin)
  | replaced {call other : Call Address Symbol} {change : AdminChange Address Symbol}
      {successor : Address} (setter : call.adminChange host = some change)
      (appoints : other.appoints = some successor) (ne : successor ≠ call.signer) :
      Imposes host storage call .notAuthorized other
  | registered {caller : Address} {username other : Symbol}
      {displayName bio otherName otherBio : HostString} :
      Imposes host storage (.register caller username displayName bio) .creatorAlreadyExists
        (.register caller other otherName otherBio)
  | usernameClaimed {caller owner : Address} {username : Symbol}
      {displayName bio otherName otherBio : HostString} :
      Imposes host storage (.register caller username displayName bio) .usernameTaken
        (.register owner username otherName otherBio)
  | creatorsLowered {caller admin : Address} {username : Symbol} {displayName bio : HostString}
      {maxCreators : U32} (lowered : 0 < maxCreators ∧ maxCreators ≤ getCreatorCount storage) :
      Imposes host storage (.register caller username displayName bio) .capExceeded
        (.setMaxCreators admin maxCreators)
  | creatorsFilled {caller owner : Address} {username other : Symbol}
      {displayName bio otherName otherBio : HostString}
      (last : 0 < getMaxCreators storage ∧
        (getMaxCreators storage).val ≤ (getCreatorCount storage).val + 1) :
      Imposes host storage (.register caller username displayName bio) .capExceeded
        (.register owner other otherName otherBio)
  | left {call : Call Address Symbol} {owner : Address} (user : call.IsUserCall)
      (other : ∀ username displayName bio, call ≠ .register owner username displayName bio)
      (account : call.account = some owner) :
      Imposes host storage call .creatorNotFound (.unregister owner)
  | credited {caller sender token : Address} {amount : I128} {message : HostString}
      (positive : 0 < (getBalance storage caller token).val + (amount.val -
        (amount.val * (getFeePercentage storage).val).tdiv MAX_FEE_BPS.val)) :
      Imposes host storage (.unregister caller) .balanceNotEmpty
        (.tip sender caller token amount message)
  | minimumRaised {sender creator token admin : Address} {amount minTipAmount : I128}
      {message : HostString} (raised : 0 < minTipAmount ∧ amount < minTipAmount) :
      Imposes host storage (.tip sender creator token amount message) .belowMinimum
        (.setMinTipAmount admin minTipAmount)
  | tipsLowered {sender creator token admin : Address} {amount : I128} {message : HostString}
      {maxTips : U32}
      (lowered : 0 < maxTips ∧ U32.asU64 maxTips ≤ getTipCount storage creator) :
      Imposes host storage (.tip sender creator token amount message) .capExceeded
        (.setMaxTipsPerCreator admin maxTips)
  | tipsFilled {sender creator token other otherToken : Address} {amount otherAmount : I128}
      {message otherMessage : HostString}
      (last : 0 < getMaxTipsPerCreator storage ∧
        (getMaxTipsPerCreator storage).val ≤ (getTipCount storage creator).val + 1) :
      Imposes host storage (.tip sender creator token amount message) .capExceeded
        (.tip other creator otherToken otherAmount otherMessage)
  | spent {caller token : Address} {amount other : I128}
      (short : (getBalance storage caller token).val - other.val < amount.val) :
      Imposes host storage (.withdraw caller token amount) .insufficientBalance
        (.withdraw caller token other)

/-- A step that brings about the condition behind an error of a call. -/
def Label.Imposes (call : Call Address Symbol) (error : TipError)
    (state : State Address Symbol World) : Label host Symbol → Prop
  | .accepted _ other _ => StellarTip.Imposes host state.storage call error other
  | .rejected .. | .outside => False

variable [DecidableEq Symbol] {env : Env host} {state state' start stop : State Address Symbol World}
  {call other : Call Address Symbol} {receipt : Receipt Address Symbol} {error : TipError}
  {labels : List (Label host Symbol)}

namespace Account.Step

variable {account account' : Account Address Symbol} {feeBps : U32} {owner token : Address}

omit [DecidableEq Symbol] in
/-- A username is taken by registration alone. -/
theorem username_kept_or_registered
    (h : Account.Step env feeBps owner account call receipt account') {profile' : CreatorProfile Symbol}
    (hprofile : account'.profile = some profile') :
    (∃ profile, account.profile = some profile ∧ profile.username = profile'.username) ∨
      ∃ displayName bio, call = .register owner profile'.username displayName bio := by
  cases h with
  | opened =>
    obtain rfl := Option.some.inj hprofile
    exact .inr ⟨_, _, rfl⟩
  | edited _ registered =>
    obtain rfl := Option.some.inj hprofile
    exact .inl ⟨_, registered, rfl⟩
  | closed => cases hprofile
  | credited | other => exact .inl ⟨profile', hprofile, rfl⟩
  | debited => exact .inl ⟨profile', (profile_debited _ _ _).symm.trans hprofile, rfl⟩

omit [DecidableEq Symbol] in
/-- A tracked token comes to a credit by a tip alone. -/
theorem tracked_and_pos_or_tipped (h : Account.Step env feeBps owner account call receipt account')
    (htracked : token ∈ account'.tracked) (hpos : 0 < account'.balance token) :
    (token ∈ account.tracked ∧ 0 < account.balance token) ∨
      ∃ sender amount message, call = .tip sender owner token amount message := by
  cases h with
  | opened | edited | other => exact .inl ⟨htracked, hpos⟩
  | closed => exact absurd htracked (SortedSet.not_mem_empty token)
  | @credited sender tipped amount _ _ message =>
    rw [tracked_credited, SortedSet.mem_insert] at htracked
    rw [balance_credited] at hpos
    by_cases heq : token = tipped
    · subst heq
      exact .inr ⟨sender, amount, message, rfl⟩
    · rw [if_neg heq] at hpos
      exact .inl ⟨htracked.resolve_left heq, hpos⟩
  | @debited withdrawn amount remaining _ _ positive sufficient remaining_val =>
    rw [balance_debited _ _ _ (remaining_nonneg sufficient remaining_val)] at hpos
    rw [tracked_debited] at htracked
    by_cases heq : token = withdrawn
    · subst heq
      rw [if_pos rfl] at hpos
      rw [if_pos hpos] at htracked
      exact .inl ⟨htracked, positive.trans_le sufficient⟩
    · rw [if_neg heq] at hpos
      refine .inl ⟨?_, hpos⟩
      split at htracked
      · exact htracked
      · exact (SortedSet.mem_remove.mp htracked).2

omit [DecidableEq Symbol] in
/-- Only a tip raises a count. -/
theorem le_count (h : Account.Step env feeBps owner account call receipt account')
    (hcall : ∀ sender token amount message, call ≠ .tip sender owner token amount message) :
    account'.count ≤ account.count := by
  cases h with
  | opened => exact BoundedInt.le_def.mpr account.count.lo_le
  | closed => exact BoundedInt.le_def.mpr account.count.lo_le
  | edited | other => exact le_rfl
  | credited => exact absurd rfl (hcall _ _ _ _)
  | debited => rw [count_debited]

end Account.Step

/-- Only registration raises the number of creators. -/
theorem Accepts.le_getCreatorCount (h : ReachableState host state)
    (haccepts : Accepts env state other receipt state') (hadmin : getAdmin state.storage ≠ none)
    (hcall : ∀ owner username displayName bio, other ≠ .register owner username displayName bio) :
    getCreatorCount state'.storage ≤ getCreatorCount state.storage := by
  cases haccepts with
  | init _ fresh => exact absurd fresh hadmin
  | @configure _ change => rw [getCreatorCount_setInstance _ change.isConfig]
  | register => exact absurd rfl (hcall _ _ _ _)
  | unregister authorized ready registered emptied =>
    have hfewer := (count_of_unregister h (.unregister authorized ready registered emptied)).2
    rw [BoundedInt.le_def, hfewer]
    omega
  | updateProfile => simp [getCreatorCount]
  | tip => simp [getCreatorCount]
  | withdraw => simp [getCreatorCount]

/-- A tip takes the next index. -/
theorem Accepts.getTipCount_of_tip {sender creator token : Address} {amount : I128}
    {message : HostString}
    (haccepts : Accepts env state (.tip sender creator token amount message) receipt state') :
    (getTipCount state'.storage creator).val = (getTipCount state.storage creator).val + 1 := by
  obtain ⟨-, _, newBalance, nextIndex, _, _, accepted, -, rfl⟩ := haccepts.of_tip
  rw [← accepted.nextIndex_val, ← Storage.account_count, Storage.account_afterTip_self,
    Account.count_credited]

/-! ## Nothing in the way -/

/-- No condition that the contract checks stands against the call. -/
def Clear (host : Host Address World) (storage : Storage Address Symbol) (call : Call Address Symbol) :
    Prop :=
  ∀ error, ¬Blocked host storage call error

namespace Clear

omit [DecidableEq Symbol] in
theorem admin_ne_none {storage : Storage Address Symbol} (h : Clear host storage call)
    (hinit : ∀ caller feeRecipient feeBps maxCreators maxTipsPerCreator minTipAmount,
      call ≠ .init caller feeRecipient feeBps maxCreators maxTipsPerCreator minTipAmount) :
    getAdmin storage ≠ none := by
  intro huninitialized
  refine h _ (.notInitialized ?_ huninitialized)
  cases call with
  | init => exact absurd rfl (hinit _ _ _ _ _ _)
  | register | updateProfile | unregister | tip | withdraw => exact .inl trivial
  | _ => exact .inr ⟨_, rfl⟩

/-- A call stays clear under every other call that does not get in its way. -/
theorem accepts (h : ReachableState host state) (hclear : Clear host state.storage call)
    (haccepts : Accepts env state other receipt state')
    (himposes : ∀ error, ¬Imposes host state.storage call error other) :
    Clear host state'.storage call := by
  have hreach : ReachableState host state' := h.step (.accepted (invoke_eq_ok_iff.mpr haccepts))
  have hfeeBps := (ConfigurationInvariant.of_reachable h).feeBps_le
  intro error hblocked
  cases hblocked with
  | notInitialized _ uninitialized => exact haccepts.admin_ne_none uninitialized
  | alreadyInitialized =>
    by_cases hadmin : getAdmin state.storage = none
    · rcases haccepts.isInit_or_admin_stored with ⟨_, _, _, _, _, _, rfl, -, -⟩ | hstored
      · exact himposes _ .initialized
      · exact KeyedStore.not_has_iff.mpr hadmin hstored
    · exact hclear _ (.alreadyInitialized hadmin)
  | paused user paused =>
    have hget : state'.storage.instanceTier.get .paused = _ := haccepts.get_config trivial
    rw [isPaused, hget] at paused
    cases other with
    | init => cases paused
    | unpause => cases paused
    | pause => exact himposes _ (.paused user)
    | _ => exact hclear _ (.paused user paused)
  | notAuthorized setter notAdmin =>
    rw [haccepts.getAdmin_eq] at notAdmin
    cases happoints : other.appoints with
    | none =>
      rw [happoints] at notAdmin
      exact hclear _ (.notAuthorized setter notAdmin)
    | some successor =>
      rw [happoints] at notAdmin
      exact himposes _ (.replaced setter happoints fun heq ↦ notAdmin (congrArg some heq))
  | invalidInput malformed => exact hclear _ (.invalidInput malformed)
  | invalidAmount moves nonpositive => exact hclear _ (.invalidAmount moves nonpositive)
  | @creatorAlreadyExists caller username displayName bio registered =>
    by_cases hbefore : getProfile state.storage caller = none
    · refine registered ((haccepts.accountStep caller).profile_eq_none hbefore ?_)
      rintro other otherName otherBio rfl
      exact himposes _ .registered
    · exact hclear _ (.creatorAlreadyExists hbefore)
  | @usernameTaken caller username displayName bio taken =>
    obtain ⟨owner, howned⟩ := Option.ne_none_iff_exists'.mp taken
    obtain ⟨profile', hprofile', rfl⟩ :=
      (UsernameInvariant.of_reachable hreach username owner).mp howned
    rcases (haccepts.accountStep owner).username_kept_or_registered hprofile' with
      ⟨profile, hprofile, husername⟩ | ⟨otherName, otherBio, rfl⟩
    · have hbefore := (UsernameInvariant.of_reachable h _ owner).mpr ⟨profile, hprofile, husername⟩
      exact hclear _ (.usernameTaken (Option.ne_none_iff_exists'.mpr ⟨owner, hbefore⟩))
    · exact himposes _ .usernameClaimed
  | @creatorsCapped caller username displayName bio capped =>
    have hadmin := hclear.admin_ne_none fun _ _ _ _ _ _ heq ↦ by cases heq
    have hcount := haccepts.le_getCreatorCount h hadmin
    have hget : state'.storage.instanceTier.get .maxCreators = _ := haccepts.get_config trivial
    rw [getMaxCreators, hget] at capped
    cases other with
    | init =>
      rw [haccepts.storage_eq_empty_of_init h] at hadmin
      exact hadmin rfl
    | register =>
      refine himposes _ (.creatorsFilled ⟨capped.1, ?_⟩)
      rw [← count_of_register haccepts]
      exact BoundedInt.le_def.mp capped.2
    | setMaxCreators =>
      have hkept := hcount fun _ _ _ _ heq ↦ by cases heq
      exact himposes _ (.creatorsLowered ⟨capped.1, capped.2.trans hkept⟩)
    | _ =>
      have hkept := hcount fun _ _ _ _ heq ↦ by cases heq
      exact hclear _ (.creatorsCapped ⟨capped.1, capped.2.trans hkept⟩)
  | @creatorNotFound call owner user hother account unregistered =>
    cases hbefore : getProfile state.storage owner with
    | none => exact hclear _ (.creatorNotFound user hother account hbefore)
    | some profile =>
      by_cases hleft : other = .unregister owner
      · subst hleft
        exact himposes _ (.left user hother account)
      · obtain ⟨profile', hprofile', -⟩ := (haccepts.accountStep owner).profile_kept hbefore hleft
        cases hprofile'.symm.trans unregistered
  | @balanceNotEmpty caller token tracked positive =>
    rcases (haccepts.accountStep caller).tracked_and_pos_or_tipped tracked positive with
      ⟨tracked, positive⟩ | ⟨sender, amount, message, rfl⟩
    · exact hclear _ (.balanceNotEmpty tracked positive)
    · refine himposes _ (.credited ?_)
      rw [← haccepts.getBalance_of_tip]
      exact BoundedInt.lt_def.mp positive
  | @belowMinimum sender creator token amount message below =>
    have hget : state'.storage.instanceTier.get .minTipAmount = _ := haccepts.get_config trivial
    rw [getMinTipAmount, hget] at below
    cases other with
    | init =>
      refine hclear.admin_ne_none (fun _ _ _ _ _ _ heq ↦ by cases heq) ?_
      rw [haccepts.storage_eq_empty_of_init h]
      rfl
    | setMinTipAmount => exact himposes _ (.minimumRaised below)
    | _ => exact hclear _ (.belowMinimum below)
  | @tipsCapped sender creator token amount message capped =>
    have hadmin := hclear.admin_ne_none fun _ _ _ _ _ _ heq ↦ by cases heq
    have haccount := haccepts.accountStep creator
    rcases capped with unregistered | capped
    · cases hbefore : getProfile state.storage creator with
      | none => exact hclear _ (.tipsCapped (.inl hbefore))
      | some profile =>
        by_cases hleft : other = .unregister creator
        · subst hleft
          exact himposes _ (.left trivial (fun _ _ _ heq ↦ by cases heq) rfl)
        · obtain ⟨profile', hprofile', -⟩ := haccount.profile_kept hbefore hleft
          cases hprofile'.symm.trans unregistered
    · by_cases htip : ∃ sender token amount message, other = .tip sender creator token amount message
      · obtain ⟨otherSender, otherToken, otherAmount, otherMessage, rfl⟩ := htip
        rw [getMaxTipsPerCreator, haccepts.instanceTier_of_token (Option.some_ne_none _)] at capped
        have hfull := BoundedInt.le_def.mp capped.2
        rw [haccepts.getTipCount_of_tip] at hfull
        exact himposes _ (.tipsFilled ⟨capped.1, hfull⟩)
      · have hcount : getTipCount state'.storage creator ≤ getTipCount state.storage creator :=
          haccount.le_count fun _ _ _ _ heq ↦ htip ⟨_, _, _, _, heq⟩
        have hget : state'.storage.instanceTier.get .maxTipsPerCreator = _ :=
          haccepts.get_config trivial
        rw [getMaxTipsPerCreator, hget] at capped
        cases other with
        | init =>
          rw [haccepts.storage_eq_empty_of_init h] at hadmin
          exact hadmin rfl
        | setMaxTipsPerCreator =>
          exact himposes _ (.tipsLowered ⟨capped.1, capped.2.trans hcount⟩)
        | _ => exact hclear _ (.tipsCapped (.inr ⟨capped.1, capped.2.trans hcount⟩))
  | @insufficientBalance caller token amount insufficient =>
    by_cases hlt : getBalance state.storage caller token < amount
    · exact hclear _ (.insufficientBalance hlt)
    · obtain ⟨spent, rfl, -, hval, -⟩ := (haccepts.accountStep caller).withdraw_of_balance_lt hfeeBps
        (insufficient.trans_le (not_lt.mp hlt))
      refine himposes _ (.spent ?_)
      have hshort := BoundedInt.lt_def.mp insufficient
      rw [Storage.account_balance, Storage.account_balance] at hval
      omega

/-- A clear call fails only unsigned, in the token contract or by an amount out of range. -/
theorem failure (h : ReachableState host state) (hclear : Clear host state.storage call)
    {failure : Failure} (hfailed : invoke env call state = .error failure) :
    (failure = .unauthorized ∧ env.authorized call.signer = false) ∨ failure = .overflow ∨
      ∃ error, failure = .callee error := by
  have hrefuses := refuses_of_invoke_eq_error hfailed
  by_cases hcode : ∃ error, failure = .tipError error
  · obtain ⟨error, rfl⟩ := hcode
    exact absurd (hrefuses.blocked h) (hclear error)
  cases hrefuses with
  | unauthorized unsigned => exact .inl ⟨rfl, unsigned⟩
  | countOverflow => exact .inr (.inl rfl)
  | payoutRefused => exact .inr (.inr ⟨_, rfl⟩)
  | tipBroken _ _ broken =>
    cases broken with
    | product | remainder | credit | index => exact .inr (.inl rfl)
    | deposit | fee => exact .inr (.inr ⟨_, rfl⟩)
    | feeRecipientNotSet => exact absurd ⟨_, rfl⟩ hcode
  | tokensMissing _ checked left missing =>
    cases (has_tokens_of_pos h (checked.positive.trans left)).symm.trans missing
  | _ => exact absurd ⟨_, rfl⟩ hcode

end Clear

/-- A call that gets in the way stands there once it is accepted. -/
theorem Imposes.blocked (h : Imposes host state.storage call error other)
    (haccepts : Accepts env state other receipt state') : Blocked host state'.storage call error := by
  cases h with
  | initialized => exact .alreadyInitialized haccepts.admin_ne_none
  | paused user =>
    obtain rfl := haccepts.eq_of_setter rfl
    exact .paused user rfl
  | replaced setter appoints ne =>
    refine .notAuthorized setter ?_
    rw [haccepts.getAdmin_eq, appoints]
    exact fun heq ↦ ne (Option.some.inj heq)
  | registered =>
    refine .creatorAlreadyExists ?_
    cases haccepts with
    | register => simp [getProfile]
    | configure setter => cases setter
  | usernameClaimed =>
    refine .usernameTaken ?_
    cases haccepts with
    | register => simp [getCreatorFromUsername]
    | configure setter => cases setter
  | creatorsLowered lowered =>
    obtain rfl := haccepts.eq_of_setter rfl
    exact .creatorsCapped lowered
  | creatorsFilled last =>
    have hget : state'.storage.instanceTier.get .maxCreators = _ := haccepts.get_config trivial
    refine .creatorsCapped ?_
    rw [getMaxCreators, hget, BoundedInt.le_def, count_of_register haccepts]
    exact last
  | left user other account =>
    obtain ⟨-, profile, -, -, -, rfl⟩ := haccepts.of_unregister
    refine .creatorNotFound user other account ?_
    exact congrArg Account.profile (state.storage.account_afterUnregister_self _ profile)
  | @credited caller sender token amount message positive =>
    rw [← haccepts.getBalance_of_tip] at positive
    obtain ⟨-, _, newBalance, nextIndex, _, _, -, -, rfl⟩ := haccepts.of_tip
    refine .balanceNotEmpty ?_ (BoundedInt.lt_def.mpr positive)
    rw [← Storage.account_tracked, Storage.account_afterTip_self, Account.tracked_credited]
    exact SortedSet.mem_insert.mpr (.inl rfl)
  | minimumRaised raised =>
    obtain rfl := haccepts.eq_of_setter rfl
    exact .belowMinimum raised
  | tipsLowered lowered =>
    obtain rfl := haccepts.eq_of_setter rfl
    exact .tipsCapped (.inr lowered)
  | tipsFilled last =>
    refine .tipsCapped (.inr ?_)
    rw [getMaxTipsPerCreator, haccepts.instanceTier_of_token (Option.some_ne_none _),
      BoundedInt.le_def, haccepts.getTipCount_of_tip]
    exact last
  | @spent caller token amount other short =>
    refine .insufficientBalance (BoundedInt.lt_def.mpr ?_)
    rw [haccepts.getBalance_of_withdraw token, if_pos rfl]
    exact short

end StellarTip
