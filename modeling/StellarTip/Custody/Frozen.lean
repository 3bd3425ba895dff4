import StellarTip.Account.Credit
import StellarTip.Rebasing.Token

/-!
# A token that refuses every transfer

A token can stop working: wiped out by a rebase, paused or taken from the contract's reach. While it
refuses every transfer, nobody is tipped in it and nobody withdraws it, and what is recorded in it stays
recorded. The credit keeps its creators registered, since `unregister` asks the records of the contract
and not the token.
-/

namespace StellarTip

open Foundation TipContract

variable {Address Symbol World : Type} [LinearOrder Address] {host : Host Address World}

def Frozen (host : Host Address World) (token : Address) (world : World) : Prop :=
  ∀ sender recipient amount, ∃ error,
    host.transfer world token sender recipient amount = .error error

omit [LinearOrder Address] in
theorem Frozen.transfer_ne {token : Address} {world settled : World} (h : Frozen host token world)
    {sender recipient : Address} {amount : I128} :
    host.transfer world token sender recipient amount ≠ .ok settled := by
  obtain ⟨error, herror⟩ := h sender recipient amount
  rw [herror]
  intro h
  cases h

variable [DecidableEq Symbol] {env : Env host} {call : Call Address Symbol}
  {receipt : Receipt Address Symbol} {start state state' stop : State Address Symbol World}
  {label : Label host Symbol} {labels : List (Label host Symbol)} {token caller : Address}
  {amount : I128}

/-- A withdrawal that passes the checks of the contract fails when the token refuses it. -/
theorem withdraw_fails_of_refused (hreach : ReachableState host state) (hready : state.storage.Ready)
    (hauth : env.authorized caller = true)
    (checked : WithdrawChecked state.storage caller token amount) {error : CalleeError}
    (hrefused : host.transfer state.world token host.currentContractAddress caller amount =
      .error error) :
    invoke env (.withdraw caller token amount) state = .error (.callee error) := by
  rcases accepts_or_refuses env (.withdraw caller token amount) state with
    ⟨receipt, state', haccepts⟩ | ⟨failure, herror, hrefuses⟩
  · obtain ⟨-, remaining, settled, accepted, -, -⟩ := haccepts.of_withdraw
    cases hrefused.symm.trans accepted.moved
  · cases hrefuses with
    | payoutRefused _ _ refused =>
      obtain rfl := Except.error.inj (hrefused.symm.trans refused)
      exact herror
    | unauthorized unsigned => exact absurd (hauth.symm.trans unsigned) (by decide)
    | uninitialized _ uninitialized => exact absurd uninitialized (Storage.Ready.admin_ne_none hready)
    | paused _ paused => exact absurd (hready.2.symm.trans paused) (by decide)
    | withdrawUnregistered unregistered =>
      exact absurd (checked.registered.symm.trans unregistered) (by decide)
    | withdrawInvalid nonpositive => exact absurd checked.positive (not_lt.mpr nonpositive)
    | insufficientBalance _ insufficient =>
      exact absurd checked.sufficient (not_le.mpr insufficient)
    | tokensMissing _ _ _ missing =>
      have hstored := has_tokens_of_pos hreach (checked.positive.trans_le checked.sufficient)
      exact absurd (hstored.symm.trans missing) (by decide)
    | setterUninitialized setter => cases setter
    | notAuthorized setter => cases setter
    | invalidSetting setter => cases setter

/-- A withdrawal that passes the checks of the contract succeeds when the token makes the transfer. -/
theorem withdraw_accepted_of_moved (hreach : ReachableState host state) (hready : state.storage.Ready)
    (hauth : env.authorized caller = true)
    (checked : WithdrawChecked state.storage caller token amount) {settled : World}
    (hmoved : host.transfer state.world token host.currentContractAddress caller amount =
      .ok settled) :
    ∃ receipt state', Accepts env state (.withdraw caller token amount) receipt state' ∧
      state'.world = settled := by
  obtain ⟨remaining, hremaining⟩ := exists_remaining checked.positive checked.sufficient
  exact ⟨_, _, .withdraw hauth hready ⟨checked.registered, checked.positive, checked.sufficient, hmoved,
    hremaining, fun _ ↦ has_tokens_of_pos hreach (checked.positive.trans_le checked.sufficient)⟩, rfl⟩

/-- An accepted call names no token that refuses every transfer. -/
theorem Accepts.token_ne_of_frozen (h : Accepts env state call receipt state')
    (hfrozen : Frozen host token state.world) : call.token ≠ some token := by
  intro htoken
  cases h with
  | tip _ _ accepted =>
    obtain rfl := Option.some.inj htoken
    obtain ⟨deposited, hdeposit, -⟩ := accepted.moved
    exact hfrozen.transfer_ne hdeposit
  | withdraw _ _ accepted =>
    obtain rfl := Option.some.inj htoken
    exact hfrozen.transfer_ne accepted.moved
  | configure setter => simp [Call.token_of_adminChange setter] at htoken
  | _ => cases htoken

theorem Step.getBalance_of_frozen (hstep : Step host state label state')
    (hfrozen : Frozen host token state.world) (owner : Address) :
    getBalance state'.storage owner token = getBalance state.storage owner token := by
  cases hstep with
  | accepted ok =>
    have haccepts := invoke_eq_ok_iff.mp ok
    exact (haccepts.accountStep owner).balance_eq_of_token_ne (haccepts.token_ne_of_frozen hfrozen)
  | rejected | outside => rfl

theorem getBalance_of_frozen_run
    (run : Run (restrict (Step host) fun state _ ↦ Frozen host token state.world) start labels stop)
    (owner : Address) : getBalance stop.storage owner token = getBalance start.storage owner token := by
  induction run with
  | nil => rfl
  | snoc _ last ih => exact (last.1.getBalance_of_frozen last.2 owner).trans ih

/-- **A frozen token is inert, and its credit holds its creators.** In every run during which a token
refuses every transfer, no accepted call names it, every recorded balance in it stays, and a creator with
such a balance stays registered. In a ready contract a signed attempt to unregister fails, and so does a
signed withdrawal, with the error of the token. -/
theorem frozen_credit_is_held (hreach : ReachableState host start)
    (run : Run (restrict (Step host) fun state _ ↦ Frozen host token state.world) start labels stop) :
    (∀ env call receipt, Label.accepted env call receipt ∈ labels → call.token ≠ some token ∧
      ∀ owner, call = .unregister owner → getBalance start.storage owner token = 0) ∧
    ∀ owner, getBalance stop.storage owner token = getBalance start.storage owner token ∧
      (0 < getBalance start.storage owner token →
        (∃ profile, getProfile stop.storage owner = some profile) ∧
        (stop.storage.Ready → ∀ env : Env host, env.authorized owner = true →
          invoke env (.unregister owner) stop = .error (.tipError .balanceNotEmpty) ∧
          (Frozen host token stop.world → ∀ amount, 0 < amount →
            amount ≤ getBalance start.storage owner token →
              ∃ error, invoke env (.withdraw owner token amount) stop = .error (.callee error)))) := by
  have hkept := getBalance_of_frozen_run run
  have hstop : ReachableState host stop := hreach.run run.unrestrict
  refine ⟨fun env call receipt hmem ↦ ?_, fun owner ↦ ⟨hkept owner, fun hpos ↦ ?_⟩⟩
  · obtain ⟨earlier, later, rfl⟩ := List.append_of_mem hmem
    obtain ⟨before, after, hfirst, ⟨hstep, hfrozen⟩, -⟩ := run.exists_step
    refine ⟨hstep.accepts.token_ne_of_frozen hfrozen, ?_⟩
    rintro owner rfl
    have hbefore : ReachableState host before := hreach.run hfirst.unrestrict
    rw [← getBalance_of_frozen_run hfirst owner]
    refine le_antisymm (not_lt.mp fun hpos ↦ ?_) (getBalance_nonneg hbefore owner token)
    obtain ⟨-, _, -, emptied, -, -⟩ := hstep.accepts.of_unregister
    have htracked := (covered_of_reachable hbefore owner).tracked_of_pos token hpos
    exact absurd hpos (not_lt.mpr (emptied token htracked))
  · have hpos' : 0 < getBalance stop.storage owner token := (hkept owner).symm ▸ hpos
    obtain ⟨profile, hprofile⟩ := Option.ne_none_iff_exists'.mp
      ((covered_of_reachable hstop owner).registered_of_pos token hpos')
    have hregistered : isCreator stop.storage owner = true := KeyedStore.has_iff.mpr ⟨profile, hprofile⟩
    refine ⟨⟨profile, hprofile⟩, fun hready env hauth ↦ ⟨?_, fun hfrozen amount hamount hle ↦ ?_⟩⟩
    · exact unregister_fails_of_balance hstop hready hregistered hauth hpos'.ne'
    · obtain ⟨error, hrefused⟩ := hfrozen host.currentContractAddress owner amount
      exact ⟨error, withdraw_fails_of_refused hstop hready hauth
        ⟨hregistered, hamount, hle.trans (hkept owner).ge⟩ hrefused⟩

theorem frozen_of_wiped {contract zeroAccount token : Address}
    {world : Address → RebasingToken Address} (h : (world token).num = 0) :
    Frozen (rebasingHost contract zeroAccount) token world := fun _ _ _ ↦
  ⟨_, rebasingTransfer_eq_error (RebasingToken.run_transfer_of_wiped h)⟩

/-- The tipped token is rebased to zero, the creator tries to withdraw and the supporter to tip, and the
credit still keeps the creator registered. -/
theorem frozen_credit_is_held_in_rebasingTipped :
    invoke (signedBy rebasingMarketHost 3 (u64 112)) (.unregister 3)
      (replay (rebasingTippedAt (i128 0) (i128 1))
        [(signedBy rebasingMarketHost 3 (u64 110), .withdraw 3 7 (i128 1000)),
          (signedBy rebasingMarketHost 5 (u64 111), .tip 5 3 7 (i128 10) [])]).2 =
      .error (.tipError .balanceNotEmpty) := by
  have hfrozen : AllowedAlong (fun state _ ↦ Frozen rebasingMarketHost 7 state.world)
      (rebasingTippedAt (i128 0) (i128 1))
      [(signedBy rebasingMarketHost 3 (u64 110), .withdraw 3 7 (i128 1000)),
        (signedBy rebasingMarketHost 5 (u64 111), .tip 5 3 7 (i128 10) [])] :=
    ⟨frozen_of_wiped (by decide), frozen_of_wiped (by decide), trivial⟩
  exact ((((frozen_credit_is_held (rebasingTippedAt_reachable _ _)
    (run_replay_of_allowed _ _ hfrozen)).2 3).2 (by decide)).2 ⟨by decide, by decide⟩ _
      (by decide)).1

end StellarTip
