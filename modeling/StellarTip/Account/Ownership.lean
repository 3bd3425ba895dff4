import StellarTip.Account.Registry

/-!
# Who can alter an account

For every accepted call and every address: the balance falls only by the owner's own withdrawal, the
other entries change only by the owner's own calls or, growing, by a tip, and the contract sends
tokens out only as a withdrawal to its caller or as the fee of the tip that just came in. Calls of
the admin leave every account as it is.
-/

namespace StellarTip

open Foundation TipContract

variable {Address Symbol World : Type} [LinearOrder Address] {host : Host Address World}

/-- The calls by which an owner manages the own account. -/
def Call.IsOwnerCall (owner : Address) : Call Address Symbol → Prop
  | .register caller .. | .updateProfile caller .. | .unregister caller | .withdraw caller .. =>
      caller = owner
  | _ => False

/-- `init` and the admin setters. -/
def Call.IsAdminCall : Call Address Symbol → Prop
  | .register .. | .updateProfile .. | .unregister .. | .tip .. | .withdraw .. => False
  | _ => True

namespace Account.Step

variable {account account' : Account Address Symbol} {env : Env host} {feeBps : U32}
  {owner : Address} {call : Call Address Symbol} {receipt : Receipt Address Symbol}

/-- An account changes by an authorized call of its owner, or grows by a tip. -/
theorem owner_or_credited (hfeeBps : feeBps ≤ MAX_FEE_BPS)
    (h : Account.Step env feeBps owner account call receipt account') :
    account' = account ∨ (call.IsOwnerCall owner ∧ env.authorized owner = true) ∨
      ∃ sender token amount message newBalance nextIndex,
        call = .tip sender owner token amount message ∧ account.balance token ≤ newBalance ∧
          nextIndex.val = account.count.val + 1 ∧
          account' = account.credited newBalance nextIndex
            { sender, token, amount, message, timestamp := env.timestamp } := by
  cases h with
  | opened authorized => exact .inr (.inl ⟨rfl, authorized⟩)
  | edited authorized => exact .inr (.inl ⟨rfl, authorized⟩)
  | closed authorized => exact .inr (.inl ⟨rfl, authorized⟩)
  | credited _ positive fee_val newBalance_val nextIndex_val =>
    have hfee := fee_bounds positive hfeeBps fee_val
    refine .inr (.inr ⟨_, _, _, _, _, _, rfl, BoundedInt.le_def.mpr ?_, nextIndex_val, rfl⟩)
    omega
  | debited authorized => exact .inr (.inl ⟨rfl, authorized⟩)
  | other => exact .inl rfl

/-- A balance falls only by a withdrawal of its owner, by exactly what the owner is sent. -/
theorem withdraw_of_balance_lt (hfeeBps : feeBps ≤ MAX_FEE_BPS)
    (h : Account.Step env feeBps owner account call receipt account') {token : Address}
    (hlt : account'.balance token < account.balance token) :
    ∃ amount, call = .withdraw owner token amount ∧ env.authorized owner = true ∧
      (account.balance token).val - (account'.balance token).val = amount.val ∧
      receipt.transfers = [⟨token, host.currentContractAddress, owner, amount⟩] := by
  cases h with
  | opened => exact absurd hlt (lt_irrefl _)
  | edited => exact absurd hlt (lt_irrefl _)
  | closed => exact absurd hlt (lt_irrefl _)
  | @credited _ tipped amount fee newBalance _ _ _ _ positive fee_val newBalance_val =>
    have hfee := fee_bounds positive hfeeBps fee_val
    rw [balance_credited] at hlt
    split at hlt
    · rename_i heq
      subst heq
      have hval : newBalance.val < (account.balance token).val := BoundedInt.lt_def.mp hlt
      omega
    · exact absurd hlt (lt_irrefl _)
  | @debited withdrawn amount remaining authorized _ _ sufficient remaining_val =>
    rw [balance_debited _ _ _ (remaining_nonneg sufficient remaining_val)] at hlt ⊢
    split at hlt
    · rename_i heq
      subst heq
      refine ⟨amount, rfl, authorized, ?_, rfl⟩
      rw [if_pos rfl]
      omega
    · exact absurd hlt (lt_irrefl _)
  | other => exact absurd hlt (lt_irrefl _)

/-- A balance rises only by a tip in its token. -/
theorem tip_of_balance_gt (h : Account.Step env feeBps owner account call receipt account')
    {token : Address} (hlt : account.balance token < account'.balance token) :
    ∃ sender amount message, call = .tip sender owner token amount message := by
  cases h with
  | opened => exact absurd hlt (lt_irrefl _)
  | edited => exact absurd hlt (lt_irrefl _)
  | closed => exact absurd hlt (lt_irrefl _)
  | @credited sender tipped amount _ _ message =>
    rw [balance_credited] at hlt
    split at hlt
    · rename_i heq
      subst heq
      exact ⟨sender, amount, message, rfl⟩
    · exact absurd hlt (lt_irrefl _)
  | @debited withdrawn amount remaining _ _ positive sufficient remaining_val =>
    rw [balance_debited _ _ _ (remaining_nonneg sufficient remaining_val)] at hlt
    split at hlt
    · rename_i heq
      subst heq
      have hval := BoundedInt.lt_def.mp hlt
      have hpositive := BoundedInt.lt_def.mp positive
      rw [I128.val_zero] at hpositive
      omega
    · exact absurd hlt (lt_irrefl _)
  | other => exact absurd hlt (lt_irrefl _)

theorem eq_of_isAdminCall (h : Account.Step env feeBps owner account call receipt account')
    (hadmin : call.IsAdminCall) : account' = account := by
  cases h with
  | other => rfl
  | _ => exact hadmin.elim

end Account.Step

variable [DecidableEq Symbol]

/-- What an accepted call may do to the account of `owner`. -/
structure OnlyOwnerAlters (env : Env host) (call : Call Address Symbol)
    (receipt : Receipt Address Symbol) (storage storage' : Storage Address Symbol)
    (owner : Address) : Prop where
  balance_lt : ∀ token, getBalance storage' owner token < getBalance storage owner token →
    ∃ amount, call = .withdraw owner token amount ∧ env.authorized owner = true ∧
      (getBalance storage owner token).val - (getBalance storage' owner token).val = amount.val ∧
      receipt.transfers = [⟨token, host.currentContractAddress, owner, amount⟩]
  balance_gt : ∀ token, getBalance storage owner token < getBalance storage' owner token →
    ∃ sender amount message, call = .tip sender owner token amount message
  profile : getProfile storage' owner ≠ getProfile storage owner →
    call.IsOwnerCall owner ∧ env.authorized owner = true
  username : ∀ username, ¬(getCreatorFromUsername storage' username = some owner ↔
      getCreatorFromUsername storage username = some owner) →
    call.IsOwnerCall owner ∧ env.authorized owner = true
  tokens : storage'.persistentTier.get (.creatorTokens owner) ≠
      storage.persistentTier.get (.creatorTokens owner) →
    (call.IsOwnerCall owner ∧ env.authorized owner = true) ∨
      ∃ sender token amount message, call = .tip sender owner token amount message ∧
        storage'.persistentTier.get (.creatorTokens owner) =
          some ((trackedTokens storage owner).insert token)
  tipCount : storage'.persistentTier.get (.tipCount owner) ≠
      storage.persistentTier.get (.tipCount owner) →
    (call.IsOwnerCall owner ∧ env.authorized owner = true) ∨
      ∃ sender token amount message nextIndex, call = .tip sender owner token amount message ∧
        storage'.persistentTier.get (.tipCount owner) = some nextIndex ∧
        nextIndex.val = (getTipCount storage owner).val + 1

variable {env : Env host} {call : Call Address Symbol} {receipt : Receipt Address Symbol}
  {state state' : State Address Symbol World}

theorem onlyOwnerAlters (h : ReachableState host state)
    (hstep : Step host state (.accepted env call receipt) state') (owner : Address) :
    OnlyOwnerAlters env call receipt state.storage state'.storage owner := by
  have hfeeBps := (ConfigurationInvariant.of_reachable h).feeBps_le
  have haccount := hstep.accepts.accountStep owner
  have hcases := haccount.owner_or_credited hfeeBps
  have hprofile : getProfile state'.storage owner ≠ getProfile state.storage owner →
      call.IsOwnerCall owner ∧ env.authorized owner = true := by
    intro hne
    rcases hcases with heq | howner | ⟨_, _, _, _, _, _, _, _, _, heq⟩
    · exact absurd (congrArg Account.profile heq) hne
    · exact howner
    · exact absurd (congrArg Account.profile heq) hne
  constructor
  · exact fun token hlt ↦ haccount.withdraw_of_balance_lt hfeeBps hlt
  · exact fun token hlt ↦ haccount.tip_of_balance_gt hlt
  · exact hprofile
  · intro username hchanged
    refine hprofile fun heq ↦ hchanged ?_
    rw [UsernameInvariant.of_reachable (h.step hstep) username owner,
      UsernameInvariant.of_reachable h username owner, heq]
  · intro hne
    rcases hcases with heq | howner | ⟨sender, token, amount, message, _, _, hcall, _, _, heq⟩
    · exact absurd (congrArg Account.tokens heq) hne
    · exact .inl howner
    · exact .inr ⟨sender, token, amount, message, hcall, congrArg Account.tokens heq⟩
  · intro hne
    rcases hcases with heq | howner |
      ⟨sender, token, amount, message, _, nextIndex, hcall, _, hnext, heq⟩
    · exact absurd (congrArg Account.tipCount heq) hne
    · exact .inl howner
    · exact .inr ⟨sender, token, amount, message, nextIndex, hcall,
        congrArg Account.tipCount heq, hnext⟩

/-- An outgoing transfer is a withdrawal to the caller within the recorded balance, or the fee of the
tip that the contract has just received. -/
def OutgoingJustified (host : Host Address World) (storage : Storage Address Symbol)
    (call : Call Address Symbol) (receipt : Receipt Address Symbol)
    (transfer : Transfer Address) : Prop :=
  (∃ caller token amount, call = .withdraw caller token amount ∧ receipt.transfers = [transfer] ∧
    transfer = ⟨token, host.currentContractAddress, caller, amount⟩ ∧
    amount ≤ getBalance storage caller token) ∨
  ∃ sender creator token amount message recipient fee index,
    call = .tip sender creator token amount message ∧
    receipt.transfers = [⟨token, sender, host.currentContractAddress, amount⟩, transfer] ∧
    transfer = ⟨token, host.currentContractAddress, recipient, fee⟩ ∧ fee ≤ amount ∧
    getFeeRecipient storage = some recipient ∧
    receipt.events = [.tipSent sender creator token amount fee index]

theorem outgoingJustified (h : ReachableState host state)
    (hstep : Step host state (.accepted env call receipt) state') {transfer : Transfer Address}
    (hmem : transfer ∈ receipt.transfers)
    (hsender : transfer.sender = host.currentContractAddress) :
    OutgoingJustified host state.storage call receipt transfer := by
  have hfeeBps := (ConfigurationInvariant.of_reachable h).feeBps_le
  cases hstep.accepts with
  | @tip sender creator token amount fee _ message _ forwarded settled authorized ready accepted =>
    rcases List.mem_cons.mp hmem with rfl | hforwarded
    · exact absurd hsender.symm (env.ne_of_authorized authorized)
    · obtain ⟨deposited, -, hforward⟩ := accepted.moved
      cases hforward with
      | free => cases hforwarded
      | @paid recipient settled positive configured moved =>
        obtain rfl := List.mem_singleton.mp hforwarded
        have hfee := fee_bounds accepted.positive hfeeBps accepted.fee_val
        exact .inr ⟨sender, creator, token, amount, message, recipient, fee, _, rfl, rfl, rfl,
          BoundedInt.le_def.mpr hfee.2, configured, rfl⟩
  | @withdraw caller token amount _ _ _ _ accepted =>
    obtain rfl := List.mem_singleton.mp hmem
    exact .inl ⟨caller, token, amount, rfl, rfl, rfl, accepted.sufficient⟩
  | _ => cases hmem

/-- An accepted call of this step is a call of the admin. -/
def Label.IsAdmin : Label host Symbol → Prop
  | .accepted _ call _ => call.IsAdminCall
  | .rejected .. | .outside => True

theorem Accepts.transfers_of_isAdminCall (h : Accepts env state call receipt state')
    (hadmin : call.IsAdminCall) : receipt.transfers = [] := by
  cases h with
  | init => rfl
  | configure => rfl
  | _ => exact hadmin.elim

/-- No sequence of admin calls changes an account or sends tokens. -/
theorem accounts_of_admin_run {start stop : State Address Symbol World}
    {labels : List (Label host Symbol)} (run : Run (Step host) start labels stop)
    (hadmin : ∀ label ∈ labels, label.IsAdmin) :
    (∀ owner, stop.storage.account owner = start.storage.account owner) ∧
      labels.flatMap Label.transfers = [] := by
  induction run with
  | nil => exact ⟨fun _ ↦ rfl, rfl⟩
  | @snoc labels before stop label init last ih =>
    obtain ⟨haccounts, htransfers⟩ := ih fun label hmem ↦ hadmin label (List.mem_append_left _ hmem)
    have hlabel : label.IsAdmin := hadmin label (List.mem_append_right _ (List.mem_singleton_self _))
    rw [List.flatMap_append, htransfers]
    cases last with
    | accepted ok =>
      have haccepts := invoke_eq_ok_iff.mp ok
      refine ⟨fun owner ↦ ?_, ?_⟩
      · rw [(haccepts.accountStep owner).eq_of_isAdminCall hlabel, haccounts]
      · simp [Label.transfers, haccepts.transfers_of_isAdminCall hlabel]
    | rejected => exact ⟨haccounts, rfl⟩
    | outside => exact ⟨haccounts, rfl⟩

/-- Only its owner takes from an account or alters it, the contract sends tokens out only for a
withdrawal or a fee, and the admin can do neither. -/
theorem only_owner_alters_account (h : ReachableState host state) :
    (∀ (env : Env host) call receipt state',
      Step host state (.accepted env call receipt) state' →
        (∀ owner, OnlyOwnerAlters env call receipt state.storage state'.storage owner) ∧
          ∀ transfer ∈ receipt.transfers, transfer.sender = host.currentContractAddress →
            OutgoingJustified host state.storage call receipt transfer) ∧
      ∀ labels stop, Run (Step host) state labels stop → (∀ label ∈ labels, label.IsAdmin) →
        (∀ owner, stop.storage.account owner = state.storage.account owner) ∧
          labels.flatMap Label.transfers = [] :=
  ⟨fun _ _ _ _ hstep ↦ ⟨onlyOwnerAlters h hstep, fun _ hmem ↦ outgoingJustified h hstep hmem⟩,
    fun _ _ run hadmin ↦ accounts_of_admin_run run hadmin⟩

/-- The admin raises the fee to 100%, pauses and hands over. -/
def handedOverMarket : List MarketCall :=
  [(signedBy marketHost 1 (u64 104), .setFeePercentage 1 (u32 10000)),
    (signedBy marketHost 1 (u64 105), .pause 1), (signedBy marketHost 1 (u64 106), .setAdmin 1 4)]

/-- A tipped creator loses nothing to the admin, and withdraws alone. -/
theorem only_owner_alters_market_account :
    (replay tippedMarket handedOverMarket).2.storage.account 3 = tippedMarket.storage.account 3 ∧
      OnlyOwnerAlters (signedBy marketHost 3 (u64 104)) (.withdraw 3 7 (i128 95))
        ⟨none, [.withdraw 3 7 (i128 95)], [⟨7, 0, 3, i128 95⟩]⟩ tippedMarket.storage
        (perform (signedBy marketHost 3 (u64 104)) (.withdraw 3 7 (i128 95)) tippedMarket).2.storage
        3 := by
  have hadmin : ∀ label ∈ (replay tippedMarket handedOverMarket).1, label.IsAdmin := by
    intro label hmem
    simp only [handedOverMarket, replay, List.mem_cons, List.not_mem_nil, or_false] at hmem
    rcases hmem with rfl | rfl | rfl <;> trivial
  exact ⟨((only_owner_alters_account tippedMarket_reachable).2 _ _ (run_replay _ _) hadmin).1 3,
    ((only_owner_alters_account tippedMarket_reachable).1 _ _ _ _
      (step_perform (signedBy marketHost 3 (u64 104)) (.withdraw 3 7 (i128 95)) _)).1 3⟩

end StellarTip
