import StellarTip.Account.Determination
import StellarTip.Custody.Solvency

/-!
# Calls on different accounts commute

A call on one account reads that account and the configuration, and what it does there depends on
nothing else. A call on another account changes neither. So two calls on different accounts do the
same in either order, although they share the creator count, the usernames and the ledgers of the
tokens: the first two are functions of the profiles, and exact transfers add up in any order.
-/

namespace StellarTip

open Foundation TipContract

variable {Address Symbol World : Type} [LinearOrder Address] {host : Host Address World}

variable {env : Env host} {owner : Address} {call : Call Address Symbol}
  {receipt receipt' : Receipt Address Symbol}

/-- A call does the same to an account that it finds the same. -/
theorem Account.Step.unique {feeBps : U32} {account next next' : Account Address Symbol}
    (h : Account.Step env feeBps owner account call receipt next)
    (h' : Account.Step env feeBps owner account call receipt' next')
    (hcall : call.account = some owner) :
    next = next' ∧ receipt.returned = receipt'.returned ∧ receipt.events = receipt'.events := by
  cases h with
  | opened =>
    cases h' with
    | opened => exact ⟨rfl, rfl, rfl⟩
    | other hother => exact absurd hcall hother
  | edited _ registered =>
    cases h' with
    | edited _ registered' =>
      cases registered.symm.trans registered'
      exact ⟨rfl, rfl, rfl⟩
    | other hother => exact absurd hcall hother
  | closed =>
    cases h' with
    | closed => exact ⟨rfl, rfl, rfl⟩
    | other hother => exact absurd hcall hother
  | @credited _ _ _ fee newBalance _ nextIndex _ _ _ fee_val newBalance_val nextIndex_val =>
    cases h' with
    | @credited _ _ _ fee' newBalance' _ nextIndex' _ _ _ fee_val' newBalance_val' nextIndex_val' =>
      have hfee : fee = fee' := BoundedInt.ext (fee_val.trans fee_val'.symm)
      have hbalance : newBalance = newBalance' := by
        apply BoundedInt.ext
        rw [newBalance_val, newBalance_val', hfee]
      have hindex : nextIndex = nextIndex' :=
        BoundedInt.ext (nextIndex_val.trans nextIndex_val'.symm)
      rw [hfee, hbalance, hindex]
      exact ⟨rfl, rfl, rfl⟩
    | other hother => exact absurd hcall hother
  | @debited _ _ remaining _ _ _ _ remaining_val =>
    cases h' with
    | @debited _ _ remaining' _ _ _ _ remaining_val' =>
      have hremaining : remaining = remaining' :=
        BoundedInt.ext (remaining_val.trans remaining_val'.symm)
      rw [hremaining]
      exact ⟨rfl, rfl, rfl⟩
    | other hother => exact absurd hcall hother
  | other hother => exact absurd hcall hother

omit [LinearOrder Address] in
/-- The forwarded fee is the same when the fee and its recipient are. -/
theorem FeeForwarded.unique {token : Address} {optFeeRecipient : Option Address} {fee : I128}
    {world world' settled settled' : World} {forwarded forwarded' : List (Transfer Address)}
    (h : FeeForwarded host token optFeeRecipient fee world forwarded settled)
    (h' : FeeForwarded host token optFeeRecipient fee world' forwarded' settled') :
    forwarded = forwarded' := by
  cases h with
  | free hfree =>
    cases h' with
    | free => rfl
    | paid positive => exact absurd positive (not_lt.mpr hfree)
  | paid positive configured =>
    cases h' with
    | free hfree => exact absurd positive (not_lt.mpr hfree)
    | paid _ configured' =>
      cases configured.symm.trans configured'
      rfl

variable [DecidableEq Symbol] {state state' next next' : State Address Symbol World}

omit [LinearOrder Address] [DecidableEq Symbol] in
theorem Call.isUserCall_of_account (h : call.account = some owner) : call.IsUserCall := by
  cases call <;> trivial

theorem Accepts.transfers_of_token_none (h : Accepts env state call receipt next)
    (hcall : call.token = none) : receipt.transfers = [] := by
  cases h with
  | tip => cases hcall
  | withdraw => cases hcall
  | _ => rfl

/-- A call issues the same transfers under the same configuration. -/
theorem Accepts.transfers_unique (h : Accepts env state call receipt next)
    (h' : Accepts env state' call receipt' next')
    (hfeeBps : getFeePercentage state.storage = getFeePercentage state'.storage)
    (hrecipient : getFeeRecipient state.storage = getFeeRecipient state'.storage) :
    receipt.transfers = receipt'.transfers := by
  cases call with
  | tip =>
    obtain ⟨-, fee, _, _, forwarded, _, accepted, rfl, -⟩ := h.of_tip
    obtain ⟨-, fee', _, _, forwarded', _, accepted', rfl, -⟩ := h'.of_tip
    have hfee : fee = fee' := by
      apply BoundedInt.ext
      rw [accepted.fee_val, accepted'.fee_val, hfeeBps]
    obtain ⟨deposited, -, hforward⟩ := accepted.moved
    obtain ⟨deposited', -, hforward'⟩ := accepted'.moved
    rw [hfee, hrecipient] at hforward
    exact congrArg (List.cons _) (hforward.unique hforward')
  | withdraw =>
    obtain ⟨-, _, _, -, rfl, -⟩ := h.of_withdraw
    obtain ⟨-, _, _, -, rfl, -⟩ := h'.of_withdraw
    rfl
  | _ => rw [h.transfers_of_token_none rfl, h'.transfers_of_token_none rfl]

/-- Under the same configuration and on the same account, a call does the same and returns the same. -/
theorem Accepts.agree (h : Accepts env state call receipt next)
    (h' : Accepts env state' call receipt' next') (hcall : call.account = some owner)
    (hconfig : ∀ key : DataKey Address Symbol, key.IsConfig →
      state.storage.instanceTier.get key = state'.storage.instanceTier.get key)
    (haccount : state.storage.account owner = state'.storage.account owner) :
    next.storage.account owner = next'.storage.account owner ∧ receipt = receipt' := by
  have hfeeBps : getFeePercentage state.storage = getFeePercentage state'.storage := by
    rw [getFeePercentage, hconfig .feeBps trivial, getFeePercentage]
  have hrecipient : getFeeRecipient state.storage = getFeeRecipient state'.storage :=
    hconfig .feeRecipient trivial
  have hstep := h.accountStep owner
  rw [haccount, hfeeBps] at hstep
  obtain ⟨hnext, hreturned, hevents⟩ := hstep.unique (h'.accountStep owner) hcall
  have htransfers := h.transfers_unique h' hfeeBps hrecipient
  refine ⟨hnext, ?_⟩
  cases receipt
  cases receipt'
  simp_all only

section Orders

variable {env₁ env₂ : Env host} {owner₁ owner₂ : Address} {call₁ call₂ : Call Address Symbol}
  {receipt₁ receipt₂ receipt₁' receipt₂' : Receipt Address Symbol}
  {start mid mid' stop stop' : State Address Symbol World}

/-- After a call on another account, a call does what it would have done before it. -/
theorem Accepts.agree_after (h₁ : Accepts env₁ start call₁ receipt₁ mid)
    (h₂ : Accepts env₂ start call₂ receipt₂ mid')
    (h₂₁ : Accepts env₁ mid' call₁ receipt₁' stop')
    (hcall₁ : call₁.account = some owner₁) (hcall₂ : call₂.account = some owner₂)
    (hne : owner₁ ≠ owner₂) :
    mid.storage.account owner₁ = stop'.storage.account owner₁ ∧ receipt₁ = receipt₁' := by
  refine h₁.agree h₂₁ hcall₁ (fun key hkey ↦ ?_) ?_
  · exact (h₂.config_eq (Call.isUserCall_of_account hcall₂) hkey).symm
  · exact (h₂.account_eq_of_ne hcall₂ hne).symm

/-- Two calls on different accounts, accepted in both orders with exact tokens, leave the same storage
and the same ledgers, and each hands back the same in both orders. -/
theorem calls_commute (h : ReachableState host start)
    (hcall₁ : call₁.account = some owner₁) (hcall₂ : call₂.account = some owner₂)
    (hne : owner₁ ≠ owner₂)
    (hexact₁ : ∀ token, call₁.token = some token → ExactToken host token)
    (hexact₂ : ∀ token, call₂.token = some token → ExactToken host token)
    (hstep₁ : Step host start (.accepted env₁ call₁ receipt₁) mid)
    (hstep₁₂ : Step host mid (.accepted env₂ call₂ receipt₂') stop)
    (hstep₂ : Step host start (.accepted env₂ call₂ receipt₂) mid')
    (hstep₂₁ : Step host mid' (.accepted env₁ call₁ receipt₁') stop') :
    stop.storage = stop'.storage ∧
      (∀ token holder, host.balance stop.world token holder =
        host.balance stop'.world token holder) ∧
      receipt₁ = receipt₁' ∧ receipt₂ = receipt₂' := by
  have huser₁ := Call.isUserCall_of_account hcall₁
  have huser₂ := Call.isUserCall_of_account hcall₂
  obtain ⟨haccount₁, rfl⟩ :=
    hstep₁.accepts.agree_after hstep₂.accepts hstep₂₁.accepts hcall₁ hcall₂ hne
  obtain ⟨haccount₂, rfl⟩ :=
    hstep₂.accepts.agree_after hstep₁.accepts hstep₁₂.accepts hcall₂ hcall₁ hne.symm
  refine ⟨storage_eq_of_accounts ((h.step hstep₁).step hstep₁₂) ((h.step hstep₂).step hstep₂₁)
    (fun key hkey ↦ ?_) fun owner ↦ ?_, fun token holder ↦ ?_, rfl, rfl⟩
  · calc
      _ = mid.storage.instanceTier.get key := hstep₁₂.accepts.config_eq huser₂ hkey
      _ = start.storage.instanceTier.get key := hstep₁.accepts.config_eq huser₁ hkey
      _ = mid'.storage.instanceTier.get key := (hstep₂.accepts.config_eq huser₂ hkey).symm
      _ = _ := (hstep₂₁.accepts.config_eq huser₁ hkey).symm
  · by_cases howner₁ : owner = owner₁
    · subst howner₁
      calc
        _ = mid.storage.account owner := hstep₁₂.accepts.account_eq_of_ne hcall₂ hne
        _ = _ := haccount₁
    · by_cases howner₂ : owner = owner₂
      · subst howner₂
        calc
          _ = mid'.storage.account owner := haccount₂.symm
          _ = _ := (hstep₂₁.accepts.account_eq_of_ne hcall₁ hne.symm).symm
      · calc
          _ = mid.storage.account owner := hstep₁₂.accepts.account_eq_of_ne hcall₂ howner₂
          _ = start.storage.account owner := hstep₁.accepts.account_eq_of_ne hcall₁ howner₁
          _ = mid'.storage.account owner :=
            (hstep₂.accepts.account_eq_of_ne hcall₂ howner₂).symm
          _ = _ := (hstep₂₁.accepts.account_eq_of_ne hcall₁ howner₁).symm
  · calc
      _ = host.balance start.world token holder + netInflow holder token receipt₁.transfers +
          netInflow holder token receipt₂.transfers := by
        rw [hstep₁₂.accepts.balance_of_exact hexact₂, hstep₁.accepts.balance_of_exact hexact₁]
      _ = host.balance start.world token holder + netInflow holder token receipt₂.transfers +
          netInflow holder token receipt₁.transfers := add_right_comm _ _ _
      _ = _ := by
        rw [hstep₂₁.accepts.balance_of_exact hexact₁, hstep₂.accepts.balance_of_exact hexact₂]

end Orders

/-- A withdrawal of one creator and a tip to another, in one token. -/
theorem calls_commute_in_sharedMarket :
    (replay sharedMarket [marketWithdraw 3 7 (i128 40), marketTip 4 7 (i128 10) (u64 104)]).2.storage =
      (replay sharedMarket
        [marketTip 4 7 (i128 10) (u64 104), marketWithdraw 3 7 (i128 40)]).2.storage := by
  have hexact (token : ℕ) : ExactToken marketHost token := exactToken_ledgerHost 0 9 token
  have hcalls (call : Call ℕ ℕ) (token : ℕ) (_ : call.token = some token) := hexact token
  exact (calls_commute sharedMarket_reachable rfl rfl (by decide) (hcalls _) (hcalls _)
    (step_perform (marketWithdraw 3 7 (i128 40)).1 (marketWithdraw 3 7 (i128 40)).2 sharedMarket)
    (step_perform (marketTip 4 7 (i128 10) (u64 104)).1 (marketTip 4 7 (i128 10) (u64 104)).2 _)
    (step_perform (marketTip 4 7 (i128 10) (u64 104)).1 (marketTip 4 7 (i128 10) (u64 104)).2 _)
    (step_perform (marketWithdraw 3 7 (i128 40)).1 (marketWithdraw 3 7 (i128 40)).2 _)).1

end StellarTip
