import StellarTip.Account.Credit
import StellarTip.Custody.Conforming

/-!
# Failures without an error code of the contract

A failing token transfer is passed on as it is, and an amount or a counter out of range traps; no code
path raises `TransferFailed`. So a properly authorized call ends with an error code of the contract, or
successfully, exactly when whatever follows its checks goes through: the count of a registration, the
amounts and the transfers of a tip, and the transfer of a withdrawal.
-/

namespace StellarTip

open Foundation TipContract

variable {Address Symbol World : Type} [LinearOrder Address] {host : Host Address World}

/-- What follows the checks of a tip goes through: the fee can be computed, the token carries out the
transfers, and the new balance and the next index are in range. -/
structure TipSettles (host : Host Address World) (storage : Storage Address Symbol) (world : World)
    (sender creator token : Address) (amount : I128) : Prop where
  product_fits : ∃ product : I128, product.val = amount.val * (getFeePercentage storage).val
  moved : ∃ deposited,
    host.transfer world token sender host.currentContractAddress amount = .ok deposited ∧
      ∀ fee : I128,
        fee.val = (amount.val * (getFeePercentage storage).val).tdiv MAX_FEE_BPS.val →
          ∃ forwarded settled,
            FeeForwarded host token (getFeeRecipient storage) fee deposited forwarded settled
  credit_fits : ∃ newBalance : I128,
    newBalance.val = (getBalance storage creator token).val +
      (amount.val - (amount.val * (getFeePercentage storage).val).tdiv MAX_FEE_BPS.val)
  index_fits : ∃ nextIndex : U64, nextIndex.val = (getTipCount storage creator).val + 1

/-- Whatever follows the checks of a call goes through. -/
def Call.Settles (host : Host Address World) (state : State Address Symbol World) :
    Call Address Symbol → Prop
  | .register caller username displayName bio =>
      state.storage.Ready → RegisterChecked state.storage caller username displayName bio →
        ∃ nextCount : U32, nextCount.val = (getCreatorCount state.storage).val + 1
  | .tip sender creator token amount _ =>
      state.storage.Ready → TipChecked state.storage creator amount →
        TipSettles host state.storage state.world sender creator token amount
  | .withdraw caller token amount =>
      state.storage.Ready → WithdrawChecked state.storage caller token amount →
        ∃ settled, host.transfer state.world token host.currentContractAddress caller amount =
          .ok settled
  | _ => True

variable [DecidableEq Symbol]

/-- A call succeeds, or fails with an error code of the contract and leaves everything as it was. -/
def EndsTyped (env : Env host) (call : Call Address Symbol) (state : State Address Symbol World) :
    Prop :=
  ∀ failure, invoke env call state = .error failure →
    (∃ error, failure = .tipError error) ∧
      perform env call state = (.rejected env call failure, state)

variable {env : Env host} {state : State Address Symbol World} {call : Call Address Symbol}

/-- The code for a failed transfer is declared and never raised. -/
theorem failure_ne_transferFailed {failure : Failure}
    (herror : invoke env call state = .error failure) : failure ≠ .tipError .transferFailed := by
  cases refuses_of_invoke_eq_error herror with
  | tipBroken _ _ broken => cases broken <;> simp
  | _ => simp

/-- After the checks of a tip only the listed steps can fail. -/
theorem not_tipBreaks_untyped (h : ReachableState host state) {sender creator token : Address}
    {amount : I128} {failure : Failure} (checked : TipChecked state.storage creator amount)
    (settles : TipSettles host state.storage state.world sender creator token amount)
    (broken : TipBreaks host state.storage state.world sender creator token amount failure) :
    ∃ error, failure = .tipError error := by
  have hfeeBps := (ConfigurationInvariant.of_reachable h).feeBps_le
  have hamount := amount.le_hi
  cases broken with
  | product overflow => exact absurd settles.product_fits overflow
  | @remainder fee fee_val overflow =>
    obtain ⟨hnonneg, hle⟩ := fee_bounds checked.positive hfeeBps fee_val
    exact absurd ⟨⟨amount.val - fee.val, by omega, by omega⟩, rfl⟩ overflow
  | feeRecipientNotSet => exact ⟨_, rfl⟩
  | deposit refused =>
    obtain ⟨deposited, hdeposit, -⟩ := settles.moved
    cases refused.symm.trans hdeposit
  | fee fee_val positive moved configured refused =>
    obtain ⟨deposited, hdeposit, hfees⟩ := settles.moved
    cases moved.symm.trans hdeposit
    obtain ⟨forwarded, settled, hforward⟩ := hfees _ fee_val
    cases hforward with
    | free free => exact absurd positive (not_lt.mpr free)
    | paid _ configured' moved' =>
      cases configured.symm.trans configured'
      cases refused.symm.trans moved'
  | credit fee_val overflow =>
    rw [fee_val] at overflow
    exact absurd settles.credit_fits overflow
  | index overflow => exact absurd settles.index_fits overflow

theorem endsTyped_of_settles (h : ReachableState host state)
    (hauth : env.authorized call.signer = true) (settles : call.Settles host state) :
    EndsTyped env call state := by
  intro failure herror
  refine ⟨?_, perform_of_error herror⟩
  cases refuses_of_invoke_eq_error herror with
  | unauthorized unsigned => exact absurd (hauth.symm.trans unsigned) (by decide)
  | countOverflow ready checked overflow => exact absurd (settles ready checked) overflow
  | tipBroken ready checked broken => exact not_tipBreaks_untyped h checked (settles ready checked) broken
  | payoutRefused ready checked refused =>
    obtain ⟨settled, hmoved⟩ := settles ready checked
    cases refused.symm.trans hmoved
  | tokensMissing _ checked _ missing =>
    have hstored := has_tokens_of_pos h (checked.positive.trans_le checked.sufficient)
    exact absurd (hstored.symm.trans missing) (by decide)
  | _ => exact ⟨_, rfl⟩

omit [DecidableEq Symbol] in
/-- An accepted tip has gone through. -/
theorem TipAccepted.settles {sender creator token : Address} {amount fee newBalance : I128}
    {nextIndex : U64} {forwarded : List (Transfer Address)} {settled : World}
    (accepted : TipAccepted host state.storage state.world sender creator token amount fee
      newBalance nextIndex forwarded settled) :
    TipSettles host state.storage state.world sender creator token amount where
  product_fits := accepted.product_fits
  moved := by
    obtain ⟨deposited, hdeposit, hforward⟩ := accepted.moved
    refine ⟨deposited, hdeposit, fun other hother ↦ ⟨forwarded, settled, ?_⟩⟩
    have heq : other = fee := BoundedInt.ext (hother.trans accepted.fee_val.symm)
    rwa [heq]
  credit_fits := ⟨newBalance, by rw [accepted.newBalance_val, accepted.fee_val]⟩
  index_fits := ⟨nextIndex, accepted.nextIndex_val⟩

/-- A call that has passed its checks does not fail with an error code. -/
theorem settles_of_endsTyped (h : ReachableState host state) (htyped : EndsTyped env call state) :
    call.Settles host state := by
  rcases accepts_or_refuses env call state with ⟨receipt, state', haccepts⟩ |
    ⟨failure, herror, hrefuses⟩
  · cases haccepts with
    | register _ _ _ _ _ _ _ nextCount_val => exact fun _ _ ↦ ⟨_, nextCount_val⟩
    | tip _ _ accepted => exact fun _ _ ↦ accepted.settles
    | withdraw _ _ accepted => exact fun _ _ ↦ ⟨_, accepted.moved⟩
    | configure => cases call <;> trivial
    | _ => trivial
  · obtain ⟨⟨error, rfl⟩, -⟩ := htyped failure herror
    cases call with
    | register =>
      intro ready checked
      cases hrefuses with
      | uninitialized _ uninitialized => exact absurd uninitialized ready.admin_ne_none
      | paused _ paused => exact absurd (ready.2.symm.trans paused) (by decide)
      | registerInvalid invalid => exact absurd ⟨checked.displayName_le, checked.bio_le⟩ invalid
      | creatorAlreadyExists registered => exact absurd checked.unregistered registered
      | usernameTaken taken => exact absurd checked.username_free taken
      | creatorsCapped capped => exact absurd capped checked.below_cap
      | setterUninitialized setter => cases setter
      | notAuthorized setter => cases setter
      | invalidSetting setter => cases setter
    | tip =>
      intro ready checked
      cases hrefuses with
      | uninitialized _ uninitialized => exact absurd uninitialized ready.admin_ne_none
      | paused _ paused => exact absurd (ready.2.symm.trans paused) (by decide)
      | tipInvalid nonpositive => exact absurd checked.positive (not_lt.mpr nonpositive)
      | belowMinimum below => exact absurd below checked.minimum
      | tipUnregistered unregistered =>
        exact absurd (checked.registered.symm.trans unregistered) (by decide)
      | tipsCapped capped => exact absurd capped checked.below_cap
      | tipBroken _ _ broken =>
        cases broken with
        | feeRecipientNotSet unset => exact absurd unset (feeRecipient_ne_none h ready)
      | setterUninitialized setter => cases setter
      | notAuthorized setter => cases setter
      | invalidSetting setter => cases setter
    | withdraw =>
      intro ready checked
      cases hrefuses with
      | uninitialized _ uninitialized => exact absurd uninitialized ready.admin_ne_none
      | paused _ paused => exact absurd (ready.2.symm.trans paused) (by decide)
      | withdrawUnregistered unregistered =>
        exact absurd (checked.registered.symm.trans unregistered) (by decide)
      | withdrawInvalid nonpositive => exact absurd checked.positive (not_lt.mpr nonpositive)
      | insufficientBalance _ insufficient =>
        exact absurd checked.sufficient (not_le.mpr insufficient)
      | setterUninitialized setter => cases setter
      | notAuthorized setter => cases setter
      | invalidSetting setter => cases setter
    | _ => trivial

/-- An authorized call ends with success or an error code of the contract exactly when whatever follows
its checks goes through. -/
theorem ends_typed_iff_settles (h : ReachableState host state)
    (hauth : env.authorized call.signer = true) :
    EndsTyped env call state ↔ call.Settles host state :=
  ⟨settles_of_endsTyped h, endsTyped_of_settles h hauth⟩

/-- The covered withdrawal of the tipped creator goes through, so it ends typed. -/
theorem ends_typed_of_covered_withdrawal :
    EndsTyped (signedBy marketHost 3 (u64 104)) (.withdraw 3 7 (i128 95)) tippedMarket := by
  refine (ends_typed_iff_settles tippedMarket_reachable rfl).mpr fun _ _ ↦ ?_
  exact (honouringToken_ledgerHost 0 9 7).honoured (by decide) (by decide)

/-- The tipper owns a thousand units: a tip of two thousand passes every check of the contract and fails
with the error of the token, which is none of the contract's codes. -/
theorem untyped_failures :
    ¬∀ (state : State ℕ ℕ (TokenLedger ℕ)) (env : Env marketHost) (call : Call ℕ ℕ),
      ReachableState marketHost state → env.authorized call.signer = true →
        EndsTyped env call state := by
  intro h
  have hrefused : invoke (signedBy marketHost 5 (u64 104)) (.tip 5 3 7 (i128 2000) [])
      tippedMarket = .error (.callee (.code TokenLedger.BALANCE_ERROR)) := rfl
  obtain ⟨⟨error, hcode⟩, -⟩ := h _ _ _ tippedMarket_reachable rfl _ hrefused
  cases hcode

end StellarTip
