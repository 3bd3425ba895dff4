import StellarTip.Custody.Solvency
import StellarTip.Account.Credit

/-!
# Withdrawals are honoured

A recorded balance is part of the total credit, which the contract's balance covers, and its token is
listed. So a withdrawal within the recorded balance meets neither a token without funds nor an absent
storage entry, whatever the other creators have withdrawn before.
-/

namespace StellarTip

open Foundation TipContract

variable {Address Symbol World : Type} [LinearOrder Address] [DecidableEq Symbol]
  {host : Host Address World} {env : Env host} {state : State Address Symbol World}
  {token caller : Address} {amount : I128}

/-- The contract holds at least what it records for any one address. -/
theorem getBalance_le_balance (hconforming : ConformingToken host token)
    (h : ReachableState host state) (owner : Address) :
    (getBalance state.storage owner token).val ≤
      host.balance state.world token host.currentContractAddress := by
  obtain ⟨world, labels, run⟩ := h
  have hnonneg (other : Address) : 0 ≤ (getBalance state.storage other token).val :=
    BoundedInt.le_def.mp (getBalance_nonneg ⟨world, labels, run⟩ other token)
  calc (getBalance state.storage owner token).val
      ≤ totalCredit state.storage token :=
        single_le_finsum owner (conservation_of_run token run).1 hnonneg
    _ ≤ host.balance state.world token host.currentContractAddress :=
        sub_nonneg.mp (surplus_nonneg hconforming run)

/-- Every condition of a withdrawal follows from the amount being within the recorded balance. -/
theorem withdrawAccepted_of_le (hhonouring : HonouringToken host token)
    (h : ReachableState host state) (hregistered : isCreator state.storage caller = true)
    (hpos : 0 < amount) (hle : amount ≤ getBalance state.storage caller token) :
    ∃ remaining settled,
      WithdrawAccepted host state.storage state.world caller token amount remaining settled := by
  have hamount := BoundedInt.lt_def.mp hpos
  have hamount_le := BoundedInt.le_def.mp hle
  have hbalance_le := (getBalance state.storage caller token).le_hi
  rw [I128.val_zero] at hamount
  obtain ⟨settled, hmoved⟩ := hhonouring.honoured hpos
    (hamount_le.trans (getBalance_le_balance hhonouring.toConformingToken h caller))
  refine ⟨⟨(getBalance state.storage caller token).val - amount.val, by omega, by omega⟩, settled,
    hregistered, hpos, hle, hmoved, rfl, fun _ ↦ has_tokens_of_pos h (hpos.trans_le hle)⟩

/-- A withdrawal outside the recorded balance fails with the error that names the reason. -/
theorem withdraw_fails_of_range (hready : state.storage.Ready)
    (hregistered : isCreator state.storage caller = true) (hauth : env.authorized caller = true)
    (hrange : ¬(0 < amount ∧ amount ≤ getBalance state.storage caller token)) :
    invoke env (.withdraw caller token amount) state =
      .error (.tipError (if amount ≤ 0 then .invalidAmount else .insufficientBalance)) := by
  rcases accepts_or_refuses env (.withdraw caller token amount) state with
    ⟨receipt, state', haccepts⟩ | ⟨failure, herror, hrefuses⟩
  · obtain ⟨-, remaining, settled, accepted, -, -⟩ := haccepts.of_withdraw
    exact absurd ⟨accepted.positive, accepted.sufficient⟩ hrange
  · cases hrefuses with
    | withdrawInvalid nonpositive => rwa [if_pos nonpositive]
    | insufficientBalance positive => rwa [if_neg (not_le.mpr positive)]
    | payoutRefused _ checked => exact absurd ⟨checked.positive, checked.sufficient⟩ hrange
    | tokensMissing _ checked => exact absurd ⟨checked.positive, checked.sufficient⟩ hrange
    | unauthorized unsigned => exact absurd (hauth.symm.trans unsigned) (by decide)
    | uninitialized _ uninitialized => exact absurd uninitialized (Storage.Ready.admin_ne_none hready)
    | paused _ paused => exact absurd (hready.2.symm.trans paused) (by decide)
    | withdrawUnregistered unregistered =>
      exact absurd (hregistered.symm.trans unregistered) (by decide)
    | setterUninitialized setter => cases setter
    | notAuthorized setter => cases setter
    | invalidSetting setter => cases setter

/-- In a ready contract, an authorized creator's withdrawal of an honouring token succeeds exactly
for the positive amounts within the recorded balance, which the contract's balance covers. -/
theorem withdrawal_honoured (hhonouring : HonouringToken host token)
    (h : ReachableState host state) (hready : state.storage.Ready)
    (hregistered : isCreator state.storage caller = true) (hauth : env.authorized caller = true)
    (amount : I128) :
    ((∃ receipt state', invoke env (.withdraw caller token amount) state = .ok (receipt, state')) ↔
      0 < amount ∧ amount ≤ getBalance state.storage caller token) ∧
    (getBalance state.storage caller token).val ≤
      host.balance state.world token host.currentContractAddress ∧
    (¬(0 < amount ∧ amount ≤ getBalance state.storage caller token) →
      invoke env (.withdraw caller token amount) state =
        .error (.tipError (if amount ≤ 0 then .invalidAmount else .insufficientBalance))) := by
  refine ⟨⟨?_, fun ⟨hpos, hle⟩ ↦ ?_⟩, getBalance_le_balance hhonouring.toConformingToken h caller,
    withdraw_fails_of_range hready hregistered hauth⟩
  · rintro ⟨receipt, state', hok⟩
    obtain ⟨-, remaining, settled, accepted, -, -⟩ := (invoke_eq_ok_iff.mp hok).of_withdraw
    exact ⟨accepted.positive, accepted.sufficient⟩
  · obtain ⟨remaining, settled, haccepted⟩ := withdrawAccepted_of_le hhonouring h hregistered hpos hle
    exact ⟨_, _, invoke_eq_ok_iff.mpr (.withdraw hauth hready haccepted)⟩

/-- The tipped creator can withdraw 40 of the 95 credited units. -/
theorem withdrawal_honoured_in_tippedMarket :
    ∃ receipt state', invoke (signedBy marketHost 3 (u64 104)) (.withdraw 3 7 (i128 40))
      tippedMarket = .ok (receipt, state') :=
  ((withdrawal_honoured (honouringToken_ledgerHost 0 9 7) tippedMarket_reachable
    ⟨by decide, by decide⟩ (by decide) (by decide) (i128 40)).1).mpr ⟨by decide, by decide⟩

end StellarTip
