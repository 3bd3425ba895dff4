import StellarTip.Contract.TokenLedger

/-!
# Conforming tokens

What the contract relies on from a token it keeps in custody. A transfer that succeeds moves exactly
the amount. Other tokens may run any code during their own transfers, and anything may happen
between two calls, but nothing besides the contract's own transfers takes the token from the
contract. An honouring token moreover refuses a transfer out of the contract only for lack of
balance.
-/

namespace StellarTip

open Foundation

variable {Address World : Type} [LinearOrder Address]

/-- The signed amount of `token` that a transfer moves to `holder`. -/
def Transfer.net (holder token : Address) (transfer : Transfer Address) : ℤ :=
  if transfer.token = token then
    (if holder = transfer.recipient then transfer.amount.val else 0) -
      (if holder = transfer.sender then transfer.amount.val else 0)
  else 0

structure ConformingToken (host : Host Address World) (token : Address) : Prop where
  balance_nonneg : ∀ world, 0 ≤ host.balance world token host.currentContractAddress
  moves_exactly : ∀ {world world' sender recipient amount},
    host.transfer world token sender recipient amount = .ok world' →
      ∀ holder, host.balance world' token holder = host.balance world token holder +
        Transfer.net holder token ⟨token, sender, recipient, amount⟩
  kept_by_foreign : ∀ {world world' other sender recipient amount}, other ≠ token →
    host.transfer world other sender recipient amount = .ok world' →
      host.balance world token host.currentContractAddress ≤
        host.balance world' token host.currentContractAddress
  kept_outside : ∀ {world world'}, host.outside world world' →
    host.balance world token host.currentContractAddress ≤
      host.balance world' token host.currentContractAddress

structure HonouringToken (host : Host Address World) (token : Address) : Prop
    extends ConformingToken host token where
  honoured : ∀ {world recipient} {amount : I128}, 0 < amount →
    amount.val ≤ host.balance world token host.currentContractAddress →
      ∃ world', host.transfer world token host.currentContractAddress recipient amount = .ok world'

/-- A token whose transfers change every ledger by exactly what they move: the two balances of its own
ledger by the amount, and nothing else. -/
structure ExactToken (host : Host Address World) (token : Address) : Prop where
  moves_exactly : ∀ {world settled sender recipient amount},
    host.transfer world token sender recipient amount = .ok settled →
      ∀ other holder, host.balance settled other holder = host.balance world other holder +
        Transfer.net holder other ⟨token, sender, recipient, amount⟩

/-- Plain ledgers honour every transfer that the balance allows. -/
theorem honouringToken_ledgerHost (contract zeroAccount token : Address) :
    HonouringToken (ledgerHost contract zeroAccount) token where
  balance_nonneg world := world.balance_nonneg token contract
  moves_exactly {world world' sender recipient amount} h holder := by
    have hbalance := congrFun (congrFun (TokenLedger.transfer_eq_ok_iff.mp h).2 token) holder
    change world'.balance token holder = world.balance token holder + _
    rw [hbalance, TokenLedger.movedBalance, if_pos rfl, Transfer.net, if_pos rfl, add_sub_assoc]
  kept_by_foreign {world world' other sender recipient amount} hne h := by
    have hbalance := congrFun (congrFun (TokenLedger.transfer_eq_ok_iff.mp h).2 token) contract
    change world.balance token contract ≤ world'.balance token contract
    rw [hbalance, TokenLedger.movedBalance, if_neg (Ne.symm hne)]
  kept_outside h := h token
  honoured {world recipient amount} hpos hfunds := by
    have hnonneg : 0 ≤ amount.val := (BoundedInt.lt_def.mp hpos).le
    exact ⟨_, dif_pos ⟨hnonneg, hfunds⟩⟩

/-- Plain ledgers are exact. -/
theorem exactToken_ledgerHost (contract zeroAccount token : Address) :
    ExactToken (ledgerHost contract zeroAccount) token where
  moves_exactly {world settled sender recipient amount} hmoved other holder := by
    have hbalance := congrFun (congrFun (TokenLedger.transfer_eq_ok_iff.mp hmoved).2 other) holder
    change settled.balance other holder = world.balance other holder + _
    rw [hbalance, TokenLedger.movedBalance, Transfer.net]
    by_cases htoken : other = token
    · rw [if_pos htoken, if_pos htoken.symm, add_sub_assoc]
    · rw [if_neg htoken, if_neg (Ne.symm htoken), add_zero]

end StellarTip
