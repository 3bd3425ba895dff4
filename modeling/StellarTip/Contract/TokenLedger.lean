import StellarTip.Contract.Execution
import Mathlib.Tactic.Linarith

/-!
# A host with plain token ledgers

Tokens that keep one non-negative balance for each holder, move exactly the requested amount and
refuse a transfer only for lack of balance. They make the assumptions on tokens satisfiable, and
calls on them can be evaluated.
-/

namespace StellarTip

open Foundation

variable {Address : Type} [LinearOrder Address]

/-- A non-negative balance for each token and each holder. -/
structure TokenLedger (Address : Type) where
  balance : Address → Address → ℤ
  balance_nonneg : ∀ token holder, 0 ≤ balance token holder

namespace TokenLedger

variable (ledger : TokenLedger Address) (token sender recipient : Address) (amount : I128)

/-- The balances after `amount` moves from `sender` to `recipient`. -/
def movedBalance (other holder : Address) : ℤ :=
  if other = token then
    ledger.balance other holder + (if holder = recipient then amount.val else 0) -
      (if holder = sender then amount.val else 0)
  else ledger.balance other holder

theorem movedBalance_nonneg (hamount : 0 ≤ amount.val)
    (hfunds : amount.val ≤ ledger.balance token sender) (other holder : Address) :
    0 ≤ ledger.movedBalance token sender recipient amount other holder := by
  have hbalance := ledger.balance_nonneg other holder
  unfold movedBalance
  split
  · rename_i htoken
    subst htoken
    split <;> split <;> rename_i hrecipient hsender <;> (try subst hsender) <;> omega
  · exact hbalance

/-- The error code of a transfer beyond the balance. -/
def BALANCE_ERROR : U32 := ⟨10, by decide, by decide⟩

def transfer : Except CalleeError (TokenLedger Address) :=
  if h : 0 ≤ amount.val ∧ amount.val ≤ ledger.balance token sender then
    .ok ⟨ledger.movedBalance token sender recipient amount,
      ledger.movedBalance_nonneg token sender recipient amount h.1 h.2⟩
  else .error (.code BALANCE_ERROR)

variable {ledger token sender recipient amount}

theorem transfer_eq_ok_iff {ledger' : TokenLedger Address} :
    ledger.transfer token sender recipient amount = .ok ledger' ↔
      (0 ≤ amount.val ∧ amount.val ≤ ledger.balance token sender) ∧
        ledger'.balance = ledger.movedBalance token sender recipient amount := by
  unfold transfer
  split
  · rename_i h
    simp only [Except.ok.injEq, h, and_self, true_and]
    constructor
    · rintro rfl
      rfl
    · intro heq
      cases ledger'
      cases heq
      rfl
  · rename_i h
    simp only [reduceCtorEq, h, false_and]

end TokenLedger

/-- The host whose tokens are plain ledgers. Between two calls anything may happen that does not
take tokens from `contract`. -/
def ledgerHost (contract zeroAccount : Address) : Host Address (TokenLedger Address) where
  currentContractAddress := contract
  addressFromString _ := zeroAccount
  transfer ledger := ledger.transfer
  balance ledger := ledger.balance
  outside ledger ledger' := ∀ token, ledger.balance token contract ≤ ledger'.balance token contract

/-- An invocation that a single signer authorizes. -/
def signedBy {World : Type} (host : Host Address World) (signer : Address) (timestamp : U64) :
    Env host where
  timestamp
  authorized address := decide (address = signer ∧ address ≠ host.currentContractAddress)
  contract_unauthorized := by simp

/-! ## A small market

One contract at address 0 with admin 1 and fee recipient 2, and a ledger in which the tipper 5 owns a
thousand units of every token. -/

def marketHost : Host ℕ (TokenLedger ℕ) := ledgerHost 0 9

def marketLedger : TokenLedger ℕ where
  balance _ holder := if holder = 5 then 1000 else 0
  balance_nonneg _ holder := by split <;> decide

def marketStart : State ℕ ℕ (TokenLedger ℕ) := deployed ℕ marketLedger

def u32 (n : ℕ) : U32 := (BoundedInt.ofInt? n).getD 0

def u64 (n : ℕ) : U64 := (BoundedInt.ofInt? n).getD 0

def i128 (n : ℤ) : I128 := (BoundedInt.ofInt? n).getD 0

abbrev MarketCall := Env marketHost × Call ℕ ℕ

/-- Initialization with a fee in basis points and no caps. -/
def marketInit (feeBps : U32) : MarketCall :=
  (signedBy marketHost 1 (u64 100), .init 1 2 feeBps 0 0 0)

def marketRegister (creator username : ℕ) : MarketCall :=
  (signedBy marketHost creator (u64 101), .register creator username [] [])

def marketUnregister (creator : ℕ) : MarketCall :=
  (signedBy marketHost creator (u64 102), .unregister creator)

def marketTip (creator token : ℕ) (amount : I128) (timestamp : U64) : MarketCall :=
  (signedBy marketHost 5 timestamp, .tip 5 creator token amount [])

def marketWithdraw (creator token : ℕ) (amount : I128) : MarketCall :=
  (signedBy marketHost creator (u64 104), .withdraw creator token amount)

/-- One creator gets one tip of 100 units at a fee of 5%. -/
def tippedMarketCalls : List MarketCall :=
  [marketInit (u32 500), marketRegister 3 30, marketTip 3 7 (i128 100) (u64 103)]

def tippedMarket : State ℕ ℕ (TokenLedger ℕ) := (replay marketStart tippedMarketCalls).2

theorem tippedMarket_reachable : ReachableState marketHost tippedMarket :=
  .of_deployed (run_replay _ _)

/-- Two creators, one with two tokens. -/
def sharedMarket : State ℕ ℕ (TokenLedger ℕ) :=
  (replay marketStart [marketInit (u32 500), marketRegister 3 30, marketRegister 4 40,
    marketTip 3 7 (i128 100) (u64 103), marketTip 3 8 (i128 200) (u64 103)]).2

theorem sharedMarket_reachable : ReachableState marketHost sharedMarket :=
  .of_deployed (run_replay _ _)

/-- Two creators with several tips, and one of them withdraws everything and leaves. -/
def busyMarketCalls : List MarketCall :=
  [marketInit (u32 500), marketRegister 3 30, marketRegister 4 40,
    marketTip 3 7 (i128 100) (u64 103), marketTip 4 8 (i128 200) (u64 103),
    marketTip 3 7 (i128 60) (u64 103), marketWithdraw 3 7 (i128 152), marketUnregister 3]

end StellarTip
