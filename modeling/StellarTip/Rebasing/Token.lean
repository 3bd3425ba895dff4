import StellarTip.Contract.TokenLedger
import Mathlib.Algebra.Order.Ring.Int
import Mathlib.Logic.Function.Basic

/-!
# Rebasing tokens

The token of `src/fixtures.rs`. A holder owns shares, a nominal balance is `shares * num / den`, and
`rebase` changes the factor of all holders at once without a transfer. A transfer of a nominal amount
moves the shares that the amount is worth, rounded down. The fixture reads its entries with
`unwrap_or`, so an absent entry is its default here. The authorization of `from` is left to the host: the
contract invokes its own transfers, and a sender signs a tip together with the transfer in it.
-/

namespace StellarTip

open Foundation Transaction

variable {Address : Type} [LinearOrder Address]

inductive RebasingTokenError where
  | insufficientBalance
  | notSupported
  | invalidRebaseFactor
  deriving DecidableEq

def RebasingTokenError.code : RebasingTokenError → CalleeError
  | insufficientBalance => .code ⟨900, by decide, by decide⟩
  | notSupported => .code ⟨901, by decide, by decide⟩
  | invalidRebaseFactor => .code ⟨902, by decide, by decide⟩

/-- The guards of `rebase` keep the numerator non-negative and the denominator positive. -/
structure RebasingToken (Address : Type) where
  shares : Address → I128
  num : I128
  den : I128
  num_nonneg : 0 ≤ num.val
  den_pos : 0 < den.val

abbrev RebasingCall (Address : Type) := Transaction (RebasingToken Address) CalleeError

namespace RebasingToken

/-- Freshly deployed: no shares, and nominal balances equal shares. -/
def fresh : RebasingToken Address where
  shares _ := 0
  num := ⟨1, by decide, by decide⟩
  den := ⟨1, by decide, by decide⟩
  num_nonneg := by decide
  den_pos := by decide

/-- What the shares of a holder stand for at the current factor. -/
def nominalBalance (token : RebasingToken Address) (holder : Address) : ℤ :=
  ((token.shares holder).val * token.num.val).tdiv token.den.val

def setShares (holder : Address) (shares : I128) (token : RebasingToken Address) :
    RebasingToken Address :=
  { token with shares := Function.update token.shares holder shares }

def sharesOf (holder : Address) : RebasingCall Address I128 := query fun token ↦ token.shares holder

/-- The nominal balance. The product is taken in 128 bits and traps beyond them. -/
def balance (holder : Address) : RebasingCall Address I128 := do
  let num ← query RebasingToken.num
  let den ← query RebasingToken.den
  let shares ← sharesOf holder
  let product ← demand (shares.checkedMul num) .trap
  demand (product.checkedDiv den) .trap

/-- `amount` nominal units expressed in shares. -/
def nominalToShares (amount : I128) : RebasingCall Address I128 := do
  let num ← query RebasingToken.num
  let den ← query RebasingToken.den
  rejectIf (num = 0) RebasingTokenError.invalidRebaseFactor.code
  let product ← demand (amount.checkedMul den) .trap
  demand (product.checkedDiv num) .trap

/-- Credit `recipient` with nominal units at the current rebase factor. -/
def mint (recipient : Address) (amount : I128) : RebasingCall Address Unit := do
  let shares ← nominalToShares amount
  let current ← sharesOf recipient
  let total ← demand (current.checkedAdd shares) .trap
  update (setShares recipient total)

/-- Rescale every nominal balance without moving any shares. -/
def rebase (num den : I128) : RebasingCall Address Unit := fun token ↦
  if h : 0 ≤ num.val ∧ 0 < den.val then
    .ok ((), { token with num, den, num_nonneg := h.1, den_pos := h.2 })
  else .error RebasingTokenError.invalidRebaseFactor.code

/-- Moves nominal units. The shares are compared and moved after one conversion. -/
def transfer (sender recipient : Address) (amount : I128) : RebasingCall Address Unit := do
  let shares ← nominalToShares amount
  let senderShares ← sharesOf sender
  rejectIf (senderShares < shares) RebasingTokenError.insufficientBalance.code
  let recipientShares ← sharesOf recipient
  let left ← demand (senderShares.checkedSub shares) .trap
  update (setShares sender left)
  let joined ← demand (recipientShares.checkedAdd shares) .trap
  update (setShares recipient joined)

variable {token moved : RebasingToken Address} {sender recipient holder : Address} {amount : I128}

@[simp]
theorem num_setShares (shares : I128) : (token.setShares holder shares).num = token.num := rfl

@[simp]
theorem den_setShares (shares : I128) : (token.setShares holder shares).den = token.den := rfl

@[simp]
theorem shares_setShares (shares : I128) (other : Address) :
    (token.setShares holder shares).shares other =
      if other = holder then shares else token.shares other :=
  Function.update_apply _ _ _ _

omit [LinearOrder Address] in
/-- An answered query reports what the shares stand for. -/
theorem run_balance_eq_ok {answer : I128} :
    (balance holder).run token = .ok (answer, moved) ↔
      ((∃ product : I128, product.val = (token.shares holder).val * token.num.val) ∧
        answer.val = token.nominalBalance holder) ∧ moved = token := by
  simp only [balance, sharesOf, run_bind_eq_ok, run_query_eq_ok, run_demand_eq_ok,
    BoundedInt.checkedMul_eq_some_iff, BoundedInt.checkedDiv_eq_some_iff, nominalBalance]
  constructor
  · rintro ⟨num, _, ⟨rfl, rfl⟩, den, _, ⟨rfl, rfl⟩, shares, _, ⟨rfl, rfl⟩, product, _,
      ⟨hproduct, rfl⟩, ⟨-, hanswer⟩, rfl⟩
    rw [hproduct] at hanswer
    exact ⟨⟨⟨product, hproduct⟩, hanswer⟩, rfl⟩
  · rintro ⟨⟨⟨product, hproduct⟩, hanswer⟩, rfl⟩
    rw [← hproduct] at hanswer
    exact ⟨_, _, ⟨rfl, rfl⟩, _, _, ⟨rfl, rfl⟩, _, _, ⟨rfl, rfl⟩, product, _, ⟨hproduct, rfl⟩,
      ⟨moved.den_pos.ne', hanswer⟩, rfl⟩

/-- The shares that a nominal amount is worth at a factor. -/
def worth (num den : I128) (amount : I128) : ℤ := (amount.val * den.val).tdiv num.val

omit [LinearOrder Address] in
/-- A conversion multiplies in range and rounds towards zero. -/
theorem run_nominalToShares_eq_ok {shares : I128} :
    (nominalToShares amount).run token = .ok (shares, moved) ↔
      (token.num ≠ 0 ∧ (∃ product : I128, product.val = amount.val * token.den.val) ∧
        shares.val = worth token.num token.den amount) ∧ moved = token := by
  simp only [nominalToShares, run_bind_eq_ok, run_query_eq_ok, run_rejectIf_eq_ok, run_demand_eq_ok,
    BoundedInt.checkedMul_eq_some_iff, BoundedInt.checkedDiv_eq_some_iff, worth]
  constructor
  · rintro ⟨num, _, ⟨rfl, rfl⟩, den, _, ⟨rfl, rfl⟩, -, _, ⟨hne, rfl⟩, product, _, ⟨hproduct, rfl⟩,
      ⟨-, hshares⟩, rfl⟩
    rw [hproduct] at hshares
    exact ⟨⟨hne, ⟨product, hproduct⟩, hshares⟩, rfl⟩
  · rintro ⟨⟨hne, ⟨product, hproduct⟩, hshares⟩, rfl⟩
    rw [← hproduct] at hshares
    have hval : moved.num.val ≠ 0 := fun hval ↦ hne (BoundedInt.ext hval)
    exact ⟨_, _, ⟨rfl, rfl⟩, _, _, ⟨rfl, rfl⟩, (), _, ⟨hne, rfl⟩, product, _, ⟨hproduct, rfl⟩,
      ⟨hval, hshares⟩, rfl⟩

theorem run_transfer_eq_ok :
    (transfer sender recipient amount).run token = .ok ((), moved) ↔
      ∃ shares left joined : I128, (nominalToShares amount).run token = .ok (shares, token) ∧
        shares ≤ token.shares sender ∧
        left.val = (token.shares sender).val - shares.val ∧
        joined.val = (token.shares recipient).val + shares.val ∧
        moved = (token.setShares sender left).setShares recipient joined := by
  simp only [transfer, sharesOf, run_bind_eq_ok, run_query_eq_ok, run_rejectIf_eq_ok,
    run_demand_eq_ok, run_update_eq_ok, BoundedInt.checkedSub_eq_some_iff,
    BoundedInt.checkedAdd_eq_some_iff, not_lt]
  constructor
  · rintro ⟨shares, mid, hshares, _, _, ⟨rfl, rfl⟩, -, _, ⟨hle, rfl⟩, _, _, ⟨rfl, rfl⟩, left, _,
      ⟨hleft, rfl⟩, -, _, rfl, joined, _, ⟨hjoined, rfl⟩, rfl⟩
    obtain rfl := (run_nominalToShares_eq_ok.mp hshares).2
    exact ⟨shares, left, joined, hshares, hle, hleft, hjoined, rfl⟩
  · rintro ⟨shares, left, joined, hshares, hle, hleft, hjoined, rfl⟩
    exact ⟨shares, token, hshares, _, _, ⟨rfl, rfl⟩, (), _, ⟨hle, rfl⟩, _, _, ⟨rfl, rfl⟩, left, _,
      ⟨hleft, rfl⟩, (), _, rfl, joined, _, ⟨hjoined, rfl⟩, rfl⟩

/-- What a transfer between two holders does when `need` is what its amount is worth. -/
structure Moved (token moved : RebasingToken Address) (sender recipient : Address) (need : ℤ) :
    Prop where
  num_eq : moved.num = token.num
  den_eq : moved.den = token.den
  sufficient : need ≤ (token.shares sender).val
  shares_sender : (moved.shares sender).val = (token.shares sender).val - need
  shares_recipient : (moved.shares recipient).val = (token.shares recipient).val + need
  shares_other : ∀ holder, holder ≠ sender → holder ≠ recipient →
    moved.shares holder = token.shares holder

theorem moved_of_transfer (hne : sender ≠ recipient)
    (h : (transfer sender recipient amount).run token = .ok ((), moved)) :
    token.num ≠ 0 ∧ Moved token moved sender recipient (worth token.num token.den amount) := by
  obtain ⟨shares, left, joined, hshares, hle, hleft, hjoined, rfl⟩ := run_transfer_eq_ok.mp h
  obtain ⟨⟨hfactor, -, hworth⟩, -⟩ := run_nominalToShares_eq_ok.mp hshares
  rw [← hworth]
  refine ⟨hfactor, rfl, rfl, BoundedInt.le_def.mp hle, ?_, ?_, fun holder hsender hrecipient ↦ ?_⟩
  · rw [shares_setShares, if_neg hne, shares_setShares, if_pos rfl, hleft]
  · rw [shares_setShares, if_pos rfl, hjoined]
  · rw [shares_setShares, if_neg hrecipient, shares_setShares, if_neg hsender]

omit [LinearOrder Address] in
/-- A positive amount whose product with the denominator is in range has a worth in range. -/
theorem exists_worth (hfactor : token.num ≠ 0) (hpos : 0 < amount)
    (hproduct : ∃ product : I128, product.val = amount.val * token.den.val) :
    ∃ shares : I128, 0 ≤ shares.val ∧ shares.val = worth token.num token.den amount ∧
      (nominalToShares amount).run token = .ok (shares, token) := by
  obtain ⟨product, hval⟩ := hproduct
  have hnonneg : 0 ≤ product.val := by
    rw [hval]
    exact mul_nonneg (BoundedInt.lt_def.mp hpos).le token.den_pos.le
  have hquotient : 0 ≤ worth token.num token.den amount ∧
      worth token.num token.den amount ≤ product.val := by
    rw [worth, ← hval]
    exact ⟨Int.tdiv_nonneg hnonneg token.num_nonneg, Int.tdiv_le_self _ hnonneg⟩
  have hhi := product.le_hi
  let shares : I128 := ⟨worth token.num token.den amount, by omega, by omega⟩
  exact ⟨shares, hquotient.1, rfl,
    run_nominalToShares_eq_ok.mpr ⟨⟨hfactor, ⟨product, hval⟩, rfl⟩, rfl⟩⟩

theorem exists_transfer (hfactor : token.num ≠ 0) (hpos : 0 < amount)
    (hproduct : ∃ product : I128, product.val = amount.val * token.den.val)
    (hsufficient : worth token.num token.den amount ≤ (token.shares sender).val)
    (hroom : ∃ joined : I128,
      joined.val = (token.shares recipient).val + worth token.num token.den amount) :
    ∃ moved, (transfer sender recipient amount).run token = .ok ((), moved) := by
  obtain ⟨shares, hnonneg, hworth, hrun⟩ := exists_worth hfactor hpos hproduct
  obtain ⟨joined, hjoined⟩ := hroom
  have hhi := (token.shares sender).le_hi
  let left : I128 := ⟨(token.shares sender).val - shares.val, by omega, by omega⟩
  exact ⟨_, run_transfer_eq_ok.mpr ⟨shares, left, joined, hrun,
    BoundedInt.le_def.mpr (hworth ▸ hsufficient), rfl, hworth ▸ hjoined, rfl⟩⟩

theorem run_transfer_of_insufficient (hfactor : token.num ≠ 0) (hpos : 0 < amount)
    (hproduct : ∃ product : I128, product.val = amount.val * token.den.val)
    (hinsufficient : (token.shares sender).val < worth token.num token.den amount) :
    (transfer sender recipient amount).run token =
      .error RebasingTokenError.insufficientBalance.code := by
  obtain ⟨shares, -, hworth, hrun⟩ := exists_worth hfactor hpos hproduct
  rw [transfer, run_bind_of_eq_ok hrun, sharesOf, run_bind_of_eq_ok (run_query_eq_ok.mpr ⟨rfl, rfl⟩)]
  refine run_bind_eq_error.mpr (.inl (run_rejectIf_eq_error.mpr ⟨?_, rfl⟩))
  exact BoundedInt.lt_def.mpr (hworth ▸ hinsufficient)

/-- Without a factor nothing moves. -/
theorem run_transfer_of_wiped (h : token.num = 0) :
    (transfer sender recipient amount).run token =
      .error RebasingTokenError.invalidRebaseFactor.code := by
  refine run_bind_eq_error.mpr (.inl ?_)
  rw [nominalToShares, run_bind_of_eq_ok (run_query_eq_ok.mpr ⟨rfl, rfl⟩),
    run_bind_of_eq_ok (run_query_eq_ok.mpr ⟨rfl, rfl⟩)]
  exact run_bind_eq_error.mpr (.inl (run_rejectIf_eq_error.mpr ⟨h, rfl⟩))

end RebasingToken

/-- A transfer in the world of all tokens. -/
def rebasingTransfer (world : Address → RebasingToken Address) (token sender recipient : Address)
    (amount : I128) : Except CalleeError (Address → RebasingToken Address) :=
  match (RebasingToken.transfer sender recipient amount).run (world token) with
  | .ok (_, moved) => .ok (Function.update world token moved)
  | .error error => .error error

/-- The host whose tokens are rebasing. Between two calls anything may happen to them. The contract
never asks a token for a balance, so the ledger is read without the bound of `RebasingToken.balance`. -/
def rebasingHost (contract zeroAccount : Address) :
    Host Address (Address → RebasingToken Address) where
  currentContractAddress := contract
  addressFromString _ := zeroAccount
  transfer := rebasingTransfer
  balance world token holder := (world token).nominalBalance holder
  outside _ _ := True

variable {world settled : Address → RebasingToken Address} {token sender recipient : Address}
  {amount : I128}

/-- Whenever a token answers a query for a balance, the host reports the answer. -/
theorem balance_rebasingHost {contract zeroAccount holder : Address} {answer : I128}
    {after : RebasingToken Address}
    (h : (RebasingToken.balance holder).run (world token) = .ok (answer, after)) :
    (rebasingHost contract zeroAccount).balance world token holder = answer.val :=
  (RebasingToken.run_balance_eq_ok.mp h).1.2.symm

theorem rebasingTransfer_eq_ok :
    rebasingTransfer world token sender recipient amount = .ok settled ↔
      ∃ moved, (RebasingToken.transfer sender recipient amount).run (world token) = .ok ((), moved) ∧
        settled = Function.update world token moved := by
  unfold rebasingTransfer
  cases (RebasingToken.transfer sender recipient amount).run (world token) with
  | error error => simp
  | ok pair =>
    obtain ⟨⟨⟩, moved⟩ := pair
    simp [eq_comm]

theorem rebasingTransfer_eq_error {error : CalleeError}
    (h : (RebasingToken.transfer sender recipient amount).run (world token) = .error error) :
    rebasingTransfer world token sender recipient amount = .error error := by
  rw [rebasingTransfer, h]

/-! ## A market with a rebasing token

As in the tests of `src/test.rs`: the supporter 5 owns 10000 units of each token and tips the creator 3
with 1000 of token 7, at no fee. -/

/-- The token after a call, which changes nothing when it fails. -/
def RebasingToken.after (call : RebasingCall Address Unit) (token : RebasingToken Address) :
    RebasingToken Address :=
  match call.run token with
  | .ok (_, token') => token'
  | .error _ => token

def rebasingMarketHost : Host ℕ (ℕ → RebasingToken ℕ) := rebasingHost 0 9

def rebasingMarketStart : State ℕ ℕ (ℕ → RebasingToken ℕ) :=
  deployed ℕ fun _ ↦ RebasingToken.after (RebasingToken.mint 5 (i128 10000)) .fresh

def rebasingTipped : State ℕ ℕ (ℕ → RebasingToken ℕ) :=
  (replay rebasingMarketStart
    [(signedBy rebasingMarketHost 1 (u64 100), .init 1 2 0 0 0 0),
      (signedBy rebasingMarketHost 3 (u64 101), .register 3 30 [] []),
      (signedBy rebasingMarketHost 5 (u64 102), .tip 5 3 7 (i128 1000) [])]).2

/-- A rebase of token 7. -/
def rebasingTippedAt (num den : I128) : State ℕ ℕ (ℕ → RebasingToken ℕ) :=
  { rebasingTipped with
    world := Function.update rebasingTipped.world 7
      (RebasingToken.after (RebasingToken.rebase num den) (rebasingTipped.world 7)) }

theorem rebasingTippedAt_reachable (num den : I128) :
    ReachableState rebasingMarketHost (rebasingTippedAt num den) := by
  have htipped : ReachableState rebasingMarketHost rebasingTipped := .of_deployed (run_replay _ _)
  exact htipped.step (.outside trivial)

end StellarTip
