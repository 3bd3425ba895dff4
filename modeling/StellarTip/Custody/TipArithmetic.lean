import StellarTip.Custody.Withdrawal
import Mathlib.Algebra.Order.BigOperators.Group.Finset

/-!
# The arithmetic of a tip

Under the assumptions on a standard token, a tip within the balance of its sender can only break at
two places: the product of the amount and the fee rate is computed before the division, and may be
out of range although the fee is not; and the counter may be at its end. The subtraction is safe
because the fee is at most the amount, and the addition because the new balance is covered by the
token itself.
-/

namespace StellarTip

open Foundation TipContract
open scoped BigOperators

variable {Address Symbol World : Type} [LinearOrder Address]

/-- A conforming token that keeps its balances as `i128` values, and refuses a transfer only for lack
of balance. -/
structure StandardToken (host : Host Address World) (token : Address) : Prop
    extends ConformingToken host token where
  balance_le : ∀ world holder,
    host.balance world token holder ≤ 170141183460469231731687303715884105727
  honoured : ∀ {world sender recipient} {amount : I128}, 0 < amount →
    amount.val ≤ host.balance world token sender →
      ∃ settled, host.transfer world token sender recipient amount = .ok settled

variable {host : Host Address World}

/-- A signed tip that passes the checks of a ready contract and is within the balance of its sender. -/
structure AdmissibleTip (env : Env host) (state : State Address Symbol World)
    (sender creator token : Address) (amount : I128) : Prop where
  ready : state.storage.Ready
  authorized : env.authorized sender = true
  registered : isCreator state.storage creator = true
  below_cap : 0 < getMaxTipsPerCreator state.storage →
    getTipCount state.storage creator < U32.asU64 (getMaxTipsPerCreator state.storage)
  positive : 0 < amount
  minimum : getMinTipAmount state.storage ≤ amount
  funds : amount.val ≤ host.balance state.world token sender

/-- A tip that succeeds with every intermediate result in range, and charges the exact fee. -/
structure SafeTip [DecidableEq Symbol] (env : Env host) (state state' : State Address Symbol World)
    (sender creator token : Address) (amount : I128) (message : HostString)
    (receipt : Receipt Address Symbol) (fee : I128) : Prop where
  succeeds : invoke env (.tip sender creator token amount message) state = .ok (receipt, state')
  product_fits : ∃ product : I128,
    product.val = amount.val * (getFeePercentage state.storage).val
  remainder_fits : ∃ creatorAmount : I128, creatorAmount.val = amount.val - fee.val
  credit_fits : ∃ newBalance : I128,
    newBalance.val = (getBalance state.storage creator token).val + (amount.val - fee.val)
  fee_val : fee.val = amount.val * (getFeePercentage state.storage).val / 10000
  announced : receipt.events =
    [.tipSent sender creator token amount fee (getTipCount state.storage creator)]
  charged : outflow host.currentContractAddress token receipt.transfers = fee.val

/-- The product of the fee computation and the next index are in range. -/
def TipFits (storage : Storage Address Symbol) (creator : Address) (amount : I128) : Prop :=
  amount.val * (getFeePercentage storage).val ≤ 170141183460469231731687303715884105727 ∧
    (getTipCount storage creator).val < 18446744073709551615

instance (storage : Storage Address Symbol) (creator : Address) (amount : I128) :
    Decidable (TipFits storage creator amount) := inferInstanceAs (Decidable (_ ∧ _))

variable [DecidableEq Symbol] {env : Env host} {state state' : State Address Symbol World}
  {sender creator token : Address} {amount fee : I128} {message : HostString}
  {receipt : Receipt Address Symbol}

/-- The contract receives the deposit, which leaves it with the amount at least. -/
theorem StandardToken.deposit (hstandard : StandardToken host token)
    (hauth : env.authorized sender = true) (hpos : 0 < amount) {world : World}
    (hfunds : amount.val ≤ host.balance world token sender) :
    ∃ deposited,
      host.transfer world token sender host.currentContractAddress amount = .ok deposited ∧
      host.balance deposited token host.currentContractAddress =
        host.balance world token host.currentContractAddress + amount.val := by
  obtain ⟨deposited, hdeposit⟩ := hstandard.honoured hpos hfunds
  have hmoved := hstandard.moves_exactly hdeposit host.currentContractAddress
  have hsender := env.ne_of_authorized hauth
  refine ⟨deposited, hdeposit, ?_⟩
  rw [hmoved, Transfer.net, if_pos rfl, if_pos rfl, if_neg hsender, sub_zero]

/-- The fee can be forwarded out of the deposit. -/
theorem StandardToken.forward (hstandard : StandardToken host token) {world deposited : World}
    {optFeeRecipient : Option Address} (hconfigured : optFeeRecipient ≠ none)
    (hdeposited : host.balance deposited token host.currentContractAddress =
      host.balance world token host.currentContractAddress + amount.val)
    (hle : fee.val ≤ amount.val) :
    ∃ forwarded settled,
      FeeForwarded host token optFeeRecipient fee deposited forwarded settled := by
  obtain ⟨recipient, hrecipient⟩ := Option.ne_none_iff_exists'.mp hconfigured
  rcases le_or_gt fee 0 with hfree | hcharged
  · exact ⟨_, _, .free hfree⟩
  · have hnonneg := hstandard.balance_nonneg world
    have hmoved : ∃ settled,
        host.transfer deposited token host.currentContractAddress recipient fee = .ok settled := by
      apply hstandard.honoured hcharged
      rw [hdeposited]
      omega
    obtain ⟨settled, hsettled⟩ := hmoved
    exact ⟨_, _, .paid hcharged hrecipient hsettled⟩

/-- The new balance is covered by what the token holds for the contract after the deposit. -/
theorem StandardToken.credit_fits (hstandard : StandardToken host token)
    (h : ReachableState host state) {deposited : World}
    (hdeposited : host.balance deposited token host.currentContractAddress =
      host.balance state.world token host.currentContractAddress + amount.val)
    (hnonneg : 0 ≤ fee.val) (hle : fee.val ≤ amount.val) :
    ∃ newBalance : I128,
      newBalance.val = (getBalance state.storage creator token).val + (amount.val - fee.val) := by
  have hcredit := BoundedInt.le_def.mp (getBalance_nonneg h creator token)
  have hcovered := getBalance_le_balance hstandard.toConformingToken h creator
  have hrange := hstandard.balance_le deposited host.currentContractAddress
  rw [I128.val_zero] at hcredit
  rw [hdeposited] at hrange
  exact ⟨⟨(getBalance state.storage creator token).val + (amount.val - fee.val), by omega, by omega⟩,
    rfl⟩

/-- Every condition of a tip follows, once the product and the next index are in range. -/
theorem AdmissibleTip.accepted (hadmissible : AdmissibleTip env state sender creator token amount)
    (hstandard : StandardToken host token) (h : ReachableState host state)
    (hfits : TipFits state.storage creator amount) :
    ∃ fee newBalance nextIndex forwarded settled,
      TipAccepted host state.storage state.world sender creator token amount fee newBalance nextIndex
        forwarded settled := by
  obtain ⟨hproduct, hindex⟩ := hfits
  have hfeeBps := (ConfigurationInvariant.of_reachable h).feeBps_le
  have hamount : 0 < amount.val := BoundedInt.lt_def.mp hadmissible.positive
  have hrecipient := feeRecipient_ne_none h hadmissible.ready
  have hrate := (getFeePercentage state.storage).lo_le
  have hcount := (getTipCount state.storage creator).lo_le
  have hrange := amount.le_hi
  have hproduct_nonneg := mul_nonneg hamount.le hrate
  obtain ⟨fee, hfee⟩ := exists_fee hadmissible.positive hfeeBps
  obtain ⟨hfee_nonneg, hfee_le⟩ := fee_bounds hadmissible.positive hfeeBps hfee
  obtain ⟨deposited, hdeposit, hdeposited⟩ :=
    hstandard.deposit hadmissible.authorized hadmissible.positive hadmissible.funds
  obtain ⟨forwarded, settled, hforward⟩ := hstandard.forward hrecipient hdeposited hfee_le
  obtain ⟨newBalance, hbalance⟩ := hstandard.credit_fits h hdeposited hfee_nonneg hfee_le
  exact ⟨fee, newBalance, ⟨(getTipCount state.storage creator).val + 1, by omega, by omega⟩,
    forwarded, settled,
    { positive := hadmissible.positive
      minimum := fun _ ↦ hadmissible.minimum
      registered := hadmissible.registered
      below_cap := hadmissible.below_cap
      product_fits := ⟨⟨_, by omega, hproduct⟩, rfl⟩
      fee_val := hfee
      remainder_fits := ⟨⟨amount.val - fee.val, by omega, by omega⟩, rfl⟩
      recipient_set := fun _ ↦ hrecipient
      moved := ⟨deposited, hdeposit, hforward⟩
      newBalance_val := hbalance
      nextIndex_val := rfl }⟩

/-- A tip that is accepted is safe. -/
theorem safeTip_of_ok (h : ReachableState host state)
    (hok : invoke env (.tip sender creator token amount message) state = .ok (receipt, state')) :
    ∃ fee, SafeTip env state state' sender creator token amount message receipt fee := by
  obtain ⟨authorized, fee, newBalance, nextIndex, forwarded, settled, accepted, rfl, rfl⟩ :=
    (invoke_eq_ok_iff.mp hok).of_tip
  exact ⟨fee,
    { succeeds := hok
      product_fits := accepted.product_fits
      remainder_fits := accepted.remainder_fits
      credit_fits := ⟨newBalance, accepted.newBalance_val⟩
      fee_val := fee_eq_ediv accepted.positive accepted.fee_val
      announced := rfl
      charged := by rw [outflow_tip h authorized accepted, if_pos rfl] }⟩

/-- A tip that is accepted had room for its product and its index. -/
theorem tipFits_of_ok
    (hok : invoke env (.tip sender creator token amount message) state = .ok (receipt, state')) :
    TipFits state.storage creator amount := by
  obtain ⟨-, fee, newBalance, nextIndex, forwarded, settled, accepted, -, -⟩ :=
    (invoke_eq_ok_iff.mp hok).of_tip
  obtain ⟨product, hproduct⟩ := accepted.product_fits
  have hnext := accepted.nextIndex_val
  have hindex := nextIndex.le_hi
  constructor
  · rw [← hproduct]
    exact product.le_hi
  · omega

/-- An admissible tip of a standard token is safe exactly when the product of the amount and the fee
rate, which is computed before the division, and the next index are in range. -/
theorem admissible_tip_safe_iff (hstandard : StandardToken host token)
    (h : ReachableState host state)
    (hadmissible : AdmissibleTip env state sender creator token amount) (message : HostString) :
    (∃ receipt state' fee,
      SafeTip env state state' sender creator token amount message receipt fee) ↔
    TipFits state.storage creator amount := by
  constructor
  · rintro ⟨receipt, state', fee, hsafe⟩
    exact tipFits_of_ok hsafe.succeeds
  · intro hfits
    obtain ⟨fee, newBalance, nextIndex, forwarded, settled, haccepted⟩ :=
      hadmissible.accepted hstandard h hfits
    exact ⟨_, _, safeTip_of_ok h
      (invoke_eq_ok_iff.mpr (.tip hadmissible.authorized hadmissible.ready haccepted))⟩

/-- The same host with fewer token worlds, which transfers do not leave. -/
def Host.restrict (host : Host Address World) (kept : World → Prop)
    (hkept : ∀ {world settled token sender recipient amount}, kept world →
      host.transfer world token sender recipient amount = .ok settled → kept settled) :
    Host Address { world : World // kept world } where
  currentContractAddress := host.currentContractAddress
  addressFromString := host.addressFromString
  transfer world token sender recipient amount :=
    match h : host.transfer world token sender recipient amount with
    | .ok settled => .ok ⟨settled, hkept world.property h⟩
    | .error error => .error error
  balance world := host.balance world
  outside world world' := host.outside world world'

omit [LinearOrder Address] in
theorem Host.transfer_restrict_eq_ok_iff {kept : World → Prop}
    {hkept : ∀ {world settled token sender recipient amount}, kept world →
      host.transfer world token sender recipient amount = .ok settled → kept settled}
    {world settled : { world : World // kept world }} {token sender recipient : Address}
    {amount : I128} :
    (host.restrict kept hkept).transfer world token sender recipient amount = .ok settled ↔
      host.transfer world token sender recipient amount = .ok settled.val := by
  unfold Host.restrict
  dsimp only
  split
  · rename_i moved h
    simp only [h, Except.ok.injEq, Subtype.ext_iff]
  · rename_i error h
    simp only [h, reduceCtorEq]

/-- The balances of a token never add up to more than an `i128` value. -/
def BoundedSupply (ledger : TokenLedger Address) : Prop :=
  ∀ (token : Address) (holders : Finset Address),
    ∑ holder ∈ holders, ledger.balance token holder ≤ 170141183460469231731687303715884105727

theorem BoundedSupply.transfer {ledger ledger' : TokenLedger Address}
    {token sender recipient : Address} {amount : I128} (h : BoundedSupply ledger)
    (hmoved : ledger.transfer token sender recipient amount = .ok ledger') :
    BoundedSupply ledger' := by
  obtain ⟨-, hbalance⟩ := TokenLedger.transfer_eq_ok_iff.mp hmoved
  intro other holders
  by_cases htoken : other = token
  · let parties := insert sender (insert recipient holders)
    have hsubset : holders ⊆ parties :=
      (Finset.subset_insert _ _).trans (Finset.subset_insert _ _)
    have hsender : sender ∈ parties := Finset.mem_insert_self _ _
    have hrecipient : recipient ∈ parties :=
      Finset.mem_insert_of_mem (Finset.mem_insert_self _ _)
    calc
      _ ≤ ∑ holder ∈ parties, ledger'.balance other holder :=
        Finset.sum_le_sum_of_subset_of_nonneg hsubset fun holder _ _ ↦
          ledger'.balance_nonneg other holder
      _ = ∑ holder ∈ parties, ledger.balance other holder + amount.val - amount.val := by
        simp only [hbalance, TokenLedger.movedBalance, if_pos htoken, Finset.sum_sub_distrib,
          Finset.sum_add_distrib, Finset.sum_ite_eq', if_pos hsender, if_pos hrecipient]
      _ = ∑ holder ∈ parties, ledger.balance other holder := add_sub_cancel_right _ _
      _ ≤ _ := h other parties
  · simp only [hbalance, TokenLedger.movedBalance, if_neg htoken]
    exact h other holders

/-- The plain ledgers of a bounded supply, around the contract at address 0. -/
def supplyHost : Host ℕ { ledger : TokenLedger ℕ // BoundedSupply ledger } :=
  marketHost.restrict BoundedSupply BoundedSupply.transfer

theorem standardToken_supplyHost (token : ℕ) : StandardToken supplyHost token := by
  have hhonouring := honouringToken_ledgerHost 0 9 token
  constructor
  · constructor
    · exact fun world ↦ hhonouring.balance_nonneg world
    · exact fun hmoved ↦ hhonouring.moves_exactly (Host.transfer_restrict_eq_ok_iff.mp hmoved)
    · exact fun hne hmoved ↦
        hhonouring.kept_by_foreign hne (Host.transfer_restrict_eq_ok_iff.mp hmoved)
    · exact fun hmoved ↦ hhonouring.kept_outside hmoved
  · intro world holder
    have hsingle := world.property token {holder}
    rwa [Finset.sum_singleton] at hsingle
  · intro world sender recipient amount hpos hfunds
    have hnonneg : 0 ≤ amount.val := (BoundedInt.lt_def.mp hpos).le
    obtain ⟨settled, hmoved⟩ : ∃ settled,
        world.val.transfer token sender recipient amount = .ok settled :=
      ⟨_, dif_pos ⟨hnonneg, hfunds⟩⟩
    exact ⟨⟨settled, world.property.transfer hmoved⟩, Host.transfer_restrict_eq_ok_iff.mpr hmoved⟩

/-- The tipper 5 owns the whole supply of every token. -/
def wholeSupply : TokenLedger ℕ where
  balance _ holder := if holder = 5 then 170141183460469231731687303715884105727 else 0
  balance_nonneg _ holder := by split <;> decide

theorem boundedSupply_wholeSupply : BoundedSupply wholeSupply := by
  intro token holders
  change ∑ holder ∈ holders, (if holder = 5 then _ else 0) ≤ _
  rw [Finset.sum_ite_eq']
  split
  · exact le_rfl
  · decide

/-- Creator 3 can be tipped at a fee of 5%. -/
def supplyMarket : State ℕ ℕ { ledger : TokenLedger ℕ // BoundedSupply ledger } :=
  (replay (deployed ℕ ⟨wholeSupply, boundedSupply_wholeSupply⟩)
    [(signedBy supplyHost 1 (u64 100), .init 1 2 (u32 500) 0 0 0),
      (signedBy supplyHost 3 (u64 101), .register 3 30 [] [])]).2

theorem supplyMarket_reachable : ReachableState supplyHost supplyMarket :=
  .of_deployed (run_replay _ _)

theorem supplyMarket_admissible (amount : I128) (hpos : 0 < amount) :
    AdmissibleTip (signedBy supplyHost 5 (u64 102)) supplyMarket 5 3 7 amount where
  ready := ⟨by decide, by decide⟩
  authorized := by decide
  registered := by decide
  below_cap := by decide
  positive := hpos
  minimum := hpos.le
  funds := amount.le_hi

/-- A tip of 100 units is safe. -/
theorem admissible_tip_safe_in_supplyMarket :
    ∃ receipt state' fee, SafeTip (signedBy supplyHost 5 (u64 102)) supplyMarket state' 5 3 7
      (i128 100) [] receipt fee :=
  (admissible_tip_safe_iff (standardToken_supplyHost 7) supplyMarket_reachable
    (supplyMarket_admissible (i128 100) (by decide)) []).mpr (by decide)

/-- A tip of the whole supply is admissible, and its product with 500 is out of range. -/
theorem admissible_tip_overflows :
    ¬∀ (env : Env supplyHost) (state : State ℕ ℕ { ledger : TokenLedger ℕ // BoundedSupply ledger })
      sender creator token amount message, ReachableState supplyHost state →
        StandardToken supplyHost token → AdmissibleTip env state sender creator token amount →
          ∃ receipt state' fee,
            SafeTip env state state' sender creator token amount message receipt fee := by
  intro h
  let amount : I128 := i128 170141183460469231731687303715884105727
  obtain ⟨receipt, state', fee, hsafe⟩ := h _ supplyMarket 5 3 7 amount [] supplyMarket_reachable
    (standardToken_supplyHost 7) (supplyMarket_admissible amount (by decide))
  exact absurd (tipFits_of_ok hsafe.succeeds) (by decide)

end StellarTip
