import StellarTip.Custody.Solvency

/-!
# The effect of a tip

A tip makes two transfers and five writes. Its sender, its creator and the fee recipient may be the
same address, and every combination is covered by one formula for the ledgers: each party's part is
added up. The rest of the storage is a frame, named by the four keys that are written.
-/

namespace StellarTip

open Foundation TipContract

variable {Address Symbol World : Type} [LinearOrder Address] {host : Host Address World}

/-- Only finitely many holders have a balance in the token. -/
abbrev FiniteLedger (host : Host Address World) (world : World) (token : Address) : Prop :=
  (fun holder ↦ host.balance world token holder).HasFiniteSupport

/-- The total of the balances of all holders in a token. -/
noncomputable def totalSupply (host : Host Address World) (world : World) (token : Address) : ℤ :=
  ∑ᶠ holder, host.balance world token holder

/-- Transfers move tokens between holders, and make or destroy none. -/
theorem finsum_of_transfers (token : Address) (transfers : List (Transfer Address))
    {balance balance' : Address → ℤ} (hfinite : balance.HasFiniteSupport)
    (h : ∀ holder, balance' holder = balance holder + netInflow holder token transfers) :
    balance'.HasFiniteSupport ∧ ∑ᶠ holder, balance' holder = ∑ᶠ holder, balance holder := by
  induction transfers generalizing balance with
  | nil =>
    have heq : balance' = balance := by
      funext holder
      rw [h holder, netInflow, List.map_nil, List.sum_nil, add_zero]
    rw [heq]
    exact ⟨hfinite, rfl⟩
  | cons transfer transfers ih =>
    let moved : Address → ℤ := fun holder ↦ balance holder + transfer.net holder token
    have hrest (holder : Address) :
        balance' holder = moved holder + netInflow holder token transfers := by
      rw [h holder, netInflow, List.map_cons, List.sum_cons, ← add_assoc]
      rfl
    have hnet (holder : Address) : moved holder = balance holder +
        ((if holder = transfer.recipient then
            if transfer.token = token then transfer.amount.val else 0 else 0) -
          if holder = transfer.sender then
            if transfer.token = token then transfer.amount.val else 0 else 0) := by
      by_cases htoken : transfer.token = token
      · simp [moved, Transfer.net, htoken]
      · simp [moved, Transfer.net, htoken]
    have hmoved := finsum_eq_of_moved hfinite hnet
    obtain ⟨hfinite', htotal⟩ := ih hmoved.1 hrest
    exact ⟨hfinite', htotal.trans hmoved.2⟩

variable [DecidableEq Symbol] {env : Env host} {call : Call Address Symbol}
  {state state' : State Address Symbol World} {receipt : Receipt Address Symbol}

/-- With exact tokens no call of the contract changes a total supply. -/
theorem Accepts.totalSupply_eq (h : Accepts env state call receipt state')
    (hexact : ∀ token, call.token = some token → ExactToken host token) {token : Address}
    (hfinite : FiniteLedger host state.world token) :
    FiniteLedger host state'.world token ∧
      totalSupply host state'.world token = totalSupply host state.world token :=
  finsum_of_transfers token receipt.transfers hfinite (h.balance_of_exact hexact token)

/-- What a tip does: its fee, the ledgers, the balance recorded for the creator, the token set, the
counter and the record, and that every other entry stays as it is. -/
structure TipEffect (env : Env host) (state state' : State Address Symbol World)
    (sender creator token : Address) (amount : I128) (message : HostString)
    (receipt : Receipt Address Symbol) (fee : I128) : Prop where
  fee_val : fee.val = amount.val * (getFeePercentage state.storage).val / 10000
  fee_nonneg : 0 ≤ fee.val
  fee_le : fee.val ≤ amount.val
  events : receipt.events =
    [.tipSent sender creator token amount fee (getTipCount state.storage creator)]
  custody : host.balance state'.world token host.currentContractAddress =
    host.balance state.world token host.currentContractAddress + (amount.val - fee.val)
  ledger : ∀ holder, holder ≠ host.currentContractAddress →
    host.balance state'.world token holder = host.balance state.world token holder +
      (if getFeeRecipient state.storage = some holder then fee.val else 0) -
      (if holder = sender then amount.val else 0)
  other_ledgers : ∀ other holder, other ≠ token →
    host.balance state'.world other holder = host.balance state.world other holder
  supply : ∀ other, FiniteLedger host state.world other →
    FiniteLedger host state'.world other ∧
      totalSupply host state'.world other = totalSupply host state.world other
  balance_val : (getBalance state'.storage creator token).val =
    (getBalance state.storage creator token).val + (amount.val - fee.val)
  tokens : state'.storage.persistentTier.get (.creatorTokens creator) =
    some ((trackedTokens state.storage creator).insert token)
  count_val : (getTipCount state'.storage creator).val =
    (getTipCount state.storage creator).val + 1
  returned : receipt.returned = some (getTipCount state.storage creator)
  recorded : getTip state'.storage creator (getTipCount state.storage creator) =
    some { sender, token, amount, message, timestamp := env.timestamp }
  instance_kept : state'.storage.instanceTier = state.storage.instanceTier
  persistent_kept : ∀ key : DataKey Address Symbol, key ≠ .balance creator token →
    key ≠ .creatorTokens creator → key ≠ .tip creator (getTipCount state.storage creator) →
      key ≠ .tipCount creator →
        state'.storage.persistentTier.get key = state.storage.persistentTier.get key

section Tip

variable {sender creator token : Address} {amount fee newBalance : I128} {message : HostString}
  {nextIndex : U64} {forwarded : List (Transfer Address)} {settled : World}

/-- The transfers of a tip, as seen by a holder: each part that the holder plays is added up. -/
theorem TipAccepted.netInflow_eq (hreach : ReachableState host state)
    (accepted : TipAccepted host state.storage state.world sender creator token amount fee
      newBalance nextIndex forwarded settled) {holder : Address}
    (hholder : holder ≠ host.currentContractAddress) :
    netInflow holder token (⟨token, sender, host.currentContractAddress, amount⟩ :: forwarded) =
      (if getFeeRecipient state.storage = some holder then fee.val else 0) -
        (if holder = sender then amount.val else 0) := by
  have hconfig := ConfigurationInvariant.of_reachable hreach
  have hfee := fee_bounds accepted.positive hconfig.feeBps_le accepted.fee_val
  obtain ⟨deposited, -, hforward⟩ := accepted.moved
  cases hforward with
  | free hfree =>
    have hzero : fee.val = 0 := le_antisymm (BoundedInt.le_def.mp hfree) hfee.1
    simp [netInflow, Transfer.net, hholder, hzero]
  | @paid recipient _ _ configured =>
    simp only [netInflow, List.map_cons, List.map_nil, List.sum_cons, List.sum_nil, Transfer.net,
      if_true, hholder, if_false, configured, Option.some.injEq, @eq_comm _ recipient holder]
    ring

omit [DecidableEq Symbol] in
/-- A tip transfers its own token only. -/
theorem TipAccepted.netInflow_eq_zero
    (accepted : TipAccepted host state.storage state.world sender creator token amount fee
      newBalance nextIndex forwarded settled) {other : Address} (hne : other ≠ token)
    (holder : Address) :
    netInflow holder other (⟨token, sender, host.currentContractAddress, amount⟩ :: forwarded) =
      0 := by
  obtain ⟨deposited, -, hforward⟩ := accepted.moved
  cases hforward with
  | free => simp [netInflow, Transfer.net, hne.symm]
  | paid => simp [netInflow, Transfer.net, hne.symm]

end Tip

/-- Every accepted tip has exactly its stated effect, whichever of its parties coincide. -/
theorem tip_effect (h : ReachableState host state) {sender creator token : Address} {amount : I128}
    {message : HostString} (hexact : ExactToken host token)
    (hstep : Step host state (.accepted env (.tip sender creator token amount message) receipt)
      state') :
    ∃ fee, TipEffect env state state' sender creator token amount message receipt fee := by
  have hfeeBps := (ConfigurationInvariant.of_reachable h).feeBps_le
  have hcalled : ∀ other,
      (Call.tip sender creator token amount message : Call Address Symbol).token = some other →
        ExactToken host other := by
    rintro other ⟨⟩
    exact hexact
  have hledger := hstep.accepts.balance_of_exact hcalled
  obtain ⟨authorized, fee, newBalance, nextIndex, forwarded, settled, accepted, rfl, rfl⟩ :=
    hstep.accepts.of_tip
  have hfee := fee_bounds accepted.positive hfeeBps accepted.fee_val
  refine ⟨fee, ?_⟩
  constructor
  · exact fee_eq_ediv accepted.positive accepted.fee_val
  · exact hfee.1
  · exact hfee.2
  · rfl
  · rw [hledger, netInflow_tip h authorized accepted, if_pos rfl]
  · intro holder hholder
    rw [hledger, accepted.netInflow_eq h hholder, add_sub_assoc]
  · intro other holder hne
    rw [hledger, accepted.netInflow_eq_zero hne, add_zero]
  · exact fun other hfinite ↦ hstep.accepts.totalSupply_eq hcalled hfinite
  · rw [← accepted.newBalance_val]
    simp [getBalance]
  · simp
  · rw [← accepted.nextIndex_val]
    simp [getTipCount]
  · rfl
  · simp [getTip]
  · rfl
  · intro key hbalance htokens htip hcount
    simp [hbalance, htokens, htip, hcount]

/-- The fee recipient is a creator. -/
def selfTippingMarket : State ℕ ℕ (TokenLedger ℕ) :=
  (replay marketStart [marketInit (u32 500),
    (signedBy marketHost 1 (u64 101), .setFeeRecipient 1 5), marketRegister 5 50]).2

/-- Sender, creator and fee recipient of this tip are the same address, which pays 100 and gets the
fee of 5. -/
theorem tip_effect_of_self_tip :
    marketHost.balance (perform (signedBy marketHost 5 (u64 102)) (.tip 5 5 7 (i128 100) [])
      selfTippingMarket).2.world 7 5 = marketHost.balance selfTippingMarket.world 7 5 + 5 - 100 := by
  obtain ⟨fee, heffect⟩ := tip_effect (.of_deployed (run_replay _ _)) (exactToken_ledgerHost 0 9 7)
    (step_perform (signedBy marketHost 5 (u64 102)) (.tip 5 5 7 (i128 100) []) selfTippingMarket)
  have hfee : fee.val = 5 := heffect.fee_val
  have hledger := heffect.ledger 5 (by decide)
  rw [hfee] at hledger
  exact hledger

end StellarTip
