import StellarTip.Custody.Conforming
import StellarTip.Account.Simulation
import StellarTip.Foundation.FiniteTotal

/-!
# Custody of a conforming token

The total credit of a token is the sum of the recorded balances over all addresses. Every accepted
call changes it by exactly what the contract's own transfers bring in, and a conforming token changes
the contract's balance by the same amount. So their difference, the surplus, only moves when somebody
else sends the token to the contract, and the recorded balances are always covered.
-/

namespace StellarTip

open Foundation TipContract

variable {Address Symbol World : Type} [LinearOrder Address] {host : Host Address World}

/-- The net amount of `token` that a list of transfers brings to `holder`. -/
def netInflow (holder token : Address) (transfers : List (Transfer Address)) : ℤ :=
  (transfers.map (Transfer.net holder token)).sum

/-- The amount of `token` that a list of transfers takes from `holder`. -/
def outflow (holder token : Address) (transfers : List (Transfer Address)) : ℤ :=
  (transfers.map fun transfer ↦
    if transfer.token = token ∧ transfer.sender = holder then transfer.amount.val else 0).sum

/-- The gross amount of `token` tipped in a step. -/
def Label.tipped (token : Address) : Label host Symbol → ℤ
  | .accepted _ (.tip _ _ other amount _) _ => if other = token then amount.val else 0
  | _ => 0

/-- The fees in `token` forwarded in a step: what the contract sends out during a tip. -/
def Label.feesForwarded (token : Address) : Label host Symbol → ℤ
  | .accepted _ (.tip ..) receipt => outflow host.currentContractAddress token receipt.transfers
  | _ => 0

/-- The amount of `token` withdrawn in a step: what the contract sends out during a withdrawal. -/
def Label.withdrawn (token : Address) : Label host Symbol → ℤ
  | .accepted _ (.withdraw ..) receipt =>
      outflow host.currentContractAddress token receipt.transfers
  | _ => 0

/-- The total of the recorded balances in `token`. -/
noncomputable def totalCredit (storage : Storage Address Symbol) (token : Address) : ℤ :=
  ∑ᶠ owner, (getBalance storage owner token).val

/-- What the contract holds of `token` beyond the recorded balances. -/
noncomputable def surplus (host : Host Address World) (token : Address)
    (state : State Address Symbol World) : ℤ :=
  host.balance state.world token host.currentContractAddress - totalCredit state.storage token

variable [DecidableEq Symbol] {env : Env host} {call : Call Address Symbol}
  {receipt : Receipt Address Symbol} {state state' : State Address Symbol World} {token : Address}

/-- The forwarded fee is nothing, or one transfer to somebody else. -/
theorem TipAccepted.forwarded_cases (hreach : ReachableState host state)
    {sender creator other : Address} {amount fee newBalance : I128} {nextIndex : U64}
    {forwarded : List (Transfer Address)} {settled : World}
    (accepted : TipAccepted host state.storage state.world sender creator other amount fee
      newBalance nextIndex forwarded settled) :
    (forwarded = [] ∧ fee.val = 0) ∨
      ∃ recipient, host.currentContractAddress ≠ recipient ∧
        forwarded = [⟨other, host.currentContractAddress, recipient, fee⟩] := by
  have hconfig := ConfigurationInvariant.of_reachable hreach
  have hfee := fee_bounds accepted.positive hconfig.feeBps_le accepted.fee_val
  obtain ⟨deposited, -, hforward⟩ := accepted.moved
  cases hforward with
  | free hfree => exact .inl ⟨rfl, le_antisymm (BoundedInt.le_def.mp hfree) hfee.1⟩
  | @paid recipient _ hpos configured =>
    refine .inr ⟨recipient, ?_, rfl⟩
    rintro rfl
    exact hconfig.feeRecipient_ne configured

section Tip

variable {sender creator other : Address} {amount fee newBalance : I128} {message : HostString}
  {nextIndex : U64} {forwarded : List (Transfer Address)} {settled : World}

/-- The transfers of a tip bring in the amount less the fee. -/
theorem netInflow_tip (hreach : ReachableState host state)
    (authorized : env.authorized sender = true)
    (accepted : TipAccepted host state.storage state.world sender creator other amount fee
      newBalance nextIndex forwarded settled) :
    netInflow host.currentContractAddress token
        (⟨other, sender, host.currentContractAddress, amount⟩ :: forwarded) =
      if other = token then amount.val - fee.val else 0 := by
  have hsender := env.ne_of_authorized authorized
  rcases accepted.forwarded_cases hreach with ⟨rfl, hzero⟩ | ⟨recipient, hrecipient, rfl⟩
  · simp [netInflow, Transfer.net, hsender, hzero]
  · by_cases htoken : other = token
    · simp [netInflow, Transfer.net, hsender, hrecipient, htoken, sub_eq_add_neg]
    · simp [netInflow, Transfer.net, htoken]

/-- What a tip sends out is its fee. -/
theorem outflow_tip (hreach : ReachableState host state)
    (authorized : env.authorized sender = true)
    (accepted : TipAccepted host state.storage state.world sender creator other amount fee
      newBalance nextIndex forwarded settled) :
    outflow host.currentContractAddress token
        (⟨other, sender, host.currentContractAddress, amount⟩ :: forwarded) =
      if other = token then fee.val else 0 := by
  have hsender := env.ne_of_authorized authorized
  rcases accepted.forwarded_cases hreach with ⟨rfl, hzero⟩ | ⟨recipient, hrecipient, rfl⟩
  · simp [outflow, hsender.symm, hzero]
  · simp [outflow, hsender.symm]

end Tip

theorem netInflow_withdraw {caller other : Address} {amount : I128}
    (authorized : env.authorized caller = true) :
    netInflow host.currentContractAddress token
        [⟨other, host.currentContractAddress, caller, amount⟩] =
      if other = token then -amount.val else 0 := by
  have hcaller := env.ne_of_authorized authorized
  by_cases htoken : other = token
  · simp [netInflow, Transfer.net, hcaller, htoken]
  · simp [netInflow, Transfer.net, htoken]

/-- A call that does not name the token brings none of it in. -/
theorem Accepts.netInflow_eq_zero (hreach : ReachableState host state)
    (h : Accepts env state call receipt state') (hne : call.token ≠ some token) :
    netInflow host.currentContractAddress token receipt.transfers = 0 := by
  cases h with
  | tip authorized _ accepted =>
    rw [netInflow_tip hreach authorized accepted, if_neg fun heq ↦ hne (congrArg some heq)]
  | withdraw authorized =>
    rw [netInflow_withdraw authorized, if_neg fun heq ↦ hne (congrArg some heq)]
  | _ => rfl

/-- The balances in a token, of which all but finitely many vanish. -/
abbrev FiniteCredit (storage : Storage Address Symbol) (token : Address) : Prop :=
  (fun owner ↦ (getBalance storage owner token).val).HasFiniteSupport

/-- A call on the account of `owner` moves the total credit by the change of that balance. -/
theorem Accepts.totalCredit_of_account (h : Accepts env state call receipt state')
    {owner : Address} (howner : call.account = some owner)
    (hfinite : FiniteCredit state.storage token) :
    FiniteCredit state'.storage token ∧
      totalCredit state'.storage token = totalCredit state.storage token +
        ((getBalance state'.storage owner token).val -
          (getBalance state.storage owner token).val) := by
  have hoff (other : Address) (hother : other ≠ owner) :
      (getBalance state'.storage other token).val =
        (getBalance state.storage other token).val := by
    rw [getBalance_congr (h.account_eq_of_ne howner hother)]
  exact ⟨hasFiniteSupport_of_eq_off hfinite hoff, finsum_eq_of_eq_off hfinite hoff⟩

/-- An accepted call changes the total credit by what the contract's own transfers bring in. -/
theorem Accepts.totalCredit_eq (hreach : ReachableState host state)
    (h : Accepts env state call receipt state') (hfinite : FiniteCredit state.storage token) :
    FiniteCredit state'.storage token ∧
      totalCredit state'.storage token = totalCredit state.storage token +
        netInflow host.currentContractAddress token receipt.transfers := by
  by_cases htoken : call.token = some token
  · cases h with
    | @tip sender creator other amount fee newBalance message nextIndex forwarded _ authorized
        ready accepted =>
      obtain rfl : other = token := Option.some.inj htoken
      obtain ⟨hfinite', htotal⟩ :=
        (Accepts.tip authorized ready accepted).totalCredit_of_account rfl hfinite
      have hafter := state.storage.getBalance_afterTip creator nextIndex newBalance
        { sender, token := other, amount, message, timestamp := env.timestamp }
      refine ⟨hfinite', ?_⟩
      calc
        _ = totalCredit state.storage other +
            (newBalance.val - (getBalance state.storage creator other).val) := by rw [htotal, hafter]
        _ = totalCredit state.storage other + (amount.val - fee.val) := by
          rw [accepted.newBalance_val]
          ring
        _ = _ := by rw [netInflow_tip hreach authorized accepted, if_pos rfl]
    | @withdraw caller other amount remaining _ authorized ready accepted =>
      obtain rfl : other = token := Option.some.inj htoken
      obtain ⟨hfinite', htotal⟩ :=
        (Accepts.withdraw authorized ready accepted).totalCredit_of_account rfl hfinite
      have hafter := state.storage.getBalance_afterWithdraw caller other
        (Account.remaining_nonneg accepted.sufficient accepted.remaining_val)
      refine ⟨hfinite', ?_⟩
      calc
        _ = totalCredit state.storage other +
            (remaining.val - (getBalance state.storage caller other).val) := by rw [htotal, hafter]
        _ = totalCredit state.storage other + -amount.val := by
          rw [accepted.remaining_val]
          ring
        _ = _ := by rw [netInflow_withdraw authorized, if_pos rfl]
    | configure setter => simp [Call.token_of_adminChange setter] at htoken
    | _ => cases htoken
  · have hbalance (owner : Address) :
        getBalance state'.storage owner token = getBalance state.storage owner token :=
      (h.accountStep owner).balance_eq_of_token_ne htoken
    rw [h.netInflow_eq_zero hreach htoken, add_zero]
    simpa only [FiniteCredit, totalCredit, hbalance, and_true] using hfinite

/-- A call on a conforming token moves the contract's balance by its own transfers alone. -/
theorem Accepts.balance_eq (hconforming : ConformingToken host token)
    (h : Accepts env state call receipt state')
    (htoken : ∀ other, call.token = some other → other = token) :
    host.balance state'.world token host.currentContractAddress =
      host.balance state.world token host.currentContractAddress +
        netInflow host.currentContractAddress token receipt.transfers := by
  cases h with
  | tip _ _ accepted =>
    obtain rfl := htoken _ rfl
    obtain ⟨deposited, hdeposit, hforward⟩ := accepted.moved
    have hdeposited := hconforming.moves_exactly hdeposit host.currentContractAddress
    cases hforward with
    | free =>
      rw [hdeposited]
      simp [netInflow]
    | paid _ _ moved =>
      rw [hconforming.moves_exactly moved, hdeposited]
      simp [netInflow, add_assoc]
  | withdraw _ _ accepted =>
    obtain rfl := htoken _ rfl
    rw [hconforming.moves_exactly accepted.moved]
    simp [netInflow]
  | _ => simp [netInflow]

/-- A call on another token never takes from the contract's balance. -/
theorem Accepts.balance_le (hconforming : ConformingToken host token)
    (h : Accepts env state call receipt state') (htoken : call.token ≠ some token) :
    host.balance state.world token host.currentContractAddress ≤
      host.balance state'.world token host.currentContractAddress := by
  cases h with
  | tip _ _ accepted =>
    have hne := fun heq ↦ htoken (congrArg some heq)
    obtain ⟨deposited, hdeposit, hforward⟩ := accepted.moved
    have hdeposited := hconforming.kept_by_foreign hne hdeposit
    cases hforward with
    | free => exact hdeposited
    | paid _ _ moved => exact hdeposited.trans (hconforming.kept_by_foreign hne moved)
  | withdraw _ _ accepted =>
    exact hconforming.kept_by_foreign (fun heq ↦ htoken (congrArg some heq)) accepted.moved
  | _ => exact le_rfl

/-- With exact tokens a call changes every ledger by its own transfers alone. -/
theorem Accepts.balance_of_exact (h : Accepts env state call receipt state')
    (hexact : ∀ token, call.token = some token → ExactToken host token) (token holder : Address) :
    host.balance state'.world token holder =
      host.balance state.world token holder + netInflow holder token receipt.transfers := by
  cases h with
  | tip _ _ accepted =>
    obtain ⟨deposited, hdeposit, hforward⟩ := accepted.moved
    have hdeposited := (hexact _ rfl).moves_exactly hdeposit token holder
    cases hforward with
    | free =>
      rw [hdeposited]
      simp [netInflow]
    | paid _ _ moved =>
      rw [(hexact _ rfl).moves_exactly moved, hdeposited]
      simp [netInflow, add_assoc]
  | withdraw _ _ accepted =>
    rw [(hexact _ rfl).moves_exactly accepted.moved]
    simp [netInflow]
  | _ => simp [netInflow]

/-! ## The surplus of a step -/

/-- What the contract receives of `token` in a step besides its own transfers. -/
def directInflow (host : Host Address World) (token : Address)
    (state : State Address Symbol World) (label : Label host Symbol)
    (state' : State Address Symbol World) : ℤ :=
  host.balance state'.world token host.currentContractAddress -
    host.balance state.world token host.currentContractAddress -
    netInflow host.currentContractAddress token label.transfers

/-- The step is a call of the contract, and one that names no other token. -/
def Label.IsCallOn (token : Address) : Label host Symbol → Prop
  | .accepted _ call _ => ∀ other, call.token = some other → other = token
  | .rejected .. => True
  | .outside => False

variable {label : Label host Symbol}

theorem Step.totalCredit_eq (hreach : ReachableState host state)
    (hstep : Step host state label state') (hfinite : FiniteCredit state.storage token) :
    FiniteCredit state'.storage token ∧
      totalCredit state'.storage token = totalCredit state.storage token +
        netInflow host.currentContractAddress token label.transfers := by
  cases hstep with
  | accepted ok => exact (invoke_eq_ok_iff.mp ok).totalCredit_eq hreach hfinite
  | rejected => exact ⟨hfinite, (add_zero _).symm⟩
  | outside => exact ⟨hfinite, (add_zero _).symm⟩

/-- The surplus moves by exactly the direct inflow. -/
theorem surplus_eq (hreach : ReachableState host state) (hstep : Step host state label state')
    (hfinite : FiniteCredit state.storage token) :
    surplus host token state' = surplus host token state +
      directInflow host token state label state' := by
  have htotal := (hstep.totalCredit_eq hreach hfinite).2
  calc
    _ = host.balance state'.world token host.currentContractAddress -
        (totalCredit state.storage token +
          netInflow host.currentContractAddress token label.transfers) := by rw [surplus, htotal]
    _ = _ := by
      rw [surplus, directInflow]
      ring

/-- The contract's own calls bring in nothing directly. -/
theorem directInflow_eq_zero (hconforming : ConformingToken host token)
    (hstep : Step host state label state') (hcall : label.IsCallOn token) :
    directInflow host token state label state' = 0 := by
  unfold directInflow
  cases hstep with
  | accepted ok =>
    rw [(invoke_eq_ok_iff.mp ok).balance_eq hconforming hcall]
    exact sub_eq_zero.mpr (add_sub_cancel_left _ _)
  | rejected => simp [netInflow, Label.transfers]
  | outside => exact hcall.elim

theorem directInflow_nonneg (hconforming : ConformingToken host token)
    (hreach : ReachableState host state) (hstep : Step host state label state') :
    0 ≤ directInflow host token state label state' := by
  by_cases hcall : label.IsCallOn token
  · exact (directInflow_eq_zero hconforming hstep hcall).ge
  · unfold directInflow
    cases hstep with
    | @accepted _ call receipt _ _ ok =>
      have haccepts := invoke_eq_ok_iff.mp ok
      have htoken : call.token ≠ some token := by
        intro heq
        exact hcall fun other hother ↦ Option.some.inj (hother.symm.trans heq)
      simp only [Label.transfers, haccepts.netInflow_eq_zero hreach htoken, sub_zero]
      exact sub_nonneg.mpr (haccepts.balance_le hconforming htoken)
    | rejected => exact absurd trivial hcall
    | outside moved =>
      simpa [netInflow, Label.transfers] using hconforming.kept_outside moved

/-- The contract's own transfers bring in the tipped amount less fees and withdrawals. -/
theorem netInflow_eq_flows (token : Address) (hreach : ReachableState host state)
    (hstep : Step host state label state') :
    netInflow host.currentContractAddress token label.transfers =
      label.tipped token - label.feesForwarded token - label.withdrawn token := by
  cases hstep with
  | @accepted env call receipt _ _ ok =>
    cases invoke_eq_ok_iff.mp ok with
    | @tip sender creator other amount fee _ message _ forwarded _ authorized ready accepted =>
      simp only [Label.transfers, Label.tipped, Label.feesForwarded, Label.withdrawn,
        netInflow_tip hreach authorized accepted, outflow_tip hreach authorized accepted]
      split <;> simp
    | @withdraw caller other amount _ _ authorized =>
      simp only [Label.transfers, Label.tipped, Label.feesForwarded, Label.withdrawn,
        netInflow_withdraw authorized, outflow]
      by_cases htoken : other = token <;> simp [htoken]
    | configure setter => cases call <;> first | rfl | cases setter
    | _ => rfl
  | rejected => rfl
  | outside => rfl

variable {labels : List (Label host Symbol)} {world : World}

/-- Along every run, what was tipped is what was forwarded, what was withdrawn and what is recorded. -/
theorem conservation_of_run (token : Address)
    (run : Run (Step host) (deployed Symbol world) labels state) :
    FiniteCredit state.storage token ∧
      (labels.map (Label.tipped token)).sum =
        (labels.map (Label.feesForwarded token)).sum +
          (labels.map (Label.withdrawn token)).sum + totalCredit state.storage token := by
  induction run with
  | nil =>
    have hzero (owner : Address) :
        (getBalance (Storage.empty : Storage Address Symbol) owner token).val = 0 := rfl
    constructor
    · simp [FiniteCredit, deployed, hzero, Function.HasFiniteSupport, Function.support]
    · simp [totalCredit, deployed, hzero]
  | @snoc labels before stop label init last ih =>
    obtain ⟨hfinite, hconserved⟩ := ih
    have hreach : ReachableState host before := .of_deployed init
    obtain ⟨hfinite', htotal⟩ := last.totalCredit_eq hreach hfinite
    have hflows := netInflow_eq_flows token hreach last
    refine ⟨hfinite', ?_⟩
    simp only [List.map_append, List.map_cons, List.map_nil, List.sum_append, List.sum_singleton]
    calc
      _ = (labels.map (Label.feesForwarded token)).sum + (labels.map (Label.withdrawn token)).sum +
          totalCredit before.storage token + label.tipped token := by rw [hconserved]
      _ = (labels.map (Label.feesForwarded token)).sum + label.feesForwarded token +
          ((labels.map (Label.withdrawn token)).sum + label.withdrawn token) +
          (totalCredit before.storage token +
            (label.tipped token - label.feesForwarded token - label.withdrawn token)) := by ring
      _ = _ := by rw [htotal, hflows]

/-- In every reachable state the recorded balances are covered. -/
theorem surplus_nonneg (hconforming : ConformingToken host token)
    (run : Run (Step host) (deployed Symbol world) labels state) :
    0 ≤ surplus host token state := by
  induction run with
  | nil =>
    have hzero (owner : Address) :
        (getBalance (Storage.empty : Storage Address Symbol) owner token).val = 0 := rfl
    simpa [surplus, totalCredit, deployed, hzero] using hconforming.balance_nonneg world
  | snoc init last ih =>
    rw [surplus_eq (.of_deployed init) last (conservation_of_run token init).1]
    exact add_nonneg ih (directInflow_nonneg hconforming (.of_deployed init) last)

/-- A conforming token is covered and conserved along every run. No call of the contract moves the
surplus, and nothing lowers it: it moves by direct inflow alone. -/
theorem custody_of_conforming_token (hconforming : ConformingToken host token) :
    (∀ (world : World) (labels : List (Label host Symbol)) state,
      Run (Step host) (deployed Symbol world) labels state →
        FiniteCredit state.storage token ∧
        totalCredit state.storage token ≤
          host.balance state.world token host.currentContractAddress ∧
        (labels.map (Label.tipped token)).sum =
          (labels.map (Label.feesForwarded token)).sum +
            (labels.map (Label.withdrawn token)).sum + totalCredit state.storage token) ∧
    ∀ (state : State Address Symbol World) label state', ReachableState host state →
      Step host state label state' →
        surplus host token state' = surplus host token state +
            directInflow host token state label state' ∧
          0 ≤ directInflow host token state label state' ∧
          (label.IsCallOn token → directInflow host token state label state' = 0) := by
  refine ⟨fun world labels state run ↦ ?_, fun state label state' hreach hstep ↦ ?_⟩
  · obtain ⟨hfinite, hconserved⟩ := conservation_of_run token run
    exact ⟨hfinite, sub_nonneg.mp (surplus_nonneg hconforming run), hconserved⟩
  · obtain ⟨world, labels, run⟩ := hreach
    exact ⟨surplus_eq ⟨world, labels, run⟩ hstep (conservation_of_run token run).1,
      directInflow_nonneg hconforming ⟨world, labels, run⟩ hstep,
      directInflow_eq_zero hconforming hstep⟩

/-- One tip of 100 units in a plain ledger. -/
theorem custody_of_tippedMarket :
    totalCredit tippedMarket.storage 7 ≤ marketHost.balance tippedMarket.world 7 0 ∧
      ((replay marketStart tippedMarketCalls).1.map (Label.tipped 7)).sum =
        ((replay marketStart tippedMarketCalls).1.map (Label.feesForwarded 7)).sum +
          ((replay marketStart tippedMarketCalls).1.map (Label.withdrawn 7)).sum +
            totalCredit tippedMarket.storage 7 :=
  ((custody_of_conforming_token (honouringToken_ledgerHost 0 9 7).toConformingToken).1 marketLedger
    _ _ (run_replay tippedMarketCalls marketStart)).2

end StellarTip
