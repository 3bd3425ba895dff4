import StellarTip.Custody.Solvency
import StellarTip.Rebasing.Token

/-!
# The surplus in a rebasing token

The records of the contract are in nominal units and its holdings in shares, so a rebase drives them
apart. Between rebases the calls of the contract keep them together up to rounding. The surplus is
what the contract holds beyond the records, in units of one share times one nominal unit, where no
division is left. A tip can lower it by less than the numerator, a withdrawal never does, and neither
raises it by more. So a shortfall left by a downward rebase shrinks, and what an upward rebase adds is
used up, by roundings of less than the numerator per call only; at a numerator of one neither changes.
-/

namespace StellarTip

open Foundation TipContract RebasingToken

variable {Address Symbol : Type} [LinearOrder Address] {contract zeroAccount : Address}
  {token : Address}

/-- A conversion loses less than one share. -/
theorem worth_bounds {num den amount : I128} (hnum : 0 ≤ num.val) (hne : num ≠ 0)
    (hden : 0 < den.val) (hamount : 0 ≤ amount.val) :
    worth num den amount * num.val ≤ amount.val * den.val ∧
      amount.val * den.val ≤ worth num den amount * num.val + (num.val - 1) := by
  have hval : num.val ≠ 0 := fun hval ↦ hne (BoundedInt.ext hval)
  have hpos : 0 < num.val := lt_of_le_of_ne hnum hval.symm
  have hproduct : 0 ≤ amount.val * den.val := mul_nonneg hamount hden.le
  have hdivision := Int.tdiv_mul_add_tmod (amount.val * den.val) num.val
  have hnonneg := Int.tmod_nonneg num.val hproduct
  have hlt := Int.tmod_lt_of_pos (amount.val * den.val) hpos
  rw [worth]
  omega

/-- Nobody else touches the factor of the token or the shares of the contract. -/
structure Undisturbed (contract token : Address) (world world' : Address → RebasingToken Address) :
    Prop where
  num_eq : (world' token).num = (world token).num
  den_eq : (world' token).den = (world token).den
  shares_eq : (world' token).shares contract = (world token).shares contract

variable [DecidableEq Symbol]

def UndisturbedStep (contract zeroAccount token : Address)
    (before : State Address Symbol (Address → RebasingToken Address))
    (label : Label (rebasingHost contract zeroAccount) Symbol)
    (after : State Address Symbol (Address → RebasingToken Address)) : Prop :=
  Step (rebasingHost contract zeroAccount) before label after ∧
    (label = .outside → Undisturbed contract token before.world after.world)

omit [DecidableEq Symbol] in
/-- The shares of the contract at the numerator beyond the recorded balances at the denominator. -/
noncomputable def scaledSurplus (contract token : Address)
    (state : State Address Symbol (Address → RebasingToken Address)) : ℤ :=
  ((state.world token).shares contract).val * (state.world token).num.val -
    totalCredit state.storage token * (state.world token).den.val

/-- The tips of a token in a step: one or none. -/
def Label.tipsIn {World : Type} {host : Host Address World} (token : Address) :
    Label host Symbol → ℤ
  | .accepted _ (.tip _ _ other _ _) _ => if other = token then 1 else 0
  | _ => 0

/-- The withdrawals of a token in a step: one or none. -/
def Label.withdrawalsIn {World : Type} {host : Host Address World} (token : Address) :
    Label host Symbol → ℤ
  | .accepted _ (.withdraw _ other _) _ => if other = token then 1 else 0
  | _ => 0

variable {env : Env (rebasingHost contract zeroAccount)} {call : Call Address Symbol}
  {receipt : Receipt Address Symbol}
  {state state' start stop : State Address Symbol (Address → RebasingToken Address)}
  {label : Label (rebasingHost contract zeroAccount) Symbol}
  {labels : List (Label (rebasingHost contract zeroAccount) Symbol)}

theorem world_of_rebasingTransfer {world settled : Address → RebasingToken Address}
    {other sender recipient : Address} {amount : I128} (hne : token ≠ other)
    (h : rebasingTransfer world other sender recipient amount = .ok settled) :
    settled token = world token := by
  obtain ⟨moved, -, rfl⟩ := rebasingTransfer_eq_ok.mp h
  exact Function.update_of_ne hne _ _

theorem moved_of_rebasingTransfer {world settled : Address → RebasingToken Address}
    {sender recipient : Address} {amount : I128} (hne : sender ≠ recipient)
    (h : rebasingTransfer world token sender recipient amount = .ok settled) :
    (world token).num ≠ 0 ∧ Moved (world token) (settled token) sender recipient
      (worth (world token).num (world token).den amount) := by
  obtain ⟨moved, hrun, rfl⟩ := rebasingTransfer_eq_ok.mp h
  rw [Function.update_self]
  exact moved_of_transfer hne hrun

/-- A call on other tokens leaves the token alone. -/
theorem Accepts.world_of_token_ne (h : Accepts env state call receipt state')
    (hne : call.token ≠ some token) : state'.world token = state.world token := by
  cases h with
  | tip _ _ accepted =>
    have htoken := fun heq ↦ hne (congrArg some (Eq.symm heq))
    obtain ⟨deposited, hdeposit, hforward⟩ := accepted.moved
    have hdeposited := world_of_rebasingTransfer htoken hdeposit
    cases hforward with
    | free => exact hdeposited
    | paid _ _ moved => exact (world_of_rebasingTransfer htoken moved).trans hdeposited
  | withdraw _ _ accepted =>
    exact world_of_rebasingTransfer (fun heq ↦ hne (congrArg some heq.symm)) accepted.moved
  | _ => rfl

/-- How a call on the token moves the shares of the contract and the recorded total. -/
structure Accepts.Exchange (contract token : Address)
    (state state' : State Address Symbol (Address → RebasingToken Address))
    (received credited : ℤ) : Prop where
  num_eq : (state'.world token).num = (state.world token).num
  den_eq : (state'.world token).den = (state.world token).den
  shares_eq : ((state'.world token).shares contract).val =
    ((state.world token).shares contract).val + received
  total_eq : totalCredit state'.storage token = totalCredit state.storage token + credited

omit [DecidableEq Symbol] in
/-- An exchange moves the surplus by the difference of its two sides. -/
theorem Accepts.Exchange.scaledSurplus_eq {received credited : ℤ}
    (h : Accepts.Exchange contract token state state' received credited) :
    scaledSurplus contract token state' = scaledSurplus contract token state +
      (received * (state.world token).num.val - credited * (state.world token).den.val) := by
  rw [scaledSurplus, scaledSurplus, h.num_eq, h.den_eq, h.shares_eq, h.total_eq]
  ring

section Calls

variable {sender creator caller : Address} {amount : I128} {message : HostString}

/-- A tip exchanges what its amount is worth less what its fee is worth. -/
theorem Accepts.exchange_of_tip (hreach : ReachableState (rebasingHost contract zeroAccount) state)
    (hfinite : FiniteCredit state.storage token)
    (h : Accepts env state (.tip sender creator token amount message) receipt state') :
    (state.world token).num ≠ 0 ∧ 0 ≤ amount.val ∧ ∃ fee : I128, 0 ≤ fee.val ∧
      Accepts.Exchange contract token state state'
        (worth (state.world token).num (state.world token).den amount -
          worth (state.world token).num (state.world token).den fee) (amount.val - fee.val) := by
  have htotal := (h.totalCredit_eq hreach hfinite).2
  obtain ⟨authorized, fee, _, _, forwarded, settled, accepted, rfl, rfl⟩ := h.of_tip
  rw [netInflow_tip hreach authorized accepted, if_pos rfl] at htotal
  have hsender : sender ≠ contract := (env.ne_of_authorized authorized).symm
  have hconfig := ConfigurationInvariant.of_reachable hreach
  have hfee := fee_bounds accepted.positive hconfig.feeBps_le accepted.fee_val
  have hcases := accepted.forwarded_cases hreach
  obtain ⟨deposited, hdeposit, hforward⟩ := accepted.moved
  obtain ⟨hne, hmoved⟩ := moved_of_rebasingTransfer hsender hdeposit
  refine ⟨hne, (BoundedInt.lt_def.mp accepted.positive).le, fee, hfee.1, ?_⟩
  cases hforward with
  | free hfree =>
    have hzero : fee.val = 0 := le_antisymm (BoundedInt.le_def.mp hfree) hfee.1
    have hworth : worth (state.world token).num (state.world token).den fee = 0 := by
      rw [worth, hzero, zero_mul, Int.zero_tdiv]
    exact
      { num_eq := hmoved.num_eq
        den_eq := hmoved.den_eq
        shares_eq := by rw [hmoved.shares_recipient, hworth, sub_zero]
        total_eq := htotal }
  | @paid recipient _ hpos configured paid =>
    have hrecipient : contract ≠ recipient := by
      rintro rfl
      exact hconfig.feeRecipient_ne configured
    obtain ⟨-, hpaid⟩ := moved_of_rebasingTransfer hrecipient paid
    have hshares := hpaid.shares_sender
    rw [hmoved.num_eq, hmoved.den_eq, hmoved.shares_recipient] at hshares
    exact
      { num_eq := hpaid.num_eq.trans hmoved.num_eq
        den_eq := hpaid.den_eq.trans hmoved.den_eq
        shares_eq := hshares.trans (add_sub_assoc _ _ _)
        total_eq := htotal }

theorem Accepts.exchange_of_withdraw
    (hreach : ReachableState (rebasingHost contract zeroAccount) state)
    (hfinite : FiniteCredit state.storage token)
    (h : Accepts env state (.withdraw caller token amount) receipt state') :
    (state.world token).num ≠ 0 ∧ 0 ≤ amount.val ∧
      Accepts.Exchange contract token state state'
        (-worth (state.world token).num (state.world token).den amount) (-amount.val) := by
  have htotal := (h.totalCredit_eq hreach hfinite).2
  obtain ⟨authorized, remaining, settled, accepted, rfl, rfl⟩ := h.of_withdraw
  rw [netInflow_withdraw authorized, if_pos rfl] at htotal
  have hcaller : contract ≠ caller := env.ne_of_authorized authorized
  obtain ⟨hne, hmoved⟩ := moved_of_rebasingTransfer hcaller accepted.moved
  exact ⟨hne, (BoundedInt.lt_def.mp accepted.positive).le,
    { num_eq := hmoved.num_eq
      den_eq := hmoved.den_eq
      shares_eq := by rw [hmoved.shares_sender, sub_eq_add_neg]
      total_eq := htotal }⟩

end Calls

/-- Between two states the factor stays and the surplus moves within the rounding of some tips and
withdrawals. -/
structure Drifts (contract token : Address)
    (state state' : State Address Symbol (Address → RebasingToken Address))
    (tips withdrawals : ℤ) : Prop where
  num_eq : (state'.world token).num = (state.world token).num
  den_eq : (state'.world token).den = (state.world token).den
  lower : scaledSurplus contract token state - ((state.world token).num.val - 1) * tips ≤
    scaledSurplus contract token state'
  upper : scaledSurplus contract token state' ≤
    scaledSurplus contract token state + ((state.world token).num.val - 1) * (tips + withdrawals)

omit [DecidableEq Symbol] in
theorem Drifts.of_undisturbed (h : Undisturbed contract token state.world state'.world)
    (htotal : totalCredit state'.storage token = totalCredit state.storage token) :
    Drifts contract token state state' 0 0 := by
  have hsurplus : scaledSurplus contract token state' = scaledSurplus contract token state := by
    rw [scaledSurplus, h.num_eq, h.den_eq, h.shares_eq, htotal, scaledSurplus]
  exact ⟨h.num_eq, h.den_eq, by simp [hsurplus], by simp [hsurplus]⟩

omit [LinearOrder Address] [DecidableEq Symbol] in
theorem Undisturbed.of_eq {world world' : Address → RebasingToken Address}
    (h : world' token = world token) : Undisturbed contract token world world' := by
  constructor <;> rw [h]

omit [DecidableEq Symbol] in
theorem Drifts.trans {tips tips' withdrawals withdrawals' : ℤ}
    (first : Drifts contract token start state tips withdrawals)
    (second : Drifts contract token state stop tips' withdrawals') :
    Drifts contract token start stop (tips + tips') (withdrawals + withdrawals') := by
  have hlower := second.lower
  have hupper := second.upper
  rw [first.num_eq] at hlower hupper
  exact
    { num_eq := second.num_eq.trans first.num_eq
      den_eq := second.den_eq.trans first.den_eq
      lower := by linarith [first.lower]
      upper := by linarith [first.upper] }

theorem Accepts.drifts (hreach : ReachableState (rebasingHost contract zeroAccount) state)
    (hfinite : FiniteCredit state.storage token) (h : Accepts env state call receipt state') :
    Drifts contract token state state' ((Label.accepted env call receipt).tipsIn token)
      ((Label.accepted env call receipt).withdrawalsIn token) := by
  by_cases htoken : call.token = some token
  · have hnum := (state.world token).num_nonneg
    have hden := (state.world token).den_pos
    cases call with
    | tip sender creator other amount message =>
      obtain rfl : other = token := Option.some.inj htoken
      obtain ⟨hne, hamount, fee, hfee, hexchange⟩ := h.exchange_of_tip hreach hfinite
      obtain ⟨hle, hlost⟩ := worth_bounds hnum hne hden hamount
      obtain ⟨hfee_le, hfee_lost⟩ := worth_bounds hnum hne hden hfee
      have hsurplus := hexchange.scaledSurplus_eq
      have htips : (Label.accepted env (.tip sender creator other amount message) receipt).tipsIn
          other = 1 := if_pos rfl
      have hwithdrawals : (Label.accepted env (.tip sender creator other amount message)
          receipt).withdrawalsIn other = 0 := rfl
      rw [htips, hwithdrawals]
      exact ⟨hexchange.num_eq, hexchange.den_eq, by linarith, by linarith⟩
    | withdraw caller other amount =>
      obtain rfl : other = token := Option.some.inj htoken
      obtain ⟨hne, hamount, hexchange⟩ := h.exchange_of_withdraw hreach hfinite
      obtain ⟨hle, hlost⟩ := worth_bounds hnum hne hden hamount
      have hsurplus := hexchange.scaledSurplus_eq
      have htips : (Label.accepted env (.withdraw caller other amount) receipt).tipsIn other = 0 := rfl
      have hwithdrawals : (Label.accepted env (.withdraw caller other amount)
          receipt).withdrawalsIn other = 1 := if_pos rfl
      rw [htips, hwithdrawals]
      exact ⟨hexchange.num_eq, hexchange.den_eq, by linarith, by linarith⟩
    | _ => cases htoken
  · have htotal := (h.totalCredit_eq hreach hfinite).2
    rw [h.netInflow_eq_zero hreach htoken, add_zero] at htotal
    have hnone : (Label.accepted env call receipt).tipsIn token = 0 ∧
        (Label.accepted env call receipt).withdrawalsIn token = 0 := by
      cases call with
      | tip sender creator other => exact ⟨if_neg fun heq ↦ htoken (congrArg some heq), rfl⟩
      | withdraw caller other => exact ⟨rfl, if_neg fun heq ↦ htoken (congrArg some heq)⟩
      | _ => exact ⟨rfl, rfl⟩
    rw [hnone.1, hnone.2]
    exact .of_undisturbed (.of_eq (h.world_of_token_ne htoken)) htotal

theorem UndisturbedStep.drifts (hreach : ReachableState (rebasingHost contract zeroAccount) state)
    (hfinite : FiniteCredit state.storage token)
    (h : UndisturbedStep contract zeroAccount token state label state') :
    Drifts contract token state state' (label.tipsIn token) (label.withdrawalsIn token) := by
  obtain ⟨hstep, houtside⟩ := h
  cases hstep with
  | accepted ok => exact (invoke_eq_ok_iff.mp ok).drifts hreach hfinite
  | rejected => exact .of_undisturbed (.of_eq rfl) rfl
  | outside => exact .of_undisturbed (houtside rfl) rfl

/-- **The surplus moves by rounding alone.** In every run in which nobody else touches the factor of the
token or the shares of the contract, a tip lowers the surplus by less than the numerator and a withdrawal
not at all, and each raises it by less than the numerator. -/
theorem surplus_drifts_by_rounding (hreach : ReachableState (rebasingHost contract zeroAccount) start)
    (run : Run (UndisturbedStep contract zeroAccount token) start labels stop) :
    Drifts contract token start stop (labels.map (Label.tipsIn token)).sum
      (labels.map (Label.withdrawalsIn token)).sum := by
  induction run with
  | nil => exact .of_undisturbed (.of_eq rfl) rfl
  | snoc init last ih =>
    have hreach' : ReachableState (rebasingHost contract zeroAccount) _ :=
      hreach.run (init.mono fun _ _ _ h ↦ h.1)
    obtain ⟨world, prior, run⟩ := hreach'
    have hstep := last.drifts ⟨world, prior, run⟩ (conservation_of_run token run).1
    rw [List.map_append, List.map_append, List.sum_append, List.sum_append, List.map_singleton,
      List.map_singleton, List.sum_singleton, List.sum_singleton]
    exact ih.trans hstep

/-- Replaying calls disturbs nothing. -/
theorem undisturbed_run_replay
    (calls : List (Env (rebasingHost contract zeroAccount) × Call Address Symbol))
    (state : State Address Symbol (Address → RebasingToken Address)) :
    Run (UndisturbedStep contract zeroAccount token) state (replay state calls).1
      (replay state calls).2 := by
  induction calls generalizing state with
  | nil => exact .nil
  | cons pair calls ih =>
    refine .cons ⟨step_perform pair.1 pair.2 state, fun houtside ↦ ?_⟩ (ih _)
    unfold perform at houtside
    split at houtside <;> cases houtside

/-- At the factor 2 a tip of 3 units brings in one share, worth 2. The surplus falls by 1, and a withdrawal
does not change this. -/
theorem surplus_drifts_by_rounding_in_rebasingTipped :
    Drifts 0 7 (rebasingTippedAt (i128 2) (i128 1))
      (replay (rebasingTippedAt (i128 2) (i128 1))
        [(signedBy rebasingMarketHost 5 (u64 110), .tip 5 3 7 (i128 3) []),
          (signedBy rebasingMarketHost 3 (u64 111), .withdraw 3 7 (i128 1003))]).2 1 1 :=
  surplus_drifts_by_rounding (rebasingTippedAt_reachable _ _)
    (undisturbed_run_replay
      [(signedBy rebasingMarketHost 5 (u64 110), .tip 5 3 7 (i128 3) []),
        (signedBy rebasingMarketHost 3 (u64 111), .withdraw 3 7 (i128 1003))]
      (rebasingTippedAt (i128 2) (i128 1)))

end StellarTip
