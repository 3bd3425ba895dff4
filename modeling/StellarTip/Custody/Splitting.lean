import StellarTip.Custody.Withdrawal
import Mathlib.Data.List.ReduceOption

/-!
# Splitting a withdrawal, splitting a tip

Partial withdrawals rewrite one balance entry, and the last one rewrites or removes it, so a list of
withdrawals leaves what one withdrawal of the sum leaves. The fee of a tip is truncated, so a list of
tips is charged the fee of the sum, or less than one unit below it for each tip.
-/

namespace StellarTip

open Foundation TipContract

variable {Address Symbol World : Type} [LinearOrder Address] {host : Host Address World}

/-- `paid` units of `token` have left the recorded balance of `caller` and the contract. -/
structure PaidOut [DecidableEq Symbol] (host : Host Address World)
    (before after : State Address Symbol World) (caller token : Address) (paid : ℤ) : Prop where
  storage_eq : ∃ remaining : I128,
    remaining.val = (getBalance before.storage caller token).val - paid ∧
      after.storage = before.storage.afterWithdraw caller token remaining
  ledger_eq : ∀ holder, host.balance after.world token holder =
    host.balance before.world token holder + ((if holder = caller then paid else 0) -
      if holder = host.currentContractAddress then paid else 0)

/-- Withdrawals of one token by one caller, each with the environment that it is made in. -/
def withdrawals (caller token : Address) (parts : List (Env host × I128)) :
    List (Env host × Call Address Symbol) :=
  parts.map fun part ↦ (part.1, .withdraw caller token part.2)

/-- The sum of the amounts, over unbounded integers. -/
def partsTotal (parts : List (Env host × I128)) : ℤ := (parts.map fun part ↦ part.2.val).sum

omit [LinearOrder Address] in
theorem partsTotal_cons (part : Env host × I128) (parts : List (Env host × I128)) :
    partsTotal (part :: parts) = part.2.val + partsTotal parts :=
  List.sum_cons

omit [LinearOrder Address] in
theorem partsTotal_pos {parts : List (Env host × I128)} (hne : parts ≠ [])
    (hparts : ∀ part ∈ parts, 0 < part.2) : 0 < partsTotal parts := by
  refine List.sum_pos _ (fun value hvalue ↦ ?_) fun hnil ↦ hne (List.map_eq_nil_iff.mp hnil)
  obtain ⟨part, hpart, rfl⟩ := List.mem_map.mp hvalue
  exact BoundedInt.lt_def.mp (hparts part hpart)

omit [LinearOrder Address] in
theorem partsTotal_nonneg {parts : List (Env host × I128)} (hparts : ∀ part ∈ parts, 0 < part.2) :
    0 ≤ partsTotal parts := by
  rcases eq_or_ne parts [] with rfl | hne
  · exact le_rfl
  · exact (partsTotal_pos hne hparts).le

def Label.IsAccepted : Label host Symbol → Prop
  | .accepted .. => True
  | .rejected .. | .outside => False

variable [DecidableEq Symbol] {env : Env host} {caller token : Address} {amount : I128}
  {state before mid after after' : State Address Symbol World}

namespace PaidOut

theorem of_accepted (hconforming : ConformingToken host token) {remaining : I128} {settled : World}
    (accepted : WithdrawAccepted host before.storage before.world caller token amount remaining
      settled) :
    PaidOut host before ⟨before.storage.afterWithdraw caller token remaining, settled⟩ caller token
      amount.val where
  storage_eq := ⟨remaining, accepted.remaining_val, rfl⟩
  ledger_eq holder := by
    rw [hconforming.moves_exactly accepted.moved holder, Transfer.net, if_pos rfl]

theorem getBalance_val {paid : ℤ} (h : PaidOut host before after caller token paid)
    (hle : paid ≤ (getBalance before.storage caller token).val) :
    (getBalance after.storage caller token).val =
      (getBalance before.storage caller token).val - paid := by
  obtain ⟨remaining, hremaining, hafter⟩ := h.storage_eq
  have hnonneg : 0 ≤ remaining := by
    rw [BoundedInt.le_def, I128.val_zero]
    omega
  rw [hafter, Storage.getBalance_afterWithdraw _ _ _ hnonneg, hremaining]

/-- A payment that leaves something in the balance, and a second one. -/
theorem trans {paid paid' : ℤ} (first : PaidOut host before mid caller token paid)
    (second : PaidOut host mid after caller token paid')
    (hleft : paid < (getBalance before.storage caller token).val) :
    PaidOut host before after caller token (paid + paid') := by
  obtain ⟨left, hleft_val, hmid⟩ := first.storage_eq
  obtain ⟨remaining, hremaining, hafter⟩ := second.storage_eq
  have hpos : 0 < left := by
    rw [BoundedInt.lt_def, I128.val_zero]
    omega
  constructor
  · refine ⟨remaining, by rw [hremaining, first.getBalance_val hleft.le, sub_sub], ?_⟩
    calc
      _ = mid.storage.afterWithdraw caller token remaining := hafter
      _ = (before.storage.afterWithdraw caller token left).afterWithdraw caller token remaining := by
        rw [hmid]
      _ = _ := Storage.afterWithdraw_afterWithdraw _ _ _ hpos _
  · intro holder
    rw [second.ledger_eq, first.ledger_eq]
    split <;> split <;> ring

/-- What is left depends on what was paid alone. -/
theorem unique {paid : ℤ} (h : PaidOut host before after caller token paid)
    (h' : PaidOut host before after' caller token paid) :
    after.storage = after'.storage ∧
      ∀ holder, host.balance after.world token holder = host.balance after'.world token holder := by
  obtain ⟨remaining, hremaining, hafter⟩ := h.storage_eq
  obtain ⟨remaining', hremaining', hafter'⟩ := h'.storage_eq
  have heq : remaining = remaining' := BoundedInt.ext (hremaining.trans hremaining'.symm)
  constructor
  · rw [hafter, hafter', heq]
  · intro holder
    rw [h.ledger_eq, h'.ledger_eq]

end PaidOut

/-- A withdrawal within the recorded balance succeeds and pays its amount out. -/
theorem withdraw_pays (hhonouring : HonouringToken host token) (h : ReachableState host state)
    (hready : state.storage.Ready) (hregistered : isCreator state.storage caller = true)
    (hauth : env.authorized caller = true) (hpos : 0 < amount)
    (hle : amount ≤ getBalance state.storage caller token) :
    ∃ receipt after, invoke env (.withdraw caller token amount) state = .ok (receipt, after) ∧
      PaidOut host state after caller token amount.val := by
  obtain ⟨remaining, settled, haccepted⟩ :=
    withdrawAccepted_of_le hhonouring h hregistered hpos hle
  exact ⟨_, _, invoke_eq_ok_iff.mpr (.withdraw hauth hready haccepted),
    .of_accepted hhonouring.toConformingToken haccepted⟩

/-- A withdrawal leaves its caller a registered creator of a ready contract. -/
theorem Accepts.ready_of_withdraw {receipt : Receipt Address Symbol}
    (h : Accepts env state (.withdraw caller token amount) receipt after)
    (hready : state.storage.Ready) (hregistered : isCreator state.storage caller = true) :
    after.storage.Ready ∧ isCreator after.storage caller = true := by
  have hinstance := h.instanceTier_of_token (Option.some_ne_none _)
  rw [Storage.Ready, isPaused, isCreator, hinstance]
  exact ⟨hready, hregistered⟩

/-- Withdrawals within the recorded balance all succeed, and pay their sum out. -/
theorem withdrawals_pay (hhonouring : HonouringToken host token) (h : ReachableState host state)
    (hready : state.storage.Ready) (hregistered : isCreator state.storage caller = true)
    {parts : List (Env host × I128)} (hne : parts ≠ [])
    (hparts : ∀ part ∈ parts, part.1.authorized caller = true ∧ 0 < part.2)
    (hle : partsTotal parts ≤ (getBalance state.storage caller token).val) :
    (∀ label ∈ (replay state (withdrawals caller token parts)).1, label.IsAccepted) ∧
      PaidOut host state (replay state (withdrawals caller token parts)).2 caller token
        (partsTotal parts) := by
  induction parts generalizing state with
  | nil => exact absurd rfl hne
  | cons part parts ih =>
    obtain ⟨⟨hauth, hpos⟩, hrest⟩ := List.forall_mem_cons.mp hparts
    have hpositive : ∀ other ∈ parts, 0 < other.2 := fun other hother ↦ (hrest other hother).2
    have hnonneg : 0 ≤ partsTotal parts := partsTotal_nonneg hpositive
    rw [partsTotal_cons] at hle
    obtain ⟨receipt, mid, hok, hpaid⟩ := withdraw_pays hhonouring h hready hregistered hauth hpos
      (BoundedInt.le_def.mpr (by omega))
    have hreplay := replay_cons_of_ok hok (withdrawals caller token parts)
    rw [withdrawals, List.map_cons, ← withdrawals, hreplay, partsTotal_cons]
    rcases eq_or_ne parts [] with rfl | hnonempty
    · -- The last withdrawal ends the induction, since the list is never empty.
      have hnil : partsTotal ([] : List (Env host × I128)) = 0 := rfl
      rw [hnil, add_zero]
      refine ⟨fun label hlabel ↦ ?_, hpaid⟩
      obtain rfl := List.mem_singleton.mp hlabel
      trivial
    · have hlater : 0 < partsTotal parts := partsTotal_pos hnonempty hpositive
      have hleft : part.2.val < (getBalance state.storage caller token).val := by omega
      obtain ⟨hready', hregistered'⟩ :=
        (invoke_eq_ok_iff.mp hok).ready_of_withdraw hready hregistered
      have hleft_val := hpaid.getBalance_val hleft.le
      have hle' : partsTotal parts ≤ (getBalance mid.storage caller token).val := by omega
      obtain ⟨haccepted, hpaid'⟩ :=
        ih (h.step (.accepted hok)) hready' hregistered' hnonempty hrest hle'
      exact ⟨List.forall_mem_cons.mpr ⟨trivial, haccepted⟩, hpaid.trans hpaid' hleft⟩

/-- Splitting a withdrawal does not matter: the parts all succeed, and leave the storage and the
ledger of the token as the withdrawal of the sum leaves them. -/
theorem split_withdrawal (hhonouring : HonouringToken host token) (h : ReachableState host state)
    (hready : state.storage.Ready) (hregistered : isCreator state.storage caller = true)
    {parts : List (Env host × I128)} (hne : parts ≠ [])
    (hparts : ∀ part ∈ parts, part.1.authorized caller = true ∧ 0 < part.2)
    (hle : partsTotal parts ≤ (getBalance state.storage caller token).val) :
    (∀ label ∈ (replay state (withdrawals caller token parts)).1, label.IsAccepted) ∧
    ∃ total : I128, total.val = partsTotal parts ∧
      ∀ env : Env host, env.authorized caller = true → ∃ receipt after,
        invoke env (.withdraw caller token total) state = .ok (receipt, after) ∧
        (replay state (withdrawals caller token parts)).2.storage = after.storage ∧
        ∀ holder, host.balance (replay state (withdrawals caller token parts)).2.world token holder =
          host.balance after.world token holder := by
  obtain ⟨haccepted, hpaid⟩ := withdrawals_pay hhonouring h hready hregistered hne hparts hle
  have hpos : 0 < partsTotal parts := partsTotal_pos hne fun part hpart ↦ (hparts part hpart).2
  have hbalance := (getBalance state.storage caller token).le_hi
  obtain ⟨total, -, htotal⟩ : ∃ total : I128, BoundedInt.ofInt? _ = some total ∧
      total.val = partsTotal parts :=
    BoundedInt.exists_ofInt? (by omega) (by omega)
  refine ⟨haccepted, total, htotal, fun env hauth ↦ ?_⟩
  obtain ⟨receipt, after, hok, hwhole⟩ := withdraw_pays hhonouring h hready hregistered hauth
    (BoundedInt.lt_def.mpr (htotal.symm ▸ hpos)) (BoundedInt.le_def.mpr (htotal.symm ▸ hle))
  rw [htotal] at hwhole
  exact ⟨receipt, after, hok, hpaid.unique hwhole⟩

/-- Withdrawing 40 and then the other 55 prunes the token as withdrawing 95 at once does. -/
theorem split_withdrawal_in_tippedMarket :
    (replay tippedMarket (withdrawals 3 7
      [(signedBy marketHost 3 (u64 104), i128 40), (signedBy marketHost 3 (u64 105), i128 55)])).2.storage =
      (perform (signedBy marketHost 3 (u64 104)) (.withdraw 3 7 (i128 95)) tippedMarket).2.storage := by
  have htoken : HonouringToken marketHost 7 := honouringToken_ledgerHost 0 9 7
  have hregistered : isCreator tippedMarket.storage 3 = true := by decide
  have hparts : ∀ part ∈ [(signedBy marketHost 3 (u64 104), i128 40),
      (signedBy marketHost 3 (u64 105), i128 55)], part.1.authorized 3 = true ∧ 0 < part.2 :=
    List.forall_mem_cons.mpr ⟨⟨by decide, by decide⟩,
      List.forall_mem_singleton.mpr ⟨by decide, by decide⟩⟩
  obtain ⟨-, total, htotal, hwhole⟩ := split_withdrawal htoken tippedMarket_reachable
    ⟨by decide, by decide⟩ hregistered (List.cons_ne_nil _ _) hparts (by decide)
  obtain rfl : total = i128 95 := BoundedInt.ext htotal
  obtain ⟨receipt, after, hok, hstorage, -⟩ := hwhole (signedBy marketHost 3 (u64 104)) (by decide)
  rw [hstorage, perform_of_ok hok]

/-! ## Tips -/

/-- The amount of a tip, the fee charged for it, and the credit to its creator. -/
structure TipCharge where
  amount : ℤ
  fee : ℤ
  credit : ℤ

/-- An accepted tip under a fee rate. The fee is what the contract sends out, and the credit what the
balance recorded for the creator grows by. -/
inductive ChargedTip (host : Host Address World) (feeBps : U32)
    (before after : State Address Symbol World) : TipCharge → Prop
  | intro {env : Env host} {sender creator token : Address} {amount : I128} {message : HostString}
      {receipt : Receipt Address Symbol} (rate : getFeePercentage before.storage = feeBps)
      (step : Step host before (.accepted env (.tip sender creator token amount message) receipt)
        after) :
      ChargedTip host feeBps before after
        { amount := amount.val
          fee := outflow host.currentContractAddress token receipt.transfers
          credit := (getBalance after.storage creator token).val -
            (getBalance before.storage creator token).val }

/-- Steps of the contract that accept tips under one fee rate only, labelled with their charges. -/
inductive ChargingStep (host : Host Address World) (feeBps : U32) :
    State Address Symbol World → Option TipCharge → State Address Symbol World → Prop
  | tip {before after : State Address Symbol World} {charge : TipCharge}
      (charged : ChargedTip host feeBps before after charge) :
      ChargingStep host feeBps before (some charge) after
  | other {before after : State Address Symbol World} {label : Label host Symbol}
      (step : Step host before label after)
      (untipped : ∀ env sender creator token amount message receipt,
        label ≠ .accepted env (.tip sender creator token amount message) receipt) :
      ChargingStep host feeBps before none after

/-- The truncated fee, and the rest of the amount as the credit. -/
structure TipCharge.IsTruncated (feeBps : U32) (charge : TipCharge) : Prop where
  amount_pos : 0 < charge.amount
  rate_le : feeBps.val ≤ 10000
  fee_eq : charge.fee = proportionalShare 10000 charge.amount feeBps.val
  credit_eq : charge.credit = charge.amount - charge.fee

/-- What a list of tips is charged, compared with the fee of its sum. -/
structure FeeLeakage (feeBps : U32) (charges : List TipCharge) : Prop where
  fee_ge : (charges.map TipCharge.amount).sum * feeBps.val / 10000 - (charges.length - 1) ≤
    (charges.map TipCharge.fee).sum
  fee_le : (charges.map TipCharge.fee).sum ≤
    (charges.map TipCharge.amount).sum * feeBps.val / 10000
  credit_ge : (charges.map TipCharge.amount).sum -
      (charges.map TipCharge.amount).sum * feeBps.val / 10000 ≤ (charges.map TipCharge.credit).sum
  credit_le : (charges.map TipCharge.credit).sum ≤ (charges.map TipCharge.amount).sum -
      (charges.map TipCharge.amount).sum * feeBps.val / 10000 + (charges.length - 1)

section Charges

variable {feeBps : U32} {charge charge' : TipCharge} {start stop : State Address Symbol World}
  {labels : List (Option TipCharge)}

theorem ChargedTip.isTruncated (h : ReachableState host before)
    (charged : ChargedTip host feeBps before after charge) : charge.IsTruncated feeBps := by
  have hfeeBps := (ConfigurationInvariant.of_reachable h).feeBps_le
  cases charged with
  | @intro _ _ creator token amount _ _ rate step =>
    obtain ⟨authorized, fee, newBalance, nextIndex, forwarded, settled, accepted, rfl, rfl⟩ :=
      step.accepts.of_tip
    have hfee : outflow host.currentContractAddress token _ = fee.val :=
      (outflow_tip h authorized accepted).trans (if_pos rfl)
    rw [rate] at hfeeBps
    constructor
    · exact BoundedInt.lt_def.mp accepted.positive
    · exact BoundedInt.le_def.mp hfeeBps
    · rw [hfee, accepted.fee_val, rate]
      rfl
    · have hcredit := accepted.newBalance_val
      change (getBalance (before.storage.afterTip ..) creator token).val - _ =
        amount.val - outflow host.currentContractAddress token _
      rw [hfee, Storage.getBalance_afterTip]
      omega

/-- A list of truncated fees loses less than one unit for each tip. -/
theorem FeeLeakage.of_truncated {charges : List TipCharge} (hne : charges ≠ [])
    (hcharges : ∀ charge ∈ charges, charge.IsTruncated feeBps) : FeeLeakage feeBps charges := by
  have hamounts : ∀ amount ∈ charges.map TipCharge.amount, 0 ≤ amount := by
    intro amount hamount
    obtain ⟨charge, hcharge, rfl⟩ := List.mem_map.mp hamount
    exact (hcharges charge hcharge).amount_pos.le
  have hfees : (charges.map TipCharge.fee).sum = ((charges.map TipCharge.amount).map fun amount ↦
      proportionalShare 10000 amount feeBps.val).sum := by
    rw [List.map_map]
    congr 1
    apply List.map_congr_left
    intro charge hcharge
    exact (hcharges charge hcharge).fee_eq
  have hcredits : (charges.map TipCharge.amount).sum =
      (charges.map TipCharge.credit).sum + (charges.map TipCharge.fee).sum := by
    calc
      _ = (charges.map fun charge ↦ charge.credit + charge.fee).sum := by
        congr 1
        apply List.map_congr_left
        intro charge hcharge
        rw [(hcharges charge hcharge).credit_eq, sub_add_cancel]
      _ = _ := List.sum_map_add
  have hshare : proportionalShare 10000 (charges.map TipCharge.amount).sum feeBps.val =
      (charges.map TipCharge.amount).sum * feeBps.val / 10000 :=
    proportionalShare_eq_ediv (List.sum_nonneg hamounts) feeBps.lo_le
  obtain ⟨hle, hge⟩ := sum_proportionalShare (by norm_num : (0 : ℤ) < 10000) feeBps.lo_le _ hamounts
    fun hnil ↦ hne (List.map_eq_nil_iff.mp hnil)
  rw [← hfees, hshare, List.length_map] at hge
  rw [← hfees, hshare] at hle
  constructor <;> omega

theorem ChargingStep.reachable {label : Option TipCharge} (h : ReachableState host before)
    (step : ChargingStep host feeBps before label after) : ReachableState host after := by
  cases step with
  | tip charged =>
    cases charged with
    | intro rate step => exact h.step step
  | other step => exact h.step step

/-- Every tip of a run is charged the truncated fee. -/
theorem isTruncated_of_run (h : ReachableState host start)
    (run : Run (ChargingStep host feeBps) start labels stop) (hcharge : some charge ∈ labels) :
    charge.IsTruncated feeBps := by
  obtain ⟨prior, rest, rfl⟩ := List.append_of_mem hcharge
  obtain ⟨before, after, hprior, hstep, -⟩ := run.exists_step
  have hbefore : ReachableState host before :=
    hprior.invariant (fun _ _ _ hreach step ↦ step.reachable hreach) h
  cases hstep with
  | tip charged => exact charged.isTruncated hbefore

theorem TipCharge.IsTruncated.mono (h : charge.IsTruncated feeBps) (h' : charge'.IsTruncated feeBps)
    (hle : charge.amount ≤ charge'.amount) :
    charge.fee ≤ charge'.fee ∧ charge.credit ≤ charge'.credit := by
  rw [h.credit_eq, h'.credit_eq, h.fee_eq, h'.fee_eq]
  exact proportionalShare_mono (by decide) feeBps.lo_le h.rate_le h.amount_pos.le hle

/-- Under a constant fee rate, the fees of the accepted tips of a run are the fee of their sum, or
less than one unit below it for each tip, and the creators are credited the rest. The fee and the
credit of one tip both grow with the amount, so one tip of the sum is charged no less than its parts,
and less than one unit for each part more. -/
theorem fee_leakage_bounded (host : Host Address World) (feeBps : U32) :
    (∀ (start stop : State Address Symbol World) labels, ReachableState host start →
      Run (ChargingStep host feeBps) start labels stop → labels.reduceOption ≠ [] →
        FeeLeakage feeBps labels.reduceOption ∧
        ∀ (before after : State Address Symbol World) whole, ReachableState host before →
          ChargedTip host feeBps before after whole →
            whole.amount = (labels.reduceOption.map TipCharge.amount).sum →
              (labels.reduceOption.map TipCharge.fee).sum ≤ whole.fee ∧
                whole.fee < (labels.reduceOption.map TipCharge.fee).sum +
                  labels.reduceOption.length) ∧
    ∀ (before after before' after' : State Address Symbol World) charge charge',
      ReachableState host before → ReachableState host before' →
        ChargedTip host feeBps before after charge →
          ChargedTip host feeBps before' after' charge' → charge.amount ≤ charge'.amount →
            charge.fee ≤ charge'.fee ∧ charge.credit ≤ charge'.credit := by
  constructor
  · intro start stop labels h run hne
    have hleakage : FeeLeakage feeBps labels.reduceOption := .of_truncated hne fun charge hcharge ↦
      isTruncated_of_run h run (List.reduceOption_mem_iff.mp hcharge)
    refine ⟨hleakage, fun before after whole hbefore hwhole htotal ↦ ?_⟩
    have htruncated := hwhole.isTruncated hbefore
    have hfee := htruncated.fee_eq
    rw [proportionalShare_eq_ediv htruncated.amount_pos.le feeBps.lo_le, htotal] at hfee
    have hle := hleakage.fee_le
    have hge := hleakage.fee_ge
    constructor <;> omega
  · intro before after before' after' charge charge' h h' hcharged hcharged' hle
    exact (hcharged.isTruncated h).mono (hcharged'.isTruncated h') hle

end Charges

/-- A tip of 19 units at 5 percent, which is too small for a fee. -/
def dustCharge : TipCharge := { amount := 19, fee := 0, credit := 19 }

/-- A tip of twice as much. -/
def doubleCharge : TipCharge := { amount := 38, fee := 1, credit := 37 }

/-- The market after tips of 19 units in a row. -/
def dustMarket (count : ℕ) : State ℕ ℕ (TokenLedger ℕ) :=
  (replay tippedMarket (List.replicate count (marketTip 3 7 (i128 19) (u64 104)))).2

theorem chargedTip_dustMarket :
    ChargedTip marketHost (u32 500) tippedMarket (dustMarket 1) dustCharge ∧
      ChargedTip marketHost (u32 500) (dustMarket 1) (dustMarket 2) dustCharge := by
  have hfirst : Step marketHost tippedMarket _ (dustMarket 1) :=
    step_perform (signedBy marketHost 5 (u64 104)) (.tip 5 3 7 (i128 19) []) tippedMarket
  have hsecond : Step marketHost (dustMarket 1) _ (dustMarket 2) :=
    step_perform (signedBy marketHost 5 (u64 104)) (.tip 5 3 7 (i128 19) []) (dustMarket 1)
  exact ⟨.intro rfl hfirst, .intro rfl hsecond⟩

theorem chargedTip_doubleCharge :
    ChargedTip marketHost (u32 500) tippedMarket
      (perform (signedBy marketHost 5 (u64 104)) (.tip 5 3 7 (i128 38) []) tippedMarket).2
      doubleCharge := by
  have hstep := step_perform (signedBy marketHost 5 (u64 104)) (.tip 5 3 7 (i128 38) []) tippedMarket
  exact .intro rfl hstep

/-- Two tips of 19 units leak the one unit that the bound allows. -/
theorem fee_leakage_of_dust :
    FeeLeakage (u32 500) [dustCharge, dustCharge] ∧ doubleCharge.fee < 2 ∧
      dustCharge.credit ≤ doubleCharge.credit := by
  obtain ⟨hfirst, hsecond⟩ := chargedTip_dustMarket
  have hrun : Run (ChargingStep marketHost (u32 500)) tippedMarket [some dustCharge, some dustCharge]
      (dustMarket 2) := .cons (.tip hfirst) (.single (.tip hsecond))
  obtain ⟨hleakage, hwhole⟩ := (fee_leakage_bounded marketHost (u32 500)).1 _ _ _
    tippedMarket_reachable hrun (List.cons_ne_nil _ _)
  have hmono := (fee_leakage_bounded marketHost (u32 500)).2 _ _ _ _ _ _ tippedMarket_reachable
    tippedMarket_reachable hfirst chargedTip_doubleCharge (by decide)
  exact ⟨hleakage, (hwhole _ _ _ tippedMarket_reachable chargedTip_doubleCharge rfl).2, hmono.2⟩

end StellarTip
