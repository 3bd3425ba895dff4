import StellarTip.Account.Credit
import StellarTip.Contract.TokenLedger
import StellarTip.Foundation.Coupling

/-!
# Divergence stays with the offending token

A token may lie about its transfers, refuse them at will and change its own balances at any time. The
damage does not spread. Deleting every call that names it from a sequence of tips and withdrawals
changes no outcome of the remaining calls, and nothing that concerns another token. The two sequences
share the token lists, the tip counters and the history of each creator, so the storages are not equal
on the way: they agree on the balances and the listing of all other tokens, and the shorter sequence
has counted no more tips.
-/

namespace StellarTip

open Foundation TipContract

variable {Address Symbol World Ledger : Type} {ledger : World → Address → Ledger}
  {offender : Address}

/-- Two worlds in which every token but `offender` has the same ledger. -/
def LedgersAgree (ledger : World → Address → Ledger) (offender : Address) (world world' : World) :
    Prop :=
  ∀ token, token ≠ offender → ledger world' token = ledger world token

namespace LedgersAgree

variable {first second third : World}

theorem refl (world : World) : LedgersAgree ledger offender world world := fun _ _ ↦ rfl

theorem symm (h : LedgersAgree ledger offender first second) :
    LedgersAgree ledger offender second first := fun token hne ↦ (h token hne).symm

theorem trans (h : LedgersAgree ledger offender first second)
    (h' : LedgersAgree ledger offender second third) : LedgersAgree ledger offender first third :=
  fun token hne ↦ (h' token hne).trans (h token hne)

end LedgersAgree

variable [LinearOrder Address] {host : Host Address World}

/-- The offender moves no other token, and the other tokens do not look at the offender: what a
transfer of theirs does depends on their own ledgers. The offender itself is unconstrained. -/
structure TokenIsolation (host : Host Address World) (ledger : World → Address → Ledger)
    (offender : Address) : Prop where
  offender_confined : ∀ {world settled sender recipient amount},
    host.transfer world offender sender recipient amount = .ok settled →
      LedgersAgree ledger offender world settled
  others_succeed : ∀ {world world' settled token sender recipient amount}, token ≠ offender →
    LedgersAgree ledger offender world world' →
    host.transfer world token sender recipient amount = .ok settled →
      ∃ settled', host.transfer world' token sender recipient amount = .ok settled' ∧
        LedgersAgree ledger offender settled settled'
  others_fail : ∀ {world world' token sender recipient amount error}, token ≠ offender →
    LedgersAgree ledger offender world world' →
    host.transfer world token sender recipient amount = .error error →
      host.transfer world' token sender recipient amount = .error error

/-- Two accounts that agree on every token but `offender`; the second has counted no more tips. -/
structure Account.AgreeOff (offender : Address) (account account' : Account Address Symbol) :
    Prop where
  balances_eq : ∀ token, token ≠ offender → account'.balances token = account.balances token
  tracked_iff : ∀ token, token ≠ offender → (token ∈ account'.tracked ↔ token ∈ account.tracked)
  count_le : account'.count ≤ account.count

namespace Account.AgreeOff

variable {account account' next next' : Account Address Symbol} {env : Env host} {feeBps : U32}
  {owner token : Address} {call : Call Address Symbol} {receipt receipt' : Receipt Address Symbol}

theorem refl (account : Account Address Symbol) : AgreeOff offender account account :=
  ⟨fun _ _ ↦ rfl, fun _ _ ↦ Iff.rfl, le_rfl⟩

theorem balance_eq (h : AgreeOff offender account account') (hne : token ≠ offender) :
    account'.balance token = account.balance token := by
  rw [balance, h.balances_eq token hne, balance]

/-- A step on the offending token, on the first side alone. -/
theorem left_step (h : AgreeOff offender account account')
    (hstep : Account.Step env feeBps owner account call receipt next)
    (hcall : call.token = some offender) : AgreeOff offender next account' := by
  cases hstep with
  | @credited _ tipped _ _ _ _ _ _ _ _ _ _ nextIndex_val =>
    obtain rfl : tipped = offender := Option.some.inj hcall
    refine ⟨fun token hne ↦ ?_, fun token hne ↦ ?_, ?_⟩
    · rw [h.balances_eq token hne]
      exact (if_neg hne).symm
    · rw [h.tracked_iff token hne, tracked_credited, SortedSet.mem_insert]
      exact ⟨.inr, fun hmem ↦ hmem.resolve_left hne⟩
    · have hle := BoundedInt.le_def.mp h.count_le
      rw [count_credited, BoundedInt.le_def]
      omega
  | @debited withdrawn =>
    obtain rfl : withdrawn = offender := Option.some.inj hcall
    refine ⟨fun token hne ↦ ?_, fun token hne ↦ ?_, ?_⟩
    · rw [balances_debited, if_neg hne, h.balances_eq token hne]
    · rw [h.tracked_iff token hne, tracked_debited]
      split
      · exact Iff.rfl
      · rw [SortedSet.mem_remove]
        exact ⟨fun hmem ↦ ⟨hne, hmem⟩, And.right⟩
    · rw [count_debited]
      exact h.count_le
  | other => exact h
  | _ => cases hcall

/-- A call on another token, on both sides. -/
theorem step (h : AgreeOff offender account account')
    (hstep : Account.Step env feeBps owner account call receipt next)
    (hstep' : Account.Step env feeBps owner account' call receipt' next')
    (hcall : ∃ token, call.token = some token ∧ token ≠ offender) :
    AgreeOff offender next next' := by
  obtain ⟨named, hnamed, hne⟩ := hcall
  cases hstep with
  | @credited _ token amount fee newBalance _ _ _ _ _ fee_val newBalance_val nextIndex_val =>
    obtain rfl : token = named := Option.some.inj hnamed
    cases hstep' with
    | @credited _ _ _ fee' newBalance' _ _ _ _ _ fee_val' newBalance_val' nextIndex_val' =>
      have hbalance : newBalance' = newBalance := by
        apply BoundedInt.ext
        rw [newBalance_val, newBalance_val', h.balance_eq hne, fee_val, fee_val']
      refine ⟨fun other hother ↦ ?_, fun other hother ↦ ?_, ?_⟩
      · rw [hbalance]
        simp only [Account.credited, h.balances_eq other hother]
      · simp only [tracked_credited, SortedSet.mem_insert, h.tracked_iff other hother]
      · have hle := BoundedInt.le_def.mp h.count_le
        rw [count_credited, count_credited, BoundedInt.le_def]
        omega
    | other hother => exact absurd rfl hother
  | @debited token amount remaining _ _ _ _ remaining_val =>
    obtain rfl : token = named := Option.some.inj hnamed
    cases hstep' with
    | @debited _ _ remaining' _ _ _ _ remaining_val' =>
      have hremaining : remaining' = remaining := by
        apply BoundedInt.ext
        rw [remaining_val, remaining_val', h.balance_eq hne]
      subst hremaining
      refine ⟨fun other hother ↦ ?_, fun other hother ↦ ?_, ?_⟩
      · rw [balances_debited, balances_debited, h.balances_eq other hother]
      · rw [tracked_debited, tracked_debited]
        split
        · exact h.tracked_iff other hother
        · rw [SortedSet.mem_remove, SortedSet.mem_remove, h.tracked_iff other hother]
      · rw [count_debited, count_debited]
        exact h.count_le
    | other hother => exact absurd rfl hother
  | other hother =>
    rw [hstep'.eq_of_account_ne hother]
    exact h
  | _ => cases hnamed

end Account.AgreeOff

/-- The outcomes of two runs that leave the ledgers of the other tokens in agreement. -/
def LedgersCoupled {α : Type} (ledger : World → Address → Ledger) (offender : Address) :
    α → Frame Address Symbol World → α → Frame Address Symbol World → Prop :=
  fun _ final _ final' ↦ LedgersAgree ledger offender final.world final'.world

/-- The outcomes of two runs that have only touched the token worlds. -/
def TransfersCoupled (ledger : World → Address → Ledger) (offender : Address)
    (frame frame' : Frame Address Symbol World) :
    Unit → Frame Address Symbol World → Unit → Frame Address Symbol World → Prop :=
  fun _ final _ final' ↦ final.storage = frame.storage ∧ final'.storage = frame'.storage ∧
    LedgersAgree ledger offender final.world final'.world

section Coupled

variable {frame frame' : Frame Address Symbol World} {env : Env host} {token : Address}

theorem coupled_tokenTransfer (hisolated : TokenIsolation host ledger offender)
    {transfer : Transfer Address} (hne : transfer.token ≠ offender)
    (hledgers : LedgersAgree ledger offender frame.world frame'.world) :
    Coupled (TransfersCoupled ledger offender frame frame')
      ((tokenTransfer host transfer).run frame) ((tokenTransfer host transfer).run frame') := by
  cases hmoved : host.transfer frame.world transfer.token transfer.sender transfer.recipient
      transfer.amount with
  | error error =>
    have hmoved' := hisolated.others_fail hne hledgers hmoved
    exact .of_error (run_tokenTransfer_eq_error.mpr ⟨error, hmoved, rfl⟩)
      (run_tokenTransfer_eq_error.mpr ⟨error, hmoved', rfl⟩)
  | ok settled =>
    obtain ⟨settled', hmoved', hsettled⟩ := hisolated.others_succeed hne hledgers hmoved
    exact .of_ok () () (run_tokenTransfer_eq_ok.mpr ⟨settled, hmoved, rfl⟩)
      (run_tokenTransfer_eq_ok.mpr ⟨settled', hmoved', rfl⟩) ⟨rfl, rfl, hsettled⟩

theorem coupled_forwardFee (hisolated : TokenIsolation host ledger offender)
    (hne : token ≠ offender) {optFeeRecipient : Option Address} {fee : I128}
    (hledgers : LedgersAgree ledger offender frame.world frame'.world) :
    Coupled (TransfersCoupled ledger offender frame frame')
      ((forwardFee host token optFeeRecipient fee).run frame)
      ((forwardFee host token optFeeRecipient fee).run frame') := by
  unfold forwardFee
  split
  · exact .demand fun recipient _ ↦ coupled_tokenTransfer hisolated hne hledgers
  · exact .pure ⟨rfl, rfl, hledgers⟩

theorem coupled_checkInitializedAndNotPaused
    (hinstance : frame'.storage.instanceTier = frame.storage.instanceTier) :
    Coupled (fun _ final _ final' ↦ frame = final ∧ frame' = final')
      (checkInitializedAndNotPaused.run frame) (checkInitializedAndNotPaused.run frame') := by
  refine .query (.rejectIf (by rw [hinstance]) fun _ ↦ .query (.rejectIf (by rw [hinstance]) ?_))
  exact fun _ ↦ .pure ⟨rfl, rfl⟩

variable [DecidableEq Symbol] {creator : Address}

theorem coupled_creditBalance {creatorAmount : I128}
    (hbalance : getBalance frame'.storage creator token = getBalance frame.storage creator token)
    (hledgers : LedgersAgree ledger offender frame.world frame'.world) :
    Coupled (LedgersCoupled ledger offender)
      ((creditBalance creator token creatorAmount).run frame)
      ((creditBalance creator token creatorAmount).run frame') := by
  by_cases hfits : ∃ newBalance : I128,
      newBalance.val = (getBalance frame.storage creator token).val + creatorAmount.val
  · obtain ⟨newBalance, hval⟩ := hfits
    exact .of_ok () () (run_creditBalance_eq_ok.mpr ⟨newBalance, hval, rfl⟩)
      (run_creditBalance_eq_ok.mpr ⟨newBalance, by rw [hval, hbalance], rfl⟩) hledgers
  · exact .of_error (run_creditBalance_eq_error.mpr ⟨hfits, rfl⟩)
      (run_creditBalance_eq_error.mpr ⟨by rwa [hbalance], rfl⟩)

theorem coupled_trackToken (hledgers : LedgersAgree ledger offender frame.world frame'.world) :
    Coupled (LedgersCoupled ledger offender) ((trackToken creator token).run frame)
      ((trackToken creator token).run frame') :=
  .of_ok () () (run_trackToken_eq_ok.mpr rfl) (run_trackToken_eq_ok.mpr rfl) hledgers

/-- The two indices differ, and both can be advanced. -/
theorem coupled_recordTip {index index' : U64} {tip : Tip Address}
    (hfits : ∃ nextIndex : U64, nextIndex.val = index.val + 1)
    (hfits' : ∃ nextIndex : U64, nextIndex.val = index'.val + 1)
    (hledgers : LedgersAgree ledger offender frame.world frame'.world) :
    Coupled (LedgersCoupled ledger offender) ((recordTip creator index tip).run frame)
      ((recordTip creator index' tip).run frame') := by
  obtain ⟨nextIndex, hval⟩ := hfits
  obtain ⟨nextIndex', hval'⟩ := hfits'
  exact .of_ok () () (run_recordTip_eq_ok.mpr ⟨nextIndex, hval, rfl⟩)
    (run_recordTip_eq_ok.mpr ⟨nextIndex', hval', rfl⟩) hledgers

/-- Whether the token list ends up empty may differ; that it is there to be extended does not. -/
theorem coupled_settleBalance {remaining : I128}
    (hstored : 0 < remaining → frame.storage.persistentTier.has (.creatorTokens creator) = true)
    (hstored' : 0 < remaining → frame'.storage.persistentTier.has (.creatorTokens creator) = true)
    (hledgers : LedgersAgree ledger offender frame.world frame'.world) :
    Coupled (LedgersCoupled ledger offender) ((settleBalance creator token remaining).run frame)
      ((settleBalance creator token remaining).run frame') :=
  .of_ok () () (run_settleBalance_eq_ok.mpr ⟨hstored, rfl⟩)
    (run_settleBalance_eq_ok.mpr ⟨hstored', rfl⟩) hledgers

/-- Without a cap on tips, a tip in another token runs alike in both worlds. -/
theorem coupled_tip (hisolated : TokenIsolation host ledger offender) (hne : token ≠ offender)
    {sender : Address} {amount : I128} {message : HostString}
    (hinstance : frame'.storage.instanceTier = frame.storage.instanceTier)
    (huncapped : getMaxTipsPerCreator frame.storage = 0)
    (hbalance : getBalance frame'.storage creator token = getBalance frame.storage creator token)
    (hfits : ∃ nextIndex : U64, nextIndex.val = (getTipCount frame.storage creator).val + 1)
    (hfits' : ∃ nextIndex : U64, nextIndex.val = (getTipCount frame'.storage creator).val + 1)
    (hledgers : LedgersAgree ledger offender frame.world frame'.world) :
    Coupled (LedgersCoupled ledger offender) ((tip env sender creator token amount message).run frame)
      ((tip env sender creator token amount message).run frame') := by
  have huncapped' : getMaxTipsPerCreator frame'.storage = 0 := by
    rw [← huncapped, getMaxTipsPerCreator, hinstance, getMaxTipsPerCreator]
  have hcap (maxTips : U32) (index : U64) (hzero : maxTips = 0) :
      ¬(0 < maxTips ∧ U32.asU64 maxTips ≤ index) := by
    rintro ⟨hpos, -⟩
    exact absurd hpos (by rw [hzero]; exact lt_irrefl 0)
  refine .rejectIf Iff.rfl fun _ ↦ .bind (coupled_checkInitializedAndNotPaused hinstance) ?_
  rintro _ _ _ _ ⟨rfl, rfl⟩
  refine .rejectIf Iff.rfl fun _ ↦ .query (.rejectIf (by rw [hinstance]) fun _ ↦ .query ?_)
  refine .rejectIf (by rw [hinstance]) fun _ ↦ .query (.query (.rejectIf ?_ fun _ ↦ .query ?_))
  · exact iff_of_false (hcap _ _ huncapped) (hcap _ _ huncapped')
  rw [hinstance]
  refine .demand fun product _ ↦ .demand fun fee _ ↦ .demand fun creatorAmount _ ↦ .query ?_
  rw [hinstance]
  refine .rejectIf Iff.rfl fun _ ↦ .bind (coupled_tokenTransfer hisolated hne hledgers) ?_
  rintro _ deposited _ deposited' ⟨hstorage, hstorage', hdeposited⟩
  refine .bind (coupled_forwardFee hisolated hne hdeposited) ?_
  rintro _ settled _ settled' ⟨hsettled, hsettled', hagree⟩
  refine .bind (coupled_creditBalance ?_ hagree) fun _ _ _ _ hcredited ↦
    .bind (coupled_trackToken hcredited) fun _ _ _ _ htracked ↦
      .bind (coupled_recordTip hfits hfits' htracked) fun _ _ _ _ hrecorded ↦ .update (.pure hrecorded)
  rw [hsettled', hstorage', hsettled, hstorage, hbalance]

/-- A withdrawal of another token runs alike in both worlds. -/
theorem coupled_withdraw (hisolated : TokenIsolation host ledger offender) (hne : token ≠ offender)
    {amount : I128} (hinstance : frame'.storage.instanceTier = frame.storage.instanceTier)
    (hbalance : getBalance frame'.storage creator token = getBalance frame.storage creator token)
    (hstored : 0 < getBalance frame.storage creator token →
      frame.storage.persistentTier.has (.creatorTokens creator) = true)
    (hstored' : 0 < getBalance frame'.storage creator token →
      frame'.storage.persistentTier.has (.creatorTokens creator) = true)
    (hledgers : LedgersAgree ledger offender frame.world frame'.world) :
    Coupled (LedgersCoupled ledger offender) ((withdraw env creator token amount).run frame)
      ((withdraw env creator token amount).run frame') := by
  refine .rejectIf Iff.rfl fun _ ↦ .bind (coupled_checkInitializedAndNotPaused hinstance) ?_
  rintro _ _ _ _ ⟨rfl, rfl⟩
  refine .query (.rejectIf (by rw [hinstance]) fun _ ↦ .rejectIf Iff.rfl fun hpositive ↦ .query ?_)
  change Coupled _ ((_ >>= _ : Contract Address Symbol World Unit).run _)
    ((_ >>= _ : Contract Address Symbol World Unit).run _)
  refine .rejectIf ?_ fun hsufficient ↦ ?_
  · exact iff_of_eq (congrArg (· < amount) hbalance.symm)
  refine .bind (coupled_tokenTransfer hisolated hne hledgers) ?_
  rintro _ settled _ settled' ⟨hsettled, hsettled', hagree⟩
  change Coupled _ ((arithmetic ((getBalance frame.storage creator token).checkedSub amount) >>= _ :
    Contract Address Symbol World Unit).run settled)
    ((arithmetic ((getBalance frame'.storage creator token).checkedSub amount) >>= _ :
      Contract Address Symbol World Unit).run settled')
  rw [hbalance]
  refine .demand fun remaining hremaining ↦ ?_
  have hpos : 0 < getBalance frame.storage creator token :=
    (not_le.mp hpositive).trans_le (not_lt.mp hsufficient)
  refine .bind (coupled_settleBalance ?_ ?_ hagree) fun _ _ _ _ hsettledBalance ↦
    .update (.pure hsettledBalance)
  · intro _
    rw [hsettled]
    exact hstored hpos
  · intro _
    rw [hsettled']
    exact hstored' (by rwa [hbalance])

end Coupled

/-! ## Traffic with and without the offender -/

/-- The call of a step with its outcome: nothing for a success, or the failure. -/
def Label.observed : Label host Symbol → Option ((Env host × Call Address Symbol) × Option Failure)
  | .accepted env call _ => some ((env, call), none)
  | .rejected env call failure => some ((env, call), some failure)
  | .outside => none

/-- The same, with every call that names the offender deleted. -/
def Label.observedOff (offender : Address) (label : Label host Symbol) :
    Option ((Env host × Call Address Symbol) × Option Failure) :=
  label.observed.filter fun observation ↦ observation.1.2.token ≠ some offender

variable [DecidableEq Symbol]

/-- A tip or a withdrawal, accepted or not, or a change of the offender's own ledger. -/
structure TrafficStep (host : Host Address World) (ledger : World → Address → Ledger)
    (offender : Address) (before : State Address Symbol World) (label : Label host Symbol)
    (after : State Address Symbol World) : Prop where
  step : Step host before label after
  traffic : ∀ observation, label.observed = some observation → observation.1.2.token ≠ none
  confined : label = .outside → LedgersAgree ledger offender before.world after.world

/-- No tip counter has reached the largest index. -/
def TipCountsFit (state : State Address Symbol World) (_ : Label host Symbol) : Prop :=
  ∀ creator, (getTipCount state.storage creator).val < 18446744073709551615

/-- The states of the two sequences: the same configuration and profiles, and agreement on every token
but the offender. -/
structure Confined (host : Host Address World) (ledger : World → Address → Ledger)
    (offender : Address) (state state' : State Address Symbol World) : Prop where
  reachable : ReachableState host state
  reachable' : ReachableState host state'
  uncapped : getMaxTipsPerCreator state.storage = 0
  instanceTier_eq : state'.storage.instanceTier = state.storage.instanceTier
  accounts : ∀ owner, (state.storage.account owner).AgreeOff offender (state'.storage.account owner)
  ledgers : LedgersAgree ledger offender state.world state'.world

section Steps

variable {env : Env host} {call : Call Address Symbol} {receipt receipt' : Receipt Address Symbol}
  {before before' after after' other : State Address Symbol World} {label : Label host Symbol}

/-- A call on the offender leaves the ledgers of the other tokens alone. -/
theorem Accepts.ledgersAgree_of_offender (hisolated : TokenIsolation host ledger offender)
    (h : Accepts env before call receipt after) (hcall : call.token = some offender) :
    LedgersAgree ledger offender before.world after.world := by
  cases h with
  | @tip _ _ token _ _ _ _ _ _ _ _ _ accepted =>
    obtain rfl : token = offender := Option.some.inj hcall
    obtain ⟨deposited, hdeposit, hforward⟩ := accepted.moved
    have hdeposited := hisolated.offender_confined hdeposit
    cases hforward with
    | free => exact hdeposited
    | paid _ _ moved => exact hdeposited.trans (hisolated.offender_confined moved)
  | @withdraw _ token _ _ _ _ _ accepted =>
    obtain rfl : token = offender := Option.some.inj hcall
    exact hisolated.offender_confined accepted.moved
  | _ => exact .refl _

/-- A tip or withdrawal on another token has the same outcome on both sides. -/
theorem Confined.coupled (env : Env host) (hisolated : TokenIsolation host ledger offender)
    (h : Confined host ledger offender before before') (hfits : TipCountsFit before label)
    {token : Address} (hcall : call.token = some token) (hne : token ≠ offender) :
    Coupled (LedgersCoupled ledger offender)
      ((call.body env).run ⟨before.storage, before.world, [], []⟩)
      ((call.body env).run ⟨before'.storage, before'.world, [], []⟩) := by
  have hbalance (creator : Address) :
      getBalance before'.storage creator token = getBalance before.storage creator token :=
    (h.accounts creator).balance_eq hne
  cases call with
  | tip sender creator tipped amount message =>
    obtain rfl : tipped = token := Option.some.inj hcall
    have hcount := BoundedInt.le_def.mp (h.accounts creator).count_le
    have hfit := hfits creator
    have hnonneg := (getTipCount before.storage creator).lo_le
    have hnonneg' := (getTipCount before'.storage creator).lo_le
    rw [Storage.account_count, Storage.account_count] at hcount
    refine .bind (coupled_tip hisolated hne h.instanceTier_eq h.uncapped (hbalance creator) ?_ ?_
      h.ledgers) fun _ _ _ _ hagree ↦ .pure hagree
    · exact ⟨⟨(getTipCount before.storage creator).val + 1, by omega, by omega⟩, rfl⟩
    · exact ⟨⟨(getTipCount before'.storage creator).val + 1, by omega, by omega⟩, rfl⟩
  | withdraw caller withdrawn amount =>
    obtain rfl : withdrawn = token := Option.some.inj hcall
    exact .bind (coupled_withdraw hisolated hne h.instanceTier_eq (hbalance caller)
      (has_tokens_of_pos h.reachable) (has_tokens_of_pos h.reachable') h.ledgers)
      fun _ _ _ _ hagree ↦ .pure hagree
  | _ => cases hcall

/-- Coupled bodies make coupled invocations. -/
theorem invoke_coupled
    (h : Coupled (LedgersCoupled ledger offender)
      ((call.body env).run ⟨before.storage, before.world, [], []⟩)
      ((call.body env).run ⟨before'.storage, before'.world, [], []⟩)) :
    Coupled (fun _ final _ final' ↦ LedgersAgree ledger offender final.world final'.world)
      (invoke env call before) (invoke env call before') := by
  unfold invoke
  generalize (call.body env).run ⟨before.storage, before.world, [], []⟩ = outcome at h
  generalize (call.body env).run ⟨before'.storage, before'.world, [], []⟩ = outcome' at h
  cases h with
  | ok related => exact .ok related
  | error => exact .error _

/-- A step that observes nothing of the other tokens keeps the agreement. -/
theorem Confined.left_silent (hisolated : TokenIsolation host ledger offender)
    (h : Confined host ledger offender before other)
    (hstep : TrafficStep host ledger offender before label after)
    (hsilent : label.observedOff offender = none) : Confined host ledger offender after other := by
  have hreach := h.reachable.step hstep.step
  obtain ⟨step, traffic, confined⟩ := hstep
  cases step with
  | @accepted env call receipt _ _ ok =>
    have haccepts := invoke_eq_ok_iff.mp ok
    have hcall : call.token = some offender := by
      simpa [Label.observedOff, Label.observed, Option.filter] using hsilent
    have hinstance := haccepts.instanceTier_of_token (traffic _ rfl)
    exact
      { reachable := hreach
        reachable' := h.reachable'
        uncapped := by
          rw [← h.uncapped, getMaxTipsPerCreator, hinstance, getMaxTipsPerCreator]
        instanceTier_eq := h.instanceTier_eq.trans hinstance.symm
        accounts := fun owner ↦ (h.accounts owner).left_step (haccepts.accountStep owner) hcall
        ledgers := (haccepts.ledgersAgree_of_offender hisolated hcall).symm.trans h.ledgers }
  | rejected => exact h
  | outside =>
    exact ⟨hreach, h.reachable', h.uncapped, h.instanceTier_eq, h.accounts,
      (confined rfl).symm.trans h.ledgers⟩

theorem Confined.right_silent (h : Confined host ledger offender other before)
    (hstep : TrafficStep host ledger offender before label after) (hsilent : label.observed = none) :
    Confined host ledger offender other after := by
  have hreach := h.reachable'.step hstep.step
  obtain ⟨step, -, confined⟩ := hstep
  cases step with
  | accepted => cases hsilent
  | rejected => cases hsilent
  | outside =>
    exact ⟨h.reachable, hreach, h.uncapped, h.instanceTier_eq, h.accounts,
      h.ledgers.trans (confined rfl)⟩

/-- A call on another token that both sides accept keeps the agreement. -/
theorem Confined.accepted (h : Confined host ledger offender before before') {token : Address}
    (hok : invoke env call before = .ok (receipt, after))
    (hok' : invoke env call before' = .ok (receipt', after')) (hcall : call.token = some token)
    (hne : token ≠ offender) (hledgers : LedgersAgree ledger offender after.world after'.world) :
    Confined host ledger offender after after' := by
  have haccepts := invoke_eq_ok_iff.mp hok
  have haccepts' := invoke_eq_ok_iff.mp hok'
  have hcalled : call.token ≠ none := by
    rw [hcall]
    exact Option.some_ne_none _
  have hinstance := haccepts.instanceTier_of_token hcalled
  have hinstance' := haccepts'.instanceTier_of_token hcalled
  have hfeeBps : getFeePercentage before'.storage = getFeePercentage before.storage := by
    rw [getFeePercentage, h.instanceTier_eq, getFeePercentage]
  constructor
  · exact h.reachable.step (.accepted hok)
  · exact h.reachable'.step (.accepted hok')
  · rw [← h.uncapped, getMaxTipsPerCreator, hinstance, getMaxTipsPerCreator]
  · rw [hinstance, hinstance', h.instanceTier_eq]
  · intro owner
    have hstepOwner := haccepts'.accountStep owner
    rw [hfeeBps] at hstepOwner
    exact (h.accounts owner).step (haccepts.accountStep owner) hstepOwner ⟨token, hcall, hne⟩
  · exact hledgers

/-- A call on another token, made on both sides, has the same outcome and keeps the agreement. -/
theorem Confined.both (hisolated : TokenIsolation host ledger offender)
    (h : Confined host ledger offender before before')
    (hstep : restrict (TrafficStep host ledger offender) TipCountsFit before label after)
    {label' : Label host Symbol} (hstep' : TrafficStep host ledger offender before' label' after')
    {input : Env host × Call Address Symbol} {output output' : Option Failure}
    (hobserved : label.observedOff offender = some (input, output))
    (hobserved' : label'.observed = some (input, output')) :
    output = output' ∧ Confined host ledger offender after after' := by
  obtain ⟨env, call⟩ := input
  obtain ⟨⟨step, traffic, -⟩, hfits⟩ := hstep
  obtain ⟨hobservation, hkept⟩ := Option.filter_eq_some_iff.mp hobserved
  obtain ⟨token, hcall⟩ := Option.ne_none_iff_exists'.mp (traffic _ hobservation)
  have hne : token ≠ offender := by
    rintro rfl
    simp [hcall] at hkept
  have hinvoke := invoke_coupled (h.coupled env hisolated hfits hcall hne)
  cases step with
  | outside => cases hobservation
  | rejected error =>
    cases hobservation
    cases hstep'.step with
    | outside => cases hobserved'
    | rejected error' =>
      cases hobserved'
      have heq := error'.symm.trans (hinvoke.eq_error_iff.mp error)
      exact ⟨congrArg some (Except.error.inj heq).symm, h⟩
    | accepted ok' =>
      cases hobserved'
      cases ok'.symm.trans (hinvoke.eq_error_iff.mp error)
  | accepted ok =>
    cases hobservation
    cases hstep'.step with
    | outside => cases hobserved'
    | rejected error' =>
      cases hobserved'
      cases ok.symm.trans (hinvoke.eq_error_iff.mpr error')
    | accepted ok' =>
      cases hobserved'
      rw [ok, ok'] at hinvoke
      cases hinvoke with
      | ok hledgers => exact ⟨rfl, h.accepted ok ok' hcall hne hledgers⟩

theorem lockstep_of_isolation (hisolated : TokenIsolation host ledger offender) :
    Lockstep (restrict (TrafficStep host ledger offender)
        (TipCountsFit : State Address Symbol World → Label host Symbol → Prop))
      (TrafficStep host ledger offender) (Label.observedOff offender) Label.observed
      (Confined host ledger offender) where
  left_silent h hstep hsilent := h.left_silent hisolated hstep.1 hsilent
  right_silent h hstep hsilent := h.right_silent hstep hsilent
  both h hstep hstep' hobserved hobserved' := h.both hisolated hstep hstep' hobserved hobserved'

end Steps

variable {start stop : State Address Symbol World} {labels : List (Label host Symbol)}

/-- Tips and withdrawals can be made in any order: each call has an outcome. -/
theorem traffic_of_replay (calls : List (Env host × Call Address Symbol))
    (htraffic : ∀ input ∈ calls, input.2.token ≠ none) (start : State Address Symbol World) :
    Run (TrafficStep host ledger offender) start (replay start calls).1 (replay start calls).2 ∧
      ((replay start calls).1.filterMap Label.observed).map Prod.fst = calls := by
  induction calls generalizing start with
  | nil => exact ⟨.nil, rfl⟩
  | cons input calls ih =>
    obtain ⟨hinput, hcalls⟩ := List.forall_mem_cons.mp htraffic
    obtain ⟨hrun, hobserved⟩ := ih hcalls (perform input.1 input.2 start).2
    have hlabel : ∃ failure, (perform input.1 input.2 start).1.observed = some (input, failure) := by
      unfold perform
      split <;> exact ⟨_, rfl⟩
    obtain ⟨failure, hlabel⟩ := hlabel
    refine ⟨.cons ⟨step_perform input.1 input.2 start, ?_, ?_⟩ hrun, ?_⟩
    · intro observation hobservation
      obtain rfl := Option.some.inj (hlabel.symm.trans hobservation)
      exact hinput
    · intro houtside
      rw [houtside] at hlabel
      cases hlabel
    · rw [replay, List.filterMap_cons_some hlabel, List.map_cons, hobserved]

/-- Every observed call of the traffic names a token. -/
theorem token_of_observed
    (hrun : Run (restrict (TrafficStep host ledger offender) TipCountsFit) start labels stop) :
    ∀ input ∈ (labels.filterMap (Label.observedOff offender)).map Prod.fst, input.2.token ≠ none := by
  intro input hmem
  obtain ⟨observation, hobservation, rfl⟩ := List.mem_map.mp hmem
  obtain ⟨label, hlabel, hobserved⟩ := List.mem_filterMap.mp hobservation
  obtain ⟨prior, later, rfl⟩ := List.append_of_mem hlabel
  obtain ⟨before, after, -, hstep, -⟩ := hrun.exists_step
  exact hstep.1.traffic observation (Option.filter_eq_some_iff.mp hobserved).1

/-- Deleting every call on an offending token from a sequence of tips and withdrawals changes no outcome
of the other calls, and no balance, listing or ledger of another token. The offender may change its own
ledger at any time, differently in the two sequences. -/
theorem divergence_confined (hisolated : TokenIsolation host ledger offender)
    (h : ReachableState host start) (huncapped : getMaxTipsPerCreator start.storage = 0)
    (hrun : Run (restrict (TrafficStep host ledger offender) TipCountsFit) start labels stop) :
    (∃ labels' stop', Run (TrafficStep host ledger offender) start labels' stop' ∧
      (labels'.filterMap Label.observed).map Prod.fst =
        (labels.filterMap (Label.observedOff offender)).map Prod.fst) ∧
    ∀ labels' stop', Run (TrafficStep host ledger offender) start labels' stop' →
      (labels'.filterMap Label.observed).map Prod.fst =
        (labels.filterMap (Label.observedOff offender)).map Prod.fst →
      labels'.filterMap Label.observed = labels.filterMap (Label.observedOff offender) ∧
        ∀ token, token ≠ offender →
          (∀ creator,
            getBalance stop'.storage creator token = getBalance stop.storage creator token ∧
            (token ∈ trackedTokens stop'.storage creator ↔
              token ∈ trackedTokens stop.storage creator)) ∧
          ledger stop'.world token = ledger stop.world token := by
  refine ⟨⟨_, _, traffic_of_replay _ (token_of_observed hrun) start⟩,
    fun labels' stop' hrun' hinputs ↦ ?_⟩
  have hstart : Confined host ledger offender start start :=
    ⟨h, h, huncapped, rfl, fun owner ↦ .refl _, .refl _⟩
  obtain ⟨hobserved, hstop⟩ :=
    (lockstep_of_isolation hisolated).run hstart hrun hrun' hinputs.symm
  refine ⟨hobserved.symm, fun token hne ↦ ⟨fun creator ↦ ⟨?_, ?_⟩, hstop.ledgers token hne⟩⟩
  · exact (hstop.accounts creator).balance_eq hne
  · exact (hstop.accounts creator).tracked_iff token hne

omit [DecidableEq Symbol] in
/-- A step counts one more tip at most. -/
theorem Account.Step.count_le_succ {account account' : Account Address Symbol} {env : Env host}
    {feeBps : U32} {owner : Address} {call : Call Address Symbol} {receipt : Receipt Address Symbol}
    (h : Account.Step env feeBps owner account call receipt account') :
    account'.count.val ≤ account.count.val + 1 := by
  have hnonneg := account.count.lo_le
  cases h with
  | opened =>
    rw [count_opened, U64.val_zero]
    omega
  | closed =>
    rw [count_closed, U64.val_zero]
    omega
  | credited _ _ _ _ nextIndex_val =>
    rw [count_credited]
    omega
  | debited =>
    rw [count_debited]
    omega
  | edited =>
    rw [count_edited]
    omega
  | other => omega

/-- A tip counter is at most the length of the run so far. -/
theorem tipCount_le_length {world : World}
    (hrun : Run (Step host) (deployed Symbol world) labels stop) (creator : Address) :
    (getTipCount stop.storage creator).val ≤ labels.length := by
  induction hrun with
  | nil => exact le_rfl
  | snoc _ last ih =>
    rw [List.length_append, List.length_singleton]
    push_cast
    rcases last.accepts_or_storage_eq with ⟨_, _, _, -, haccepts⟩ | ⟨-, heq⟩
    · exact (haccepts.accountStep creator).count_le_succ.trans (by simpa using ih)
    · rw [heq]
      omega

/-- Every run shorter than the range of the tip counter leaves the counters in range. -/
theorem TrafficStep.restrict_of_short {world : World} {prior : List (Label host Symbol)}
    (hprior : Run (Step host) (deployed Symbol world) prior start)
    (hrun : Run (TrafficStep host ledger offender) start labels stop)
    (hshort : prior.length + labels.length < 18446744073709551615) :
    Run (restrict (TrafficStep host ledger offender) TipCountsFit) start labels stop := by
  induction hrun with
  | nil => exact .nil
  | @snoc labels before stop label init last ih =>
    rw [List.length_append, List.length_singleton] at hshort
    refine (ih (by omega)).snoc ⟨last, fun creator ↦ ?_⟩
    have hle := tipCount_le_length (hprior.append (init.mono fun _ _ _ h ↦ h.step)) creator
    rw [List.length_append] at hle
    push_cast at hle
    omega

/-- Plain ledgers are isolated from each other. -/
theorem tokenIsolation_ledgerHost (contract zeroAccount offender : Address) :
    TokenIsolation (ledgerHost contract zeroAccount) TokenLedger.balance offender where
  offender_confined {world settled sender recipient amount} hmoved token hne := by
    have hbalance := congrFun (TokenLedger.transfer_eq_ok_iff.mp hmoved).2 token
    rw [hbalance]
    funext holder
    rw [TokenLedger.movedBalance, if_neg hne]
  others_succeed {world world' settled token sender recipient amount} hne hledgers hmoved := by
    obtain ⟨⟨hnonneg, hfunds⟩, hbalance⟩ := TokenLedger.transfer_eq_ok_iff.mp hmoved
    have hfunds' : amount.val ≤ world'.balance token sender := by
      rwa [hledgers token hne]
    refine ⟨_, dif_pos ⟨hnonneg, hfunds'⟩, fun other hother ↦ ?_⟩
    rw [hbalance]
    funext holder
    simp only [TokenLedger.movedBalance, hledgers other hother]
  others_fail {world world' token sender recipient amount error} hne hledgers hmoved := by
    change world'.transfer token sender recipient amount = .error error
    change world.transfer token sender recipient amount = .error error at hmoved
    unfold TokenLedger.transfer at hmoved ⊢
    have hfunds := hledgers token hne
    split at hmoved
    · cases hmoved
    · rename_i hshort
      rw [dif_neg]
      · exact hmoved
      · rwa [hfunds]

/-- Plain ledgers beside an offender that takes every transfer and moves nothing. -/
def divergentHost (contract zeroAccount offender : Address) : Host Address (TokenLedger Address) :=
  { ledgerHost contract zeroAccount with
    transfer := fun world token sender recipient amount ↦
      if token = offender then .ok world else world.transfer token sender recipient amount }

theorem tokenIsolation_divergentHost (contract zeroAccount offender : Address) :
    TokenIsolation (divergentHost contract zeroAccount offender) TokenLedger.balance offender where
  offender_confined {world settled sender recipient amount} hmoved := by
    obtain rfl : world = settled := by simpa [divergentHost] using hmoved
    exact .refl world
  others_succeed {world world' settled token sender recipient amount} hne hledgers hmoved := by
    have hplain := tokenIsolation_ledgerHost contract zeroAccount offender
    simp only [divergentHost, if_neg hne] at hmoved ⊢
    exact hplain.others_succeed hne hledgers hmoved
  others_fail {world world' token sender recipient amount error} hne hledgers hmoved := by
    have hplain := tokenIsolation_ledgerHost contract zeroAccount offender
    simp only [divergentHost, if_neg hne] at hmoved ⊢
    exact hplain.others_fail hne hledgers hmoved

abbrev divergentMarket : Host ℕ (TokenLedger ℕ) := divergentHost 0 9 8

/-- One creator and one tip in token 7. -/
def divergentMarketCalls : List (Env divergentMarket × Call ℕ ℕ) :=
  [(signedBy divergentMarket 1 (u64 100), .init 1 2 (u32 500) 0 0 0),
    (signedBy divergentMarket 3 (u64 101), .register 3 30 [] []),
    (signedBy divergentMarket 5 (u64 102), .tip 5 3 7 (i128 100) [])]

/-- The tipper tips more of token 8 than there is of it, and the creator withdraws some of that. -/
def twoTokenCalls : List (Env divergentMarket × Call ℕ ℕ) :=
  [(signedBy divergentMarket 5 (u64 103), .tip 5 3 8 (i128 2000) []),
    (signedBy divergentMarket 5 (u64 104), .tip 5 3 7 (i128 40) []),
    (signedBy divergentMarket 3 (u64 105), .withdraw 3 8 (i128 1500)),
    (signedBy divergentMarket 3 (u64 106), .withdraw 3 7 (i128 50))]

/-- Without the calls in token 8, the balance in token 7 is what it was with them. -/
theorem divergence_confined_in_divergentMarket :
    getBalance (replay (replay marketStart divergentMarketCalls).2
        [(signedBy divergentMarket 5 (u64 104), .tip 5 3 7 (i128 40) []),
          (signedBy divergentMarket 3 (u64 106), .withdraw 3 7 (i128 50))]).2.storage 3 7 =
      getBalance (replay (replay marketStart divergentMarketCalls).2 twoTokenCalls).2.storage 3 7 := by
  have hisolated : TokenIsolation divergentMarket TokenLedger.balance 8 :=
    tokenIsolation_divergentHost 0 9 8
  have hfull : Run (TrafficStep divergentMarket TokenLedger.balance 8) _ _ _ :=
    (traffic_of_replay twoTokenCalls (by decide) (replay marketStart divergentMarketCalls).2).1
  have hshorter : Run (TrafficStep divergentMarket TokenLedger.balance 8) _ _ _ ∧ _ :=
    traffic_of_replay [(signedBy divergentMarket 5 (u64 104), .tip 5 3 7 (i128 40) []),
      (signedBy divergentMarket 3 (u64 106), .withdraw 3 7 (i128 50))] (by decide)
      (replay marketStart divergentMarketCalls).2
  have hrun := TrafficStep.restrict_of_short (run_replay divergentMarketCalls marketStart) hfull
    (by decide)
  exact ((((divergence_confined hisolated (.of_deployed (run_replay divergentMarketCalls marketStart))
    rfl hrun).2 _ _ hshorter.1 (hshorter.2.trans rfl)).2 7 (by decide)).1 3).1

end StellarTip
