import StellarTip.Account.Registry
import StellarTip.Lifetime.Policy

/-!
# What stays alive, and what does not

Whatever a call writes lives for at least the threshold afterwards, and so does the instance, whatever
happens meanwhile. Nothing else keeps an entry alive: the lifetime of an entry that no call extends and
nobody prolongs is a constant, so it is archived in the end however busy the contract is. What that
means for a creator who withdraws but is not tipped, and for one who registers again, is spelled out.
-/

namespace StellarTip

open Foundation TipContract Storage

variable {Address Symbol World : Type} [LinearOrder Address] [DecidableEq Symbol]
  {host : Host Address World} {env : Env host} {call : Call Address Symbol}
  {state state' : State Address Symbol World} {receipt : Receipt Address Symbol}
  {settings : LedgerSettings} {ledger ledger' later : LedgerState Address Symbol World}
  {label : LedgerLabel host Symbol} {labels : List (LedgerLabel host Symbol)}
  {entry : LedgerEntry Address Symbol} {key : DataKey Address Symbol}

/-- Every persistent entry that an accepted call writes and keeps is among those it extends. -/
theorem Accepts.mem_renewedBy (h : Accepts env state call receipt state')
    (hheld : state'.storage.persistentTier.has key = true)
    (hwritten : state'.storage.persistentTier.get key ≠ state.storage.persistentTier.get key) :
    .data key ∈ state.storage.renewedBy call := by
  cases h with
  | init | configure | updateProfile => exact absurd rfl hwritten
  | @register caller =>
    by_cases hkey : key = .tipCount caller
    · simp [renewedBy, hkey]
    · simp [hkey] at hwritten
  | @unregister caller =>
    rw [persistentTier_afterUnregister] at hheld hwritten
    by_cases hcount : key = .tipCount caller
    · simp [hcount] at hheld
    by_cases htokens : key = .creatorTokens caller
    · simp [htokens] at hheld
    · simp [hcount, htokens] at hwritten
  | @tip sender creator token amount fee newBalance message =>
    rw [persistentTier_afterTip] at hwritten
    by_contra hother
    simp only [renewedBy, List.mem_cons, List.not_mem_nil, not_or, LedgerEntry.data.injEq] at hother
    simp [hother] at hwritten
  | @withdraw caller token amount remaining settled authorized ready accepted =>
    by_cases hbalance : key = .balance caller token
    · subst hbalance
      by_cases hkept : amount < getBalance state.storage caller token
      · simp [renewedBy, hkept]
      · rw [afterWithdraw, if_neg (accepted.lt_iff_pos.not.mp hkept), KeyedStore.has,
          get_persistentTier_untracked _ _ _ (by simp)] at hheld
        simp at hheld
    by_cases htokens : key = .creatorTokens caller
    · subst htokens
      by_cases hkept : amount < getBalance state.storage caller token
      · simp [renewedBy, hkept]
      · rw [afterWithdraw, if_neg (accepted.lt_iff_pos.not.mp hkept), untracked,
          trackedTokens_removePersistent_balance] at hheld hwritten
        split_ifs at hheld hwritten with hmem hempty
        · simp at hheld
        · simp [renewedBy, hkept, hmem, hempty]
        · simp at hwritten
    · exact absurd (state.storage.get_persistentTier_afterWithdraw caller token remaining hbalance
        htokens) hwritten

theorem LedgerStep.sequence_le (h : LedgerStep settings host ledger label ledger') :
    ledger.sequence ≤ ledger'.sequence := by
  cases h with
  | accepted ok => exact (submit_eq_ok_iff.mp ok).2.2.ge
  | rejected | stopped | outside | prolonged | restored => exact le_rfl
  | closed => exact Nat.le_succ _

/-- An entry on the ledger was there before and lives no shorter, or the step has just extended it. -/
theorem LedgerStep.lifetime_of_held (h : LedgerStep settings host ledger label ledger')
    (hheld : ledger'.state.storage.holds entry = true) :
    (ledger.state.storage.holds entry = true ∧ ledger.lifetimes entry ≤ ledger'.lifetimes entry) ∨
      ledger.sequence + TTL_THRESHOLD ≤ ledger'.lifetimes entry := by
  cases h with
  | @accepted _ call _ _ _ ok =>
    obtain ⟨haccepts, -, hlifetimes, -⟩ := submit_eq_ok_iff_accepts.mp ok
    rw [hlifetimes]
    by_cases hrenewed : entry ∈ ledger.state.storage.renewedBy call
    · refine .inr ?_
      rw [extendedLifetimes, if_pos hrenewed]
      exact LedgerSettings.threshold_le_extended
    · rw [extendedLifetimes_of_notMem hrenewed]
      refine .inl ⟨?_, le_rfl⟩
      cases entry with
      | contractInstance => rfl
      | data key =>
        by_contra hmissing
        refine hrenewed (haccepts.mem_renewedBy hheld fun hsame ↦ hmissing ?_)
        obtain ⟨value, hvalue⟩ := KeyedStore.has_iff.mp hheld
        exact KeyedStore.has_iff.mpr ⟨value, hsame ▸ hvalue⟩
  | rejected | stopped | outside | closed => exact .inl ⟨hheld, le_rfl⟩
  | prolonged _ _ hlater => exact .inl ⟨hheld, le_update_self_iff.mpr hlater entry⟩
  | restored _ harchived =>
    have hlonger := harchived.le.trans ((settings.le_birth))
    exact .inl ⟨hheld, le_update_self_iff.mpr hlonger entry⟩

/-- A bound on a lifetime within the threshold, once reached, lasts. -/
theorem lifetime_ge_of_run {bound : ℕ} (run : Run (LedgerStep settings host) ledger labels later)
    (hbound : bound ≤ ledger.sequence + TTL_THRESHOLD)
    (hstart : ledger.state.storage.holds entry = true → bound ≤ ledger.lifetimes entry)
    (hheld : later.state.storage.holds entry = true) : bound ≤ later.lifetimes entry := by
  refine (Run.invariant (P := fun ledger ↦ bound ≤ ledger.sequence + TTL_THRESHOLD ∧
    (ledger.state.storage.holds entry = true → bound ≤ ledger.lifetimes entry)) ?_ run
      ⟨hbound, hstart⟩).2 hheld
  rintro before label after ⟨hnear, hbefore⟩ hstep
  refine ⟨hnear.trans (Nat.add_le_add_right hstep.sequence_le _), fun hafter ↦ ?_⟩
  rcases hstep.lifetime_of_held hafter with ⟨hkept, hlonger⟩ | hextended
  · exact (hbefore hkept).trans hlonger
  · exact hnear.trans hextended

theorem LedgerStep.run_closed
    {allowed : LedgerState Address Symbol World → LedgerLabel host Symbol → Prop}
    (hallowed : ∀ ledger, allowed ledger .closed) (ledger : LedgerState Address Symbol World)
    (count : ℕ) :
    Run (restrict (LedgerStep settings host) allowed) ledger (List.replicate count .closed)
      { ledger with sequence := ledger.sequence + count } := by
  induction count with
  | zero => exact .nil
  | succ count ih =>
    rw [List.replicate_succ']
    exact ih.snoc ⟨.closed, hallowed _⟩

/-- **Fifteen days.** After an accepted call, the instance, every entry that the call renews and every
persistent entry whose value it changes are live for at least the threshold, whatever happens in
between. -/
theorem live_within_threshold (hcall : submit settings env call ledger = .ok (receipt, ledger'))
    (run : Run (LedgerStep settings host) ledger' labels later)
    (hwithin : later.sequence ≤ ledger.sequence + TTL_THRESHOLD) :
    later.sequence ≤ later.lifetimes .contractInstance ∧
      (∀ entry ∈ ledger.state.storage.renewedBy call,
        later.state.storage.holds entry = true → later.sequence ≤ later.lifetimes entry) ∧
      ∀ key : DataKey Address Symbol,
        ledger'.state.storage.persistentTier.get key ≠ ledger.state.storage.persistentTier.get key →
        later.state.storage.persistentTier.has key = true →
          later.sequence ≤ later.lifetimes (.data key) := by
  obtain ⟨haccepts, -, hlifetimes, hsequence⟩ := submit_eq_ok_iff_accepts.mp hcall
  have hrenewed (entry : LedgerEntry Address Symbol)
      (hmem : entry ∈ ledger.state.storage.renewedBy call) :
      ledger.sequence + TTL_THRESHOLD ≤ ledger'.lifetimes entry := by
    rw [hlifetimes, extendedLifetimes, if_pos hmem]
    exact LedgerSettings.threshold_le_extended
  have hnear : ledger.sequence + TTL_THRESHOLD ≤ ledger'.sequence + TTL_THRESHOLD :=
    hsequence ▸ le_rfl
  have hlive (entry : LedgerEntry Address Symbol) (hmem : entry ∈ ledger.state.storage.renewedBy call)
      (hheld : later.state.storage.holds entry = true) : later.sequence ≤ later.lifetimes entry :=
    hwithin.trans (lifetime_ge_of_run run hnear (fun _ ↦ hrenewed entry hmem) hheld)
  refine ⟨hlive _ List.mem_cons_self rfl, hlive, fun key hwritten hheld ↦ hwithin.trans ?_⟩
  refine lifetime_ge_of_run run hnear (fun hkept ↦ ?_) hheld
  exact hrenewed _ (haccepts.mem_renewedBy hkept hwritten)

/-- A second tip to the creator of the tipped market. -/
def lateTip : MarketCall :=
  marketTip 3 7 (i128 10) (u64 104)

/-- The second tip in the last ledger of the tipped market, and the end of the threshold after it. The
tip leaves the token set as it was and renews it all the same. -/
theorem live_within_threshold_after_lateTip :
    ∃ later : MarketLedger, later.sequence = 264200 ∧
      264200 ≤ later.lifetimes (.data (.balance 3 7)) ∧
      264200 ≤ later.lifetimes (.data (.creatorTokens 3)) := by
  have htip : submit testSettings lateTip.1 lateTip.2 tippedLedger =
      .ok (_, MarketLedger.after tippedLedger lateTip) := submit_of_live rfl (by decide)
  have hrun : Run (restrict (LedgerStep testSettings marketHost) fun _ _ ↦ True)
      (MarketLedger.after tippedLedger lateTip) _ _ :=
    LedgerStep.run_closed (fun _ ↦ trivial) _ 259200
  obtain ⟨-, hrenewed, hwritten⟩ := live_within_threshold htip hrun.unrestrict (by decide)
  exact ⟨_, rfl, hwritten (.balance 3 7) (by decide) (by decide),
    hrenewed (.data (.creatorTokens 3)) (by decide) (by decide)⟩

/-- The steps that move the lifetime of an entry. -/
def LedgerLabel.Extends (entry : LedgerEntry Address Symbol)
    (ledger : LedgerState Address Symbol World) : LedgerLabel host Symbol → Prop
  | .contract (.accepted _ call _) => entry ∈ ledger.state.storage.renewedBy call
  | .prolonged other | .restored other => entry = other
  | _ => False

/-- A lifetime is a constant until something extends it. -/
theorem lifetime_eq_of_run
    (run : Run (restrict (LedgerStep settings host) fun ledger label ↦ ¬label.Extends entry ledger)
      ledger labels later) : later.lifetimes entry = ledger.lifetimes entry := by
  induction run with
  | nil => rfl
  | snoc _ last ih =>
    obtain ⟨hstep, hextends⟩ := last
    rw [← ih]
    cases hstep with
    | accepted ok =>
      obtain ⟨-, -, hlifetimes, -⟩ := submit_eq_ok_iff_accepts.mp ok
      rw [hlifetimes]
      exact extendedLifetimes_of_notMem hextends
    | rejected | stopped | outside | closed => rfl
    | prolonged | restored => exact Function.update_of_ne hextends _ _

/-- A call whose footprint holds an archived entry has no effect. -/
theorem submit_ne_ok_of_archived (hmem : entry ∈ ledger.state.storage.footprint call)
    (hheld : ledger.state.storage.holds entry = true)
    (harchived : ledger.lifetimes entry < ledger.sequence)
    (outcome : Receipt Address Symbol × LedgerState Address Symbol World) :
    submit settings env call ledger ≠ .ok outcome := by
  intro hok
  obtain ⟨-, hlive, -⟩ := submit_eq_ok_iff_accepts.mp hok
  exact absurd (hlive entry hmem hheld) (not_le.mpr harchived)

/-- The steps that extend the tip counter of a creator: registration and tips, and nothing that the
creator does with the received tips. -/
def LedgerLabel.TendsCounter (creator : Address) : LedgerLabel host Symbol → Prop
  | .contract (.accepted _ (.register caller ..) _) => caller = creator
  | .contract (.accepted _ (.tip _ tipped ..) _) => tipped = creator
  | .prolonged entry | .restored entry => entry = .data (.tipCount creator)
  | _ => False

omit [DecidableEq Symbol] in
theorem LedgerLabel.tendsCounter_of_extends {creator : Address}
    (h : label.Extends (.data (.tipCount creator)) ledger) : label.TendsCounter creator := by
  cases label with
  | contract label =>
    cases label with
    | accepted env call receipt =>
      cases call with
      | withdraw caller token amount =>
        simp only [Extends, renewedBy] at h
        split_ifs at h <;> simp at h
      | _ => simp_all [Extends, renewedBy, TendsCounter]
    | rejected | outside => exact h
  | stopped | closed => exact h
  | prolonged | restored => exact h.symm

/-- **Withdrawals do not keep a creator tippable.** Once the tip counter was not tended for its
lifetime, no tip to the creator and no `unregister` of the creator goes through until the counter is
restored, while every withdrawal still does. -/
theorem untended_counter_blocks {creator : Address} (h : ReachableState host ledger.state)
    (run : Run (restrict (LedgerStep settings host) fun _ label ↦ ¬label.TendsCounter creator)
      ledger labels later)
    (hexpired : ledger.lifetimes (.data (.tipCount creator)) < later.sequence)
    (hregistered : isCreator later.state.storage creator = true) :
    (∀ (env : Env host) sender token amount message outcome,
      submit settings env (.tip sender creator token amount message) later ≠ .ok outcome) ∧
    (∀ (env : Env host) outcome, submit settings env (.unregister creator) later ≠ .ok outcome) ∧
    ∀ (env : Env host) token amount receipt state',
      invoke env (.withdraw creator token amount) later.state = .ok (receipt, state') →
      (∀ entry ∈ [.contractInstance, .data (.balance creator token), .data (.creatorTokens creator)],
        later.state.storage.holds entry = true → later.sequence ≤ later.lifetimes entry) →
      ∃ paid, submit settings env (.withdraw creator token amount) later = .ok (receipt, paid) ∧
        paid.state = state' := by
  have hreach : ReachableState host later.state := h.run (run_visible_of_run run.unrestrict)
  have hheld : later.state.storage.holds (.data (.tipCount creator)) = true :=
    (isCreator_iff_tipCount_stored hreach).mp hregistered
  have hlifetime : later.lifetimes (.data (.tipCount creator)) =
      ledger.lifetimes (.data (.tipCount creator)) :=
    lifetime_eq_of_run (run.mono fun before label after hstep ↦
      ⟨hstep.1, fun hextends ↦ hstep.2 (LedgerLabel.tendsCounter_of_extends hextends)⟩)
  rw [← hlifetime] at hexpired
  refine ⟨fun env sender token amount message outcome ↦ ?_, fun env outcome ↦ ?_,
    fun env token amount receipt state' hok hlive ↦ ?_⟩
  · exact submit_ne_ok_of_archived (by simp [footprint]) hheld hexpired outcome
  · exact submit_ne_ok_of_archived (by simp [footprint]) hheld hexpired outcome
  · exact ⟨_, submit_of_live hok hlive, rfl⟩

/-- One ledger later the creator of the tipped market cannot unregister. -/
theorem untended_counter_blocks_unregister :
    ¬∃ outcome, submit testSettings (signedBy marketHost 3 (u64 104)) (.unregister 3)
      { tippedLedger with sequence := 5001 } = .ok outcome := by
  have hrun : Run (restrict (LedgerStep testSettings marketHost) fun _ label ↦
      ¬label.TendsCounter 3) tippedLedger [.closed] { tippedLedger with sequence := 5001 } :=
    .single ⟨.closed, id⟩
  rintro ⟨outcome, hok⟩
  exact (untended_counter_blocks tippedMarket_reachable hrun (by decide) (by decide)).2.1 _ _ hok

/-! ## Records that outlive their registration -/

/-- The steps that extend a tip record: the tips recorded under its index. -/
def LedgerLabel.Records (creator : Address) (index : U64) : LedgerLabel host Symbol → Prop
  | .contract (.accepted _ (.tip _ tipped ..) receipt) =>
      tipped = creator ∧ receipt.returned = some index
  | .prolonged entry | .restored entry => entry = .data (.tip creator index)
  | _ => False

theorem LedgerStep.records_of_extends {creator : Address} {index : U64}
    (hstep : LedgerStep settings host ledger label ledger')
    (h : label.Extends (.data (.tip creator index)) ledger) : label.Records creator index := by
  cases hstep with
  | @accepted env call receipt _ _ ok =>
    cases call with
    | tip sender tipped token amount message =>
      obtain ⟨haccepts, -⟩ := submit_eq_ok_iff_accepts.mp ok
      obtain ⟨-, _, _, _, _, _, -, rfl, -⟩ := haccepts.of_tip
      simp only [LedgerLabel.Extends, renewedBy, List.mem_cons, reduceCtorEq, LedgerEntry.data.injEq,
        DataKey.tip.injEq, List.not_mem_nil, or_false, false_or] at h
      obtain ⟨rfl, rfl⟩ := h
      exact ⟨rfl, rfl⟩
    | withdraw caller token amount =>
      simp only [LedgerLabel.Extends, renewedBy] at h
      split_ifs at h <;> simp at h
    | _ => simp_all [LedgerLabel.Extends, renewedBy]
  | rejected | stopped | outside | closed => exact h
  | prolonged | restored => exact h.symm

/-- No accepted call removes a tip record. -/
theorem Accepts.record_held {creator : Address} {index : U64}
    (haccepts : Accepts env state call receipt state')
    (h : state.storage.persistentTier.has (.tip creator index) = true) :
    state'.storage.persistentTier.has (.tip creator index) = true := by
  cases haccepts with
  | init | configure | updateProfile => exact h
  | register => simpa using h
  | unregister =>
    rw [persistentTier_afterUnregister]
    simpa using h
  | @tip sender tipped token =>
    rw [persistentTier_afterTip]
    by_cases hsame : creator = tipped ∧ index = getTipCount state.storage tipped
    · obtain ⟨rfl, rfl⟩ := hsame
      simp
    · have hother : (DataKey.tip creator index : DataKey Address Symbol) ≠
          .tip tipped (getTipCount state.storage tipped) := by simpa using hsame
      simpa [hother] using h
  | @withdraw caller token amount remaining =>
    have hkept : (state.storage.afterWithdraw caller token remaining).persistentTier.get
        (.tip creator index) = state.storage.persistentTier.get (.tip creator index) :=
      get_persistentTier_afterWithdraw _ caller token remaining (by simp) (by simp)
    rw [KeyedStore.has, hkept]
    exact h

/-- **A record lives once.** The lifetime of a new tip record is fixed when the tip is recorded. When
it is over and the creator, registered anew, has the same index due, no tip to the creator goes
through until the old record is restored. -/
theorem stale_record_blocks {sender creator token : Address} {amount : I128} {message : HostString}
    (hrecorded : submit settings env (.tip sender creator token amount message) ledger =
      .ok (receipt, ledger'))
    (hnew : getTip ledger.state.storage creator (getTipCount ledger.state.storage creator) = none)
    (run : Run (restrict (LedgerStep settings host) fun _ label ↦
        ¬label.Records creator (getTipCount ledger.state.storage creator)) ledger' labels later) :
    later.lifetimes (.data (.tip creator (getTipCount ledger.state.storage creator))) =
        settings.extended ledger.sequence (settings.birth ledger.sequence) ∧
      (settings.extended ledger.sequence (settings.birth ledger.sequence) < later.sequence →
        getTipCount later.state.storage creator = getTipCount ledger.state.storage creator →
          ∀ (env : Env host) sender token amount message outcome,
            submit settings env (.tip sender creator token amount message) later ≠ .ok outcome) := by
  obtain ⟨haccepts, -, hlifetimes, -⟩ := submit_eq_ok_iff_accepts.mp hrecorded
  generalize hindex : getTipCount ledger.state.storage creator = index at *
  have hfixed : ledger'.lifetimes (.data (.tip creator index)) =
      settings.extended ledger.sequence (settings.birth ledger.sequence) := by
    have hmissing : ¬ledger.state.storage.holds (.data (.tip creator index)) = true :=
      KeyedStore.not_has_iff.mpr hnew
    rw [hlifetimes, extendedLifetimes, if_pos (by simp [renewedBy, hindex]), if_neg hmissing]
  have hconstant : later.lifetimes (.data (.tip creator index)) =
      ledger'.lifetimes (.data (.tip creator index)) :=
    lifetime_eq_of_run (run.mono fun before label after hstep ↦
      ⟨hstep.1, fun hextends ↦ hstep.2 (hstep.1.records_of_extends hextends)⟩)
  have hkept : later.state.storage.holds (.data (.tip creator index)) = true := by
    refine run.unrestrict.invariant (P := fun ledger ↦
      ledger.state.storage.persistentTier.has (.tip creator index) = true) ?_ ?_
    · intro before label after hbefore hstep
      cases hstep with
      | accepted ok => exact (submit_eq_ok_iff_accepts.mp ok).1.record_held hbefore
      | rejected | stopped | outside | closed | prolonged | restored => exact hbefore
    · obtain ⟨-, _, _, _, _, _, -, -, hstate⟩ := haccepts.of_tip
      rw [hstate, persistentTier_afterTip, hindex]
      simp
  rw [← hfixed, ← hconstant]
  refine ⟨rfl, fun hexpired hdue env sender token amount message outcome ↦ ?_⟩
  exact submit_ne_ok_of_archived (by simp [footprint, hdue]) hkept hexpired outcome

/-- Before a tip in ledger 1000 that leaves nothing to withdraw. The creator then unregisters and registers
again in ledger 401000; the old record is archived after ledger 519400. -/
def openedLedger : MarketLedger where
  state := (replay marketStart [marketInit (u32 10000), marketRegister 3 30]).2
  lifetimes _ := 700000
  sequence := 1000

def recordedLedger : MarketLedger :=
  MarketLedger.after openedLedger (marketTip 3 7 (i128 10) (u64 103))

def leftLedger : MarketLedger :=
  MarketLedger.after { recordedLedger with sequence := 401000 } (marketUnregister 3)

def returnedLedger : MarketLedger := MarketLedger.after leftLedger (marketRegister 3 31)

/-- The creator is tipped in another token, so that the old record is all that is in the way. -/
theorem stale_record_blocks_returned_creator :
    (¬∃ outcome, submit testSettings (signedBy marketHost 5 (u64 106)) (.tip 5 3 8 (i128 10) [])
      { returnedLedger with sequence := 519401 } = .ok outcome) ∧
    (invoke (signedBy marketHost 5 (u64 106)) (.tip 5 3 8 (i128 10) []) returnedLedger.state).toBool ∧
    ∀ entry ∈ returnedLedger.state.storage.footprint (.tip 5 3 8 (i128 10) []),
      returnedLedger.state.storage.holds entry = true →
        returnedLedger.lifetimes entry < 519401 → entry = .data (.tip 3 (u64 0)) := by
  have htip : submit testSettings (signedBy marketHost 5 (u64 103)) (.tip 5 3 7 (i128 10) [])
      openedLedger = .ok (_, recordedLedger) := submit_of_live rfl (by decide)
  have hleft : submit testSettings (marketUnregister 3).1 (marketUnregister 3).2
      { recordedLedger with sequence := 401000 } = .ok (_, leftLedger) :=
    submit_of_live rfl (by decide)
  have hreturned : submit testSettings (marketRegister 3 31).1 (marketRegister 3 31).2
      leftLedger = .ok (_, returnedLedger) := submit_of_live rfl (by decide)
  have hrun : Run (restrict (LedgerStep testSettings marketHost) fun _ label ↦
      ¬label.Records 3 (u64 0)) recordedLedger _ { returnedLedger with sequence := 519401 } :=
    (LedgerStep.run_closed (fun _ ↦ id) recordedLedger 400000).append
      (.cons ⟨.accepted hleft, id⟩ (.cons ⟨.accepted hreturned, id⟩
        (LedgerStep.run_closed (fun _ ↦ id) returnedLedger 118401)))
  refine ⟨?_, by decide, by decide⟩
  rintro ⟨outcome, hok⟩
  exact (stale_record_blocks htip (by decide) hrun).2 (by decide) (by decide) _ _ _ _ _ _ hok

end StellarTip
