import StellarTip.Lifetime.Policy
import StellarTip.Custody.Withdrawal

/-!
# Restoring archived entries

A call is stopped only by an archived entry that it accesses, and restoring entries changes nothing
that the contract sees. So the ledger shows exactly the runs of the plain model, and whatever an
abandoned contract recorded for a creator can still be paid out.
-/

namespace StellarTip

open Foundation TipContract Storage

variable {Address Symbol World : Type} [LinearOrder Address] [DecidableEq Symbol]
  {host : Host Address World} {env : Env host} {call : Call Address Symbol}
  {settings : LedgerSettings} {now : ℕ} {ledger ledger' : LedgerState Address Symbol World}
  {frame final : Frame Address Symbol World} {lifetimes lifetimes' : Lifetimes Address Symbol}
  {entry : LedgerEntry Address Symbol} {entries : List (LedgerEntry Address Symbol)}

/-- The held ones among some entries are live. -/
def HeldLive (now : ℕ) (entries : List (LedgerEntry Address Symbol))
    (storage : Storage Address Symbol) (lifetimes : Lifetimes Address Symbol) : Prop :=
  ∀ entry ∈ entries, storage.holds entry = true → now ≤ lifetimes entry

/-- An audited access leaves every live entry live. -/
theorem live_of_audit {access : Access Address Symbol}
    (h : settings.audit now lifetimes access = some lifetimes') (hlive : now ≤ lifetimes entry) :
    now ≤ lifetimes' entry := by
  obtain ⟨value, hvalue, rfl⟩ := Option.map_eq_some_iff.mp h
  by_cases hentry : entry = access.entry
  · subst hentry
    rw [Function.update_self]
    cases access with
    | touch =>
      obtain rfl := Option.some.inj ((if_pos hlive).symm.trans hvalue)
      exact hlive
    | create =>
      obtain rfl := Option.some.inj hvalue
      exact LedgerSettings.le_birth
    | extend =>
      obtain rfl := Option.some.inj ((if_pos hlive).symm.trans hvalue)
      exact hlive.trans LedgerSettings.le_extended
  · rw [Function.update_of_ne hentry]
    exact hlive

/-- Accesses to live entries, and creations, pass the audit. -/
theorem audit_of_live (settings : LedgerSettings) {accesses : List (Access Address Symbol)}
    (h : ∀ access ∈ accesses, access = .create access.entry ∨ now ≤ lifetimes access.entry) :
    ∃ lifetimes', accesses.foldlM (settings.audit now) lifetimes = some lifetimes' ∧
      (∀ entry, now ≤ lifetimes entry → now ≤ lifetimes' entry) ∧
      ∀ entry, .create entry ∈ accesses → now ≤ lifetimes' entry := by
  induction accesses generalizing lifetimes with
  | nil => exact ⟨lifetimes, rfl, fun _ ↦ id, fun _ hmem ↦ (List.not_mem_nil hmem).elim⟩
  | cons access accesses ih =>
    have hfirst : ∃ mid, settings.audit now lifetimes access = some mid := by
      rcases h access List.mem_cons_self with hcreate | hlive
      · rw [hcreate]
        exact ⟨_, LedgerSettings.audit_create⟩
      · cases access with
        | touch => exact ⟨_, LedgerSettings.audit_touch.trans (if_pos hlive)⟩
        | create => exact ⟨_, LedgerSettings.audit_create⟩
        | extend => exact ⟨_, LedgerSettings.audit_extend.trans (if_pos hlive)⟩
    obtain ⟨mid, hmid⟩ := hfirst
    have hkept (entry : LedgerEntry Address Symbol) (hlive : now ≤ lifetimes entry) :
        now ≤ mid entry := live_of_audit hmid hlive
    obtain ⟨lifetimes', hfold, hlive, hcreated⟩ := ih fun other hother ↦
      (h other (List.mem_cons_of_mem access hother)).imp_right (hkept _)
    refine ⟨lifetimes', ?_, fun entry hentry ↦ hlive entry (hkept entry hentry), ?_⟩
    · rw [List.foldlM_cons, hmid]
      exact hfold
    · rintro entry hcreate
      rcases List.mem_cons.mp hcreate with rfl | hmem
      · obtain rfl := Option.some.inj (LedgerSettings.audit_create.symm.trans hmid)
        refine hlive entry ?_
        rw [Function.update_self]
        exact LedgerSettings.le_birth
      · exact hcreated entry hmem

omit [DecidableEq Symbol] in
theorem Storage.held_of_mem_touched {storage : Storage Address Symbol}
    {key : DataKey Address Symbol} :
    ∀ access ∈ storage.touched key, storage.holds access.entry = true := by
  intro access haccess
  unfold Storage.touched at haccess
  split at haccess
  · rename_i hheld
    rw [List.mem_singleton.mp haccess]
    exact hheld
  · exact (List.not_mem_nil haccess).elim

omit [DecidableEq Symbol] in
/-- An operation accesses entries that are held, or creates them. -/
theorem HostOp.create_or_held {α : Type} (op : HostOp Address Symbol α) :
    ∀ access ∈ op.accesses frame,
      access = .create access.entry ∨ frame.storage.holds access.entry = true := by
  intro access haccess
  cases op with
  | persistentGet key | persistentHas key | persistentRemove key =>
    exact .inr (held_of_mem_touched access haccess)
  | persistentSet key value =>
    rw [List.mem_singleton.mp haccess, written]
    split
    · rename_i hheld
      exact .inr hheld
    · exact .inl rfl
  | extendInstanceTtl =>
    rw [List.mem_singleton.mp haccess]
    exact .inr rfl
  | extendPersistentTtl key =>
    simp only [accesses] at haccess
    split at haccess
    · rename_i hheld
      rw [List.mem_singleton.mp haccess]
      exact .inr hheld
    · exact (List.not_mem_nil haccess).elim
  | _ => exact (List.not_mem_nil haccess).elim

open Transaction in
/-- What is held after an operation was held before, or the operation has created it. -/
theorem HostOp.held_of_run {α : Type} {op : HostOp Address Symbol α} {answer : α}
    (hrun : (HostOp.perform host op).run frame = .ok (answer, final))
    (hheld : final.storage.holds entry = true) :
    frame.storage.holds entry = true ∨ .create entry ∈ op.accesses frame := by
  cases op with
  | rejectIf =>
    obtain ⟨-, rfl⟩ := run_rejectIf_eq_ok.mp hrun
    exact .inl hheld
  | demand =>
    obtain ⟨-, rfl⟩ := run_demand_eq_ok.mp hrun
    exact .inl hheld
  | instanceGet | instanceHas | persistentGet | persistentHas =>
    obtain ⟨-, rfl⟩ := run_query_eq_ok.mp hrun
    exact .inl hheld
  | instanceSet | instanceRemove | publish =>
    obtain rfl := run_update_eq_ok.mp hrun
    exact .inl hheld
  | persistentSet key value =>
    obtain rfl := run_update_eq_ok.mp hrun
    cases entry with
    | contractInstance => exact .inl rfl
    | data other =>
      by_cases hother : other = key
      · subst hother
        by_cases hkept : frame.storage.persistentTier.has other = true
        · exact .inl hkept
        · exact .inr (List.mem_singleton.mpr (if_neg hkept).symm)
      · exact .inl ((KeyedStore.has_set_of_ne _ hother value).symm.trans hheld)
  | persistentRemove key =>
    obtain rfl := run_update_eq_ok.mp hrun
    cases entry with
    | contractInstance => exact .inl rfl
    | data other =>
      by_cases hother : other = key
      · subst hother
        exact absurd hheld (Bool.eq_false_iff.mp (KeyedStore.has_remove_self _ _))
      · exact .inl ((KeyedStore.has_remove_of_ne _ hother).symm.trans hheld)
  | tokenTransfer =>
    obtain ⟨world, -, rfl⟩ := run_tokenTransfer_eq_ok.mp hrun
    exact .inl hheld
  | extendInstanceTtl =>
    obtain ⟨-, rfl⟩ := run_pure_eq_ok.mp hrun
    exact .inl hheld
  | extendPersistentTtl key =>
    obtain ⟨-, rfl⟩ := run_extendPersistentTtl_eq_ok.mp hrun
    exact .inl hheld

/-- A script whose entries are live, where they are held, passes the audit. -/
theorem Script.audit_of_heldLive {α : Type} (settings : LedgerSettings)
    (script : Script Address Symbol α)
    (haccesses : ∀ access ∈ Script.trail host script frame, access.entry ∈ entries)
    (h : HeldLive now entries frame.storage lifetimes) :
    ∃ lifetimes', (Script.trail host script frame).foldlM (settings.audit now) lifetimes =
      some lifetimes' := by
  induction script generalizing frame lifetimes with
  | done value => exact ⟨lifetimes, rfl⟩
  | perform op next ih =>
    rw [Script.trail, Program.trail] at haccesses ⊢
    have hfirst : ∀ access ∈ op.accesses frame, access.entry ∈ entries := fun access haccess ↦
      haccesses access (List.mem_append_left _ haccess)
    obtain ⟨mid, hmid, hlive, hcreated⟩ := audit_of_live settings fun access haccess ↦
      (op.create_or_held access haccess).imp_right (h access.entry (hfirst access haccess))
    rw [List.foldlM_append, hmid]
    cases hrun : (HostOp.perform host op).run frame with
    | error failure => exact ⟨mid, rfl⟩
    | ok pair =>
      rw [hrun] at haccesses
      refine ih pair.1 (fun access haccess ↦ ?_) fun entry hentry hheld ↦ ?_
      · exact haccesses access (List.mem_append_right _ haccess)
      · rcases HostOp.held_of_run hrun hheld with hkept | hcreate
        · exact hlive entry (h entry hentry hkept)
        · exact hcreated entry hcreate

/-- The entries that a call accesses. -/
def Call.accessed (env : Env host) (call : Call Address Symbol) (state : State Address Symbol World) :
    List (LedgerEntry Address Symbol) :=
  (call.trail env state).map Access.entry

/-- A call whose entries are live, where they are held, does on the ledger what it does in the plain
model. -/
theorem submit_of_heldLive (settings : LedgerSettings)
    (h : HeldLive ledger.sequence (call.accessed env ledger.state) ledger.state.storage
      ledger.lifetimes) :
    ∃ lifetimes, submit settings env call ledger =
      match invoke env call ledger.state with
      | .ok (receipt, state) => .ok (receipt, { ledger with state, lifetimes })
      | .error failure => .error (.failure failure) := by
  have hinstance : ledger.sequence ≤ ledger.lifetimes .contractInstance :=
    h _ (List.mem_map_of_mem List.mem_cons_self) rfl
  obtain ⟨lifetimes, hfold⟩ := Script.audit_of_heldLive settings (call.script env)
    (fun access haccess ↦ List.mem_map_of_mem (List.mem_cons_of_mem _ haccess)) h
  have hall : (call.trail env ledger.state).foldlM (settings.audit ledger.sequence)
      ledger.lifetimes = some lifetimes := by
    rw [Call.trail, List.foldlM_cons, LedgerSettings.audit_touch, if_pos hinstance]
    exact hfold
  refine ⟨lifetimes, ?_⟩
  cases hinvoke : invoke env call ledger.state with
  | error failure => rw [submit_eq, hall, hinvoke]
  | ok pair => rw [submit_eq, hall, hinvoke]

/-- Archived entries can be restored one by one, until every held one of them is live. -/
theorem exists_run_restored (settings : LedgerSettings) (ledger : LedgerState Address Symbol World)
    (entries : List (LedgerEntry Address Symbol)) :
    ∃ (labels : List (LedgerLabel host Symbol)) (restored : LedgerState Address Symbol World),
      Run (LedgerStep settings host) ledger labels restored ∧
        labels.length ≤ entries.length ∧
        (∀ label ∈ labels, ∃ entry ∈ entries, label = .restored entry) ∧
        restored.state = ledger.state ∧ restored.sequence = ledger.sequence ∧
        (∀ entry, ledger.sequence ≤ ledger.lifetimes entry →
          ledger.sequence ≤ restored.lifetimes entry) ∧
        HeldLive ledger.sequence entries ledger.state.storage restored.lifetimes := by
  induction entries with
  | nil =>
    exact ⟨[], ledger, .nil, le_rfl, fun _ h ↦ (List.not_mem_nil h).elim, rfl, rfl, fun _ ↦ id,
      fun _ h ↦ (List.not_mem_nil h).elim⟩
  | cons entry entries ih =>
    obtain ⟨labels, restored, hrun, hlength, hlabels, hstate, hsequence, hkept, hlive⟩ := ih
    have hmem (label : LedgerLabel host Symbol) (hlabel : label ∈ labels) :
        ∃ other ∈ entry :: entries, label = .restored other := by
      obtain ⟨other, hother, heq⟩ := hlabels label hlabel
      exact ⟨other, List.mem_cons_of_mem entry hother, heq⟩
    by_cases harchived : ledger.state.storage.holds entry = true ∧
        restored.lifetimes entry < ledger.sequence
    · obtain ⟨hheld, harchived⟩ := harchived
      rw [← hstate] at hheld
      rw [← hsequence] at harchived
      have hstep : LedgerStep settings host restored (.restored entry) _ :=
        .restored hheld harchived
      have hlonger : restored.lifetimes ≤
          Function.update restored.lifetimes entry (settings.birth restored.sequence) :=
        le_update_self_iff.mpr (harchived.le.trans settings.le_birth)
      refine ⟨_, _, hrun.snoc hstep, by simpa using hlength, fun label hlabel ↦ ?_, hstate,
        hsequence, fun other hother ↦ (hkept other hother).trans (hlonger other), ?_⟩
      · rcases List.mem_append.mp hlabel with hlabel | hlabel
        · exact hmem label hlabel
        · exact ⟨entry, List.mem_cons_self, List.mem_singleton.mp hlabel⟩
      · intro other hother hheldOther
        rcases List.mem_cons.mp hother with rfl | hother
        · change ledger.sequence ≤ Function.update restored.lifetimes other _ other
          rw [Function.update_self, ← hsequence]
          exact settings.le_birth
        · exact (hlive other hother hheldOther).trans (hlonger other)
    · refine ⟨labels, restored, hrun, hlength.trans (Nat.le_succ _), hmem, hstate, hsequence, hkept,
        fun other hother hheld ↦ ?_⟩
      rcases List.mem_cons.mp hother with rfl | hother
      · exact not_lt.mp fun hlt ↦ harchived ⟨hheld, hlt⟩
      · exact hlive other hother hheld

/-! ## The ledger and the plain model -/

/-- After restoring what is needed, the ledger follows any step of the plain model. -/
theorem exists_run_of_step (settings : LedgerSettings) {label : Label host Symbol}
    {state' : State Address Symbol World}
    (h : Step host ledger.state label state') :
    ∃ (labels : List (LedgerLabel host Symbol)) (ledger' : LedgerState Address Symbol World),
      Run (LedgerStep settings host) ledger labels ledger' ∧
        labels.flatMap LedgerLabel.visible = [label] ∧ ledger'.state = state' := by
  have hsilent {labels : List (LedgerLabel host Symbol)} {entries : List (LedgerEntry Address Symbol)}
      (hlabels : ∀ label ∈ labels, ∃ entry ∈ entries, label = .restored entry) :
      labels.flatMap LedgerLabel.visible = [] := by
    refine List.flatMap_eq_nil_iff.mpr fun label hlabel ↦ ?_
    obtain ⟨entry, -, rfl⟩ := hlabels label hlabel
    rfl
  cases h with
  | @accepted env call receipt _ _ ok =>
    obtain ⟨labels, restored, hrun, -, hlabels, hstate, hsequence, -, hlive⟩ :=
      exists_run_restored settings ledger (call.accessed env ledger.state)
    rw [← hstate, ← hsequence] at hlive
    obtain ⟨lifetimes, hsubmit⟩ := submit_of_heldLive settings hlive
    rw [hstate, ok] at hsubmit
    refine ⟨_, _, hrun.snoc (.accepted hsubmit), ?_, rfl⟩
    rw [List.flatMap_append, hsilent hlabels]
    rfl
  | @rejected env call failure _ error =>
    obtain ⟨labels, restored, hrun, -, hlabels, hstate, hsequence, -, hlive⟩ :=
      exists_run_restored settings ledger (call.accessed env ledger.state)
    rw [← hstate, ← hsequence] at hlive
    obtain ⟨lifetimes, hsubmit⟩ := submit_of_heldLive settings hlive
    rw [hstate, error] at hsubmit
    refine ⟨_, _, hrun.snoc (.rejected hsubmit), ?_, hstate⟩
    rw [List.flatMap_append, hsilent hlabels]
    rfl
  | outside moved => exact ⟨_, _, .single (.outside moved), rfl, rfl⟩

/-- **Archival only delays.** From any ledger, what the contract can be seen to do is exactly what it
can do in the plain model. -/
theorem visible_runs_iff (ledger : LedgerState Address Symbol World)
    (observed : List (Label host Symbol)) (state' : State Address Symbol World) :
    (∃ (labels : List (LedgerLabel host Symbol)) (ledger' : LedgerState Address Symbol World),
      Run (LedgerStep settings host) ledger labels ledger' ∧
        labels.flatMap LedgerLabel.visible = observed ∧ ledger'.state = state') ↔
      Run (Step host) ledger.state observed state' := by
  constructor
  · rintro ⟨labels, ledger', run, rfl, rfl⟩
    exact run_visible_of_run run
  · intro run
    induction run with
    | nil => exact ⟨[], ledger, .nil, rfl, rfl⟩
    | snoc _ last ih =>
      obtain ⟨labels, mid, hrun, rfl, rfl⟩ := ih
      obtain ⟨labels', ledger', hnext, hvisible, hstate⟩ := exists_run_of_step settings last
      refine ⟨labels ++ labels', ledger', hrun.append hnext, ?_, hstate⟩
      rw [List.flatMap_append, hvisible]

/-- **The outcome of a call.** An accepted call of the plain model goes through exactly when its
footprint is live; it then extends the entries of `renewedBy` and changes no other lifetime. A failing
one fails alike, unless an archived entry that it accesses stops it first. -/
theorem ledger_outcome (settings : LedgerSettings) (env : Env host) (call : Call Address Symbol)
    (ledger : LedgerState Address Symbol World) :
    (∀ receipt state', invoke env call ledger.state = .ok (receipt, state') →
      (HeldLive ledger.sequence (ledger.state.storage.footprint call) ledger.state.storage
          ledger.lifetimes →
        submit settings env call ledger = .ok (receipt, ⟨state',
          ledger.state.storage.extendedLifetimes settings ledger.sequence
            (ledger.state.storage.renewedBy call) ledger.lifetimes, ledger.sequence⟩)) ∧
      (¬HeldLive ledger.sequence (ledger.state.storage.footprint call) ledger.state.storage
          ledger.lifetimes →
        submit settings env call ledger = .error .archived)) ∧
    (∀ failure, invoke env call ledger.state = .error failure →
      submit settings env call ledger = .error (.failure failure) ∨
        (submit settings env call ledger = .error .archived ∧
          ∃ entry ∈ call.accessed env ledger.state, ledger.state.storage.holds entry = true ∧
            ledger.lifetimes entry < ledger.sequence)) := by
  refine ⟨fun receipt state' hok ↦ ⟨fun hlive ↦ ?_, fun harchived ↦ ?_⟩, fun failure herror ↦ ?_⟩
  · exact submit_of_live hok hlive
  · rw [submit_eq]
    cases hfold : (call.trail env ledger.state).foldlM (settings.audit ledger.sequence)
        ledger.lifetimes with
    | none => rfl
    | some lifetimes =>
      exact absurd (((invoke_eq_ok_iff.mp hok).effect _ _).mp hfold).1 harchived
  · by_cases hlive : HeldLive ledger.sequence (call.accessed env ledger.state)
        ledger.state.storage ledger.lifetimes
    · obtain ⟨lifetimes, hsubmit⟩ := submit_of_heldLive settings hlive
      rw [herror] at hsubmit
      exact .inl hsubmit
    · rw [submit_eq]
      cases (call.trail env ledger.state).foldlM (settings.audit ledger.sequence)
          ledger.lifetimes with
      | none =>
        simp only [HeldLive, not_forall, not_le] at hlive
        obtain ⟨entry, hentry, hheld, harchived⟩ := hlive
        exact .inr ⟨rfl, entry, hentry, hheld, harchived⟩
      | some lifetimes =>
        rw [herror]
        exact .inl rfl

/-- **Funds are never lost to archival.** However long the contract was abandoned, a creator's
withdrawal within the recorded balance is paid out after restoring at most three entries. -/
theorem withdrawal_recoverable {token : Address} (settings : LedgerSettings) (env : Env host)
    (caller : Address) (amount : I128) (ledger : LedgerState Address Symbol World)
    (hhonouring : HonouringToken host token) (h : ReachableState host ledger.state)
    (hready : ledger.state.storage.Ready)
    (hregistered : isCreator ledger.state.storage caller = true)
    (hauth : env.authorized caller = true) (hpos : 0 < amount)
    (hle : amount ≤ getBalance ledger.state.storage caller token) :
    ∃ (labels : List (LedgerLabel host Symbol)) (restored paid : LedgerState Address Symbol World)
        (receipt : Receipt Address Symbol),
      Run (LedgerStep settings host) ledger labels restored ∧ labels.length ≤ 3 ∧
        (∀ label ∈ labels, ∃ entry, label = .restored entry) ∧
        submit settings env (.withdraw caller token amount) restored = .ok (receipt, paid) ∧
        receipt.transfers = [⟨token, host.currentContractAddress, caller, amount⟩] := by
  obtain ⟨remaining, settled, haccepted⟩ := withdrawAccepted_of_le hhonouring h hregistered hpos hle
  obtain ⟨labels, restored, hrun, hlength, hlabels, hstate, hsequence, -, hlive⟩ :=
    exists_run_restored settings ledger
      (ledger.state.storage.footprint (.withdraw caller token amount))
  rw [← hstate] at haccepted hready
  rw [← hstate, ← hsequence] at hlive
  have hok : submit settings env (.withdraw caller token amount) restored = .ok (_, ⟨_, _, _⟩) :=
    submit_eq_ok_iff_accepts.mpr ⟨.withdraw hauth hready haccepted, hlive, rfl, rfl⟩
  refine ⟨labels, restored, _, _, hrun, hlength, fun label hlabel ↦ ?_, hok, rfl⟩
  obtain ⟨entry, -, heq⟩ := hlabels label hlabel
  exact ⟨entry, heq⟩

/-- The ledger of the tipped market, a million ledgers later. -/
def abandonedLedger : MarketLedger :=
  { tippedLedger with sequence := 1005000 }

/-- After a million idle ledgers the creator of the tipped market still gets the 95 units. -/
theorem withdrawal_recoverable_in_abandonedLedger :
    ∃ (labels : List (LedgerLabel marketHost ℕ)) (restored paid : MarketLedger)
        (receipt : Receipt ℕ ℕ),
      Run (LedgerStep testSettings marketHost) abandonedLedger labels restored ∧
        submit testSettings (signedBy marketHost 3 (u64 104)) (.withdraw 3 7 (i128 95)) restored =
          .ok (receipt, paid) := by
  have hready : abandonedLedger.state.storage.Ready := ⟨by decide, by decide⟩
  have hregistered : isCreator abandonedLedger.state.storage 3 = true := by decide
  have hauth : (signedBy marketHost 3 (u64 104)).authorized 3 = true := by decide
  have hpos : 0 < i128 95 := by decide
  have hle : i128 95 ≤ getBalance abandonedLedger.state.storage 3 7 := by decide
  obtain ⟨labels, restored, paid, receipt, hrun, -, -, hpaid, -⟩ :=
    withdrawal_recoverable testSettings (signedBy marketHost 3 (u64 104)) 3 (i128 95)
      abandonedLedger (honouringToken_ledgerHost 0 9 7) tippedMarket_reachable hready hregistered
      hauth hpos hle
  exact ⟨labels, restored, paid, receipt, hrun, hpaid⟩

end StellarTip
