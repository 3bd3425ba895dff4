import StellarTip.Account.Credit

/-!
# The event log determines the ledger

An indexer sees the events of successful calls and nothing else. Folding them in order reproduces the
recorded balances, the registered creators with their usernames and tip counters, and the part of the
configuration that governs fees and administration. The proof is a simulation: one accepted call
publishes one event, and applying it keeps the indexer in step with the storage.
-/

namespace StellarTip

open Foundation TipContract

variable {Address Symbol World : Type} [LinearOrder Address] {host : Host Address World}

/-- What a `TIP` event adds to the balance of a creator in a token. -/
def Event.credited (creator token : Address) : Event Address Symbol → ℤ
  | .tipSent _ tipped paid amount fee _ =>
      if tipped = creator ∧ paid = token then amount.val - fee.val else 0
  | _ => 0

/-- What a `WDRW` event takes from the balance of a creator in a token. -/
def Event.debited (creator token : Address) : Event Address Symbol → ℤ
  | .withdraw caller paid amount => if caller = creator ∧ paid = token then amount.val else 0
  | _ => 0

/-- What an indexer derives from the events alone. -/
structure Index (Address Symbol : Type) where
  credit : Address → Address → ℤ
  username : Address → Option Symbol
  tipCount : Address → ℕ
  admin : Option Address
  paused : Option Bool
  feeBps : Option U32
  feeRecipient : Option Address

namespace Index

def empty : Index Address Symbol := ⟨fun _ _ ↦ 0, fun _ ↦ none, fun _ ↦ 0, none, none, none, none⟩

/-- The effect of one event. A `CREG` starts the tip counter of its creator at zero. -/
def apply (index : Index Address Symbol) (event : Event Address Symbol) : Index Address Symbol where
  credit creator token :=
    index.credit creator token + event.credited creator token - event.debited creator token
  username address :=
    match event with
    | .creatorRegistered caller username _ =>
        if caller = address then some username else index.username address
    | .creatorUnregistered caller => if caller = address then none else index.username address
    | _ => index.username address
  tipCount address :=
    match event with
    | .creatorRegistered caller _ _ => if caller = address then 0 else index.tipCount address
    | .tipSent _ creator _ _ _ _ =>
        if creator = address then index.tipCount address + 1 else index.tipCount address
    | _ => index.tipCount address
  admin :=
    match event with
    | .init caller _ _ => some caller
    | .adminChanged _ newAdmin => some newAdmin
    | _ => index.admin
  paused :=
    match event with
    | .init _ _ _ => some false
    | .paused _ => some true
    | .unpaused _ => some false
    | _ => index.paused
  feeBps :=
    match event with
    | .init _ _ feeBps => some feeBps
    | .feeChanged _ feeBps => some feeBps
    | _ => index.feeBps
  feeRecipient :=
    match event with
    | .init _ feeRecipient _ => some feeRecipient
    | .feeRecipientChanged _ feeRecipient => some feeRecipient
    | _ => index.feeRecipient

@[simp]
theorem credit_apply (index : Index Address Symbol) (event : Event Address Symbol)
    (creator token : Address) :
    (index.apply event).credit creator token =
      index.credit creator token + event.credited creator token - event.debited creator token := rfl

/-- The indexer after a log of events. -/
def fold (events : List (Event Address Symbol)) : Index Address Symbol :=
  events.foldl apply empty

theorem fold_append_singleton (events : List (Event Address Symbol)) (event : Event Address Symbol) :
    fold (events ++ [event]) = (fold events).apply event := by
  rw [fold, List.foldl_append]
  rfl

/-- The credit of the indexer is the sum over the `TIP` events less the sum over the `WDRW` events. -/
theorem credit_fold (events : List (Event Address Symbol)) (creator token : Address) :
    (fold events).credit creator token =
      (events.map (Event.credited creator token)).sum -
        (events.map (Event.debited creator token)).sum := by
  induction events using List.reverseRecOn with
  | nil => rfl
  | append_singleton events event ih =>
    simp only [List.map_append, List.map_cons, List.map_nil, List.sum_append, List.sum_singleton]
    calc
      _ = (fold events).credit creator token + event.credited creator token -
          event.debited creator token := by rw [fold_append_singleton, credit_apply]
      _ = (events.map (Event.credited creator token)).sum -
          (events.map (Event.debited creator token)).sum + event.credited creator token -
          event.debited creator token := by rw [ih]
      _ = _ := by omega

end Index

/-- The address whose account an event reports on. -/
def Event.account : Event Address Symbol → Option Address
  | .creatorRegistered caller _ _ | .profileUpdated caller _ _ | .creatorUnregistered caller
  | .withdraw caller _ _ => some caller
  | .tipSent _ creator _ _ _ _ => some creator
  | _ => none

/-- The indexer agrees with one account; it counts tips for registered creators only. -/
structure IndexedAccount (index : Index Address Symbol) (owner : Address)
    (account : Account Address Symbol) : Prop where
  credit : ∀ token, index.credit owner token = (account.balance token).val
  username : index.username owner = account.profile.map CreatorProfile.username
  tipCount : account.profile ≠ none → (index.tipCount owner : ℤ) = account.count.val

namespace IndexedAccount

variable {index : Index Address Symbol} {owner : Address} {account account' : Account Address Symbol}
  {env : Env host} {feeBps : U32} {call : Call Address Symbol} {receipt : Receipt Address Symbol}
  {event : Event Address Symbol}

/-- An event of another account changes nothing for this one. -/
theorem apply_of_account_ne (h : IndexedAccount index owner account)
    (hne : event.account ≠ some owner) : IndexedAccount (index.apply event) owner account := by
  have hcases : ∀ token, event.credited owner token = 0 ∧ event.debited owner token = 0 := by
    intro token
    cases event <;> simp_all [Event.credited, Event.debited, Event.account]
  have hindex : (index.apply event).username owner = index.username owner ∧
      (index.apply event).tipCount owner = index.tipCount owner := by
    cases event <;> simp_all [Index.apply, Event.account]
  constructor
  · intro token
    rw [Index.credit_apply, (hcases token).1, (hcases token).2, h.credit, add_zero, sub_zero]
  · rw [hindex.1, h.username]
  · rw [hindex.2]
    exact h.tipCount

/-- The event of a step keeps the indexer in agreement with the account. -/
theorem step (h : IndexedAccount index owner account)
    (hstep : Account.Step env feeBps owner account call receipt account')
    (hevents : receipt.events = [event]) (haccount : event.account = call.account) :
    IndexedAccount (index.apply event) owner account' := by
  cases hstep with
  | opened =>
    obtain rfl := List.singleton_inj.mp hevents
    exact
      { credit := fun token ↦ by simp [Event.credited, Event.debited, h.credit]
        username := by simp [Index.apply, Account.opened]
        tipCount := fun _ ↦ by simp [Index.apply] }
  | @edited _ _ profile _ registered =>
    obtain rfl := List.singleton_inj.mp hevents
    have husername := h.username
    rw [registered] at husername
    exact
      { credit := fun token ↦ by simp [Event.credited, Event.debited, h.credit]
        username := husername
        tipCount := fun _ ↦ h.tipCount (by rw [registered]; exact Option.some_ne_none _) }
  | closed =>
    obtain rfl := List.singleton_inj.mp hevents
    exact
      { credit := fun token ↦ by simp [Event.credited, Event.debited, h.credit]
        username := by simp [Index.apply, Account.closed]
        tipCount := fun hnone ↦ absurd rfl hnone }
  | @credited _ tipped amount fee newBalance _ _ _ registered _ _ newBalance_val nextIndex_val =>
    obtain rfl := List.singleton_inj.mp hevents
    refine ⟨fun token ↦ ?_, h.username, fun _ ↦ ?_⟩
    · rw [Index.credit_apply, Account.balance_credited, h.credit]
      by_cases htoken : token = tipped
      · subst htoken
        simp [Event.credited, Event.debited, newBalance_val]
      · simp [Event.credited, Event.debited, htoken, Ne.symm htoken]
    · have hcount := h.tipCount registered
      rw [Account.count_credited, nextIndex_val]
      simp [Index.apply, hcount]
  | @debited withdrawn amount remaining _ registered _ sufficient remaining_val =>
    obtain rfl := List.singleton_inj.mp hevents
    have hnonneg := Account.remaining_nonneg sufficient remaining_val
    refine ⟨fun token ↦ ?_, ?_, fun _ ↦ ?_⟩
    · rw [Index.credit_apply, Account.balance_debited _ _ _ hnonneg, h.credit]
      by_cases htoken : token = withdrawn
      · subst htoken
        simp [Event.credited, Event.debited, remaining_val]
      · simp [Event.credited, Event.debited, htoken, Ne.symm htoken]
    · rw [Account.profile_debited]
      exact h.username
    · rw [Account.count_debited]
      exact h.tipCount registered
  | other hother => exact h.apply_of_account_ne (haccount ▸ hother)

end IndexedAccount

variable [DecidableEq Symbol]

/-- The indexer agrees with the configuration entries that it follows. -/
structure IndexedConfiguration (index : Index Address Symbol) (storage : Storage Address Symbol) :
    Prop where
  admin : index.admin = getAdmin storage
  paused : index.paused = storage.instanceTier.get .paused
  feeBps : index.feeBps = storage.instanceTier.get .feeBps
  feeRecipient : index.feeRecipient = getFeeRecipient storage

/-- The indexer agrees with every account and with the configuration. -/
structure Indexed (index : Index Address Symbol) (storage : Storage Address Symbol) : Prop
    extends IndexedConfiguration index storage where
  accounts : ∀ owner, IndexedAccount index owner (storage.account owner)

variable {index : Index Address Symbol} {env : Env host} {call : Call Address Symbol}
  {receipt : Receipt Address Symbol} {event : Event Address Symbol}
  {state state' : State Address Symbol World} {label : Label host Symbol}
  {labels : List (Label host Symbol)} {world : World}

/-- An accepted call publishes one event, about the account that it acts on. -/
theorem Accepts.exists_event (h : Accepts env state call receipt state') :
    ∃ event, receipt.events = [event] ∧ event.account = call.account := by
  cases h with
  | configure setter => cases call <;> first | exact ⟨_, rfl, by cases setter; rfl⟩ | cases setter
  | _ => exact ⟨_, rfl, rfl⟩

theorem IndexedConfiguration.step (h : IndexedConfiguration index state.storage)
    (haccepts : Accepts env state call receipt state') (hevents : receipt.events = [event]) :
    IndexedConfiguration (index.apply event) state'.storage := by
  obtain ⟨hadmin, hpaused, hfeeBps, hfeeRecipient⟩ := h
  cases haccepts with
  | init =>
    obtain rfl := List.singleton_inj.mp hevents
    constructor <;> simp [Index.apply, Storage.afterInit, getAdmin, getFeeRecipient]
  | configure setter =>
    obtain rfl := List.singleton_inj.mp hevents
    cases call <;> cases setter <;> constructor <;>
      simp_all [Index.apply, getAdmin, getFeeRecipient]
  | _ =>
    obtain rfl := List.singleton_inj.mp hevents
    constructor <;> simp_all [Index.apply, getAdmin, getFeeRecipient]

/-- One step of the contract and the events of the step. -/
theorem Indexed.step (h : Indexed index state.storage) (hstep : Step host state label state') :
    Indexed (label.events.foldl Index.apply index) state'.storage := by
  rcases hstep.accepts_or_storage_eq with ⟨env, call, receipt, rfl, haccepts⟩ | ⟨hnone, heq⟩
  · obtain ⟨event, hevents, haccount⟩ := haccepts.exists_event
    rw [Label.events, hevents]
    exact
      { toIndexedConfiguration := h.toIndexedConfiguration.step haccepts hevents
        accounts := fun owner ↦
          (h.accounts owner).step (haccepts.accountStep owner) hevents haccount }
  · rw [hnone, heq]
    exact h

theorem indexed_of_run (run : Run (Step host) (deployed Symbol world) labels state) :
    Indexed (Index.fold (eventLog labels)) state.storage := by
  induction run with
  | nil =>
    exact
      { admin := rfl
        paused := rfl
        feeBps := rfl
        feeRecipient := rfl
        accounts := fun _ ↦ ⟨fun _ ↦ rfl, rfl, fun hnone ↦ absurd rfl hnone⟩ }
  | snoc init last ih =>
    have hlog := ih.step last
    rw [Index.fold, ← List.foldl_append] at hlog
    simpa [eventLog, Index.fold] using hlog

/-- A `TIP` event carries the tips counted so far as its index, and its fee is what the call sent to
the fee recipient after receiving the amount. -/
theorem tipSent_of_step (hreach : ReachableState host state) (h : Indexed index state.storage)
    (hstep : Step host state label state') {sender creator token : Address} {amount fee : I128}
    {k : U64} (hevent : Event.tipSent sender creator token amount fee k ∈ label.events) :
    k.val = index.tipCount creator ∧
      ∃ recipient, index.feeRecipient = some recipient ∧
        label.transfers = ⟨token, sender, host.currentContractAddress, amount⟩ ::
          if 0 < fee then [⟨token, host.currentContractAddress, recipient, fee⟩] else [] := by
  rcases hstep.accepts_or_storage_eq with ⟨env, call, receipt, rfl, haccepts⟩ | ⟨hnone, -⟩
  · cases haccepts with
    | tip _ ready accepted =>
      cases List.mem_singleton.mp hevent
      refine ⟨((h.accounts creator).tipCount ((isCreator_iff _ _).mp accepted.registered)).symm, ?_⟩
      obtain ⟨recipient, hrecipient⟩ :=
        Option.ne_none_iff_exists'.mp (feeRecipient_ne_none hreach ready)
      refine ⟨recipient, h.feeRecipient.trans hrecipient, ?_⟩
      obtain ⟨deposited, -, hforward⟩ := accepted.moved
      cases hforward with
      | free hfree => rw [if_neg (not_lt.mpr hfree), Label.transfers]
      | paid hpos configured =>
        obtain rfl := Option.some.inj (configured.symm.trans hrecipient)
        rw [if_pos hpos, Label.transfers]
    | configure setter =>
      cases call <;> cases setter <;> cases List.mem_singleton.mp hevent
    | _ => cases List.mem_singleton.mp hevent
  · rw [hnone] at hevent
    cases hevent

/-- Folding the events of a run reproduces the ledger, each tip event reports its index and its fee
truthfully, and failed calls neither emit nor change anything. -/
theorem event_log_determines_ledger
    (run : Run (Step host) (deployed Symbol world) labels state) :
    Indexed (Index.fold (eventLog labels)) state.storage ∧
    (∀ creator token, (getBalance state.storage creator token).val =
      ((eventLog labels).map (Event.credited creator token)).sum -
        ((eventLog labels).map (Event.debited creator token)).sum) ∧
    (∀ before label after, labels = before ++ label :: after →
      ∀ sender creator token amount fee k,
        Event.tipSent sender creator token amount fee k ∈ label.events →
          k.val = (Index.fold (eventLog before)).tipCount creator ∧
          ∃ recipient, (Index.fold (eventLog before)).feeRecipient = some recipient ∧
            label.transfers = ⟨token, sender, host.currentContractAddress, amount⟩ ::
              if 0 < fee then [⟨token, host.currentContractAddress, recipient, fee⟩] else []) ∧
    ∀ (env : Env host) call failure state',
      Step host state (.rejected env call failure) state' →
        (Label.rejected env call failure).events = [] ∧ state' = state := by
  refine ⟨indexed_of_run run, fun creator token ↦ ?_, ?_, fun env call failure state' hstep ↦ ?_⟩
  · rw [← Index.credit_fold, ((indexed_of_run run).accounts creator).credit,
      Storage.account_balance]
  · rintro before label after rfl sender creator token amount fee k hevent
    obtain ⟨start, stop, hfirst, hstep, -⟩ := run.exists_step
    exact tipSent_of_step (.of_deployed hfirst) (indexed_of_run hfirst) hstep hevent
  · cases hstep with
    | rejected => exact ⟨rfl, rfl⟩

/-- In the busy market the indexer follows the log, the credits and the payment of the creator who left
add up, and the sixth call reports the index that the indexer expects. -/
theorem event_log_of_busyMarket :
    Indexed (Index.fold (eventLog (replay marketStart busyMarketCalls).1))
      (replay marketStart busyMarketCalls).2.storage ∧
    (getBalance (replay marketStart busyMarketCalls).2.storage 3 7).val = 95 + 57 - 152 ∧
    (u64 1).val =
      (Index.fold (eventLog (replay marketStart (busyMarketCalls.take 5)).1)).tipCount 3 := by
  obtain ⟨hindexed, hcredit, htip, -⟩ :=
    event_log_determines_ledger (run_replay busyMarketCalls marketStart)
  refine ⟨hindexed, hcredit 3 7, ?_⟩
  exact (htip (replay marketStart (busyMarketCalls.take 5)).1 _ _ rfl 5 3 7 (i128 60) (i128 3) (u64 1)
    (List.mem_singleton_self _)).1

end StellarTip
