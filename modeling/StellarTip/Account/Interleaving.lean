import StellarTip.Custody.Commutation

/-!
# The order across accounts does not matter

User traffic is a shuffle of the histories of the single accounts: a call reads the account it acts on
and the configuration, which no user call changes. So a stretch of traffic, however its accounts are
interleaved, with whatever failed attempts in between, leaves a storage that depends only on what was
accepted on each account, in the order of that account.
-/

namespace StellarTip

open Foundation TipContract

variable {Address Symbol World : Type} [LinearOrder Address] {host : Host Address World}

/-- An accepted call with its ledger timestamp, and what it handed back. -/
structure Entry (Address Symbol : Type) where
  timestamp : U64
  call : Call Address Symbol
  receipt : Receipt Address Symbol
  deriving DecidableEq

/-- What an entry was asked to do. -/
def Entry.request (entry : Entry Address Symbol) : U64 × Call Address Symbol :=
  (entry.timestamp, entry.call)

/-- The entry of an accepted call. -/
def Label.entries : Label host Symbol → List (Entry Address Symbol)
  | .accepted env call receipt => [⟨env.timestamp, call, receipt⟩]
  | .rejected .. | .outside => []

/-- The accepted calls on the account of `owner`, in order. -/
def history (owner : Address) (labels : List (Label host Symbol)) : List (Entry Address Symbol) :=
  (labels.flatMap Label.entries).filter fun entry ↦ entry.call.account = some owner

/-- A step that leaves the configuration alone. -/
def Label.IsTraffic : Label host Symbol → Prop
  | .accepted _ call _ => call.IsUserCall
  | .rejected .. | .outside => True

/-- What a call on the account of `owner` reads: the account and the settings of the fee. -/
structure Seen (Address Symbol : Type) [LinearOrder Address] where
  account : Account Address Symbol
  feeBps : U32
  feeRecipient : Option Address

def Storage.seenBy (storage : Storage Address Symbol) (owner : Address) : Seen Address Symbol :=
  ⟨storage.account owner, getFeePercentage storage, getFeeRecipient storage⟩

/-- Everything that either of two environments authorizes. -/
def Env.join (env env' : Env host) : Env host where
  timestamp := env.timestamp
  authorized address := env.authorized address || env'.authorized address
  contract_unauthorized := by rw [env.contract_unauthorized, env'.contract_unauthorized]; rfl

omit [LinearOrder Address] in
theorem Env.join_timestamp (env env' : Env host) : (env.join env').timestamp = env.timestamp := rfl

variable [DecidableEq Symbol] {start start' stop stop' : State Address Symbol World}
  {labels labels' : List (Label host Symbol)}

/-- An accepted call is accepted whoever else has signed. -/
theorem Accepts.of_authorized {env env' : Env host} {state state' : State Address Symbol World}
    {call : Call Address Symbol} {receipt : Receipt Address Symbol}
    (h : Accepts env state call receipt state') (htime : env'.timestamp = env.timestamp)
    (hauth : ∀ address, env.authorized address = true → env'.authorized address = true) :
    Accepts env' state call receipt state' := by
  cases h with
  | init authorized fresh feeBps_le minTip_nonneg recipient_ne =>
    exact .init (hauth _ authorized) fresh feeBps_le minTip_nonneg recipient_ne
  | configure setter authorized admin valid =>
    exact .configure setter (hauth _ authorized) admin valid
  | register authorized ready displayName_le bio_le unregistered username_free below_cap
      nextCount_val =>
    rw [← htime]
    exact .register (hauth _ authorized) ready displayName_le bio_le unregistered username_free
      below_cap nextCount_val
  | updateProfile authorized ready displayName_le bio_le registered =>
    exact .updateProfile (hauth _ authorized) ready displayName_le bio_le registered
  | unregister authorized ready registered emptied =>
    exact .unregister (hauth _ authorized) ready registered emptied
  | tip authorized ready accepted =>
    rw [← htime]
    exact .tip (hauth _ authorized) ready accepted
  | withdraw authorized ready accepted => exact .withdraw (hauth _ authorized) ready accepted

/-- No user call changes the settings of the fee. -/
theorem Accepts.feeSettings_eq {env : Env host} {state state' : State Address Symbol World}
    {call : Call Address Symbol} {receipt : Receipt Address Symbol}
    (h : Accepts env state call receipt state') (huser : call.IsUserCall) :
    getFeePercentage state'.storage = getFeePercentage state.storage ∧
      getFeeRecipient state'.storage = getFeeRecipient state.storage := by
  have hfeeBps : state'.storage.instanceTier.get .feeBps = _ := h.config_eq huser trivial
  have hrecipient : state'.storage.instanceTier.get .feeRecipient = _ := h.config_eq huser trivial
  exact ⟨congrArg (Option.getD · 0) hfeeBps, hrecipient⟩

/-- A call on the account of `owner`, as the account sees it. -/
def OwnStep (host : Host Address World) (owner : Address) (seen : Seen Address Symbol)
    (entry : Entry Address Symbol) (seen' : Seen Address Symbol) : Prop :=
  ∃ (env : Env host) (state state' : State Address Symbol World),
    Accepts env state entry.call entry.receipt state' ∧ env.timestamp = entry.timestamp ∧
      entry.call.account = some owner ∧ state.storage.seenBy owner = seen ∧
      state'.storage.seenBy owner = seen'

/-- The account and the request determine the receipt and the account after. -/
theorem OwnStep.unique {owner : Address} {seen next next' : Seen Address Symbol}
    {entry entry' : Entry Address Symbol} (h : OwnStep host owner seen entry next)
    (h' : OwnStep host owner seen entry' next') (hrequest : entry.request = entry'.request) :
    entry = entry' ∧ next = next' := by
  obtain ⟨timestamp, call, receipt⟩ := entry
  obtain ⟨timestamp', call', receipt'⟩ := entry'
  cases hrequest
  obtain ⟨env, before, after, haccepts, htime, hcall, rfl, rfl⟩ := h
  obtain ⟨env', before', after', haccepts', htime', -, hseen, rfl⟩ := h'
  obtain ⟨haccount, hfeeBps, hrecipient⟩ := Seen.mk.inj hseen
  have hboth := haccepts.of_authorized (env.join_timestamp env')
    fun _ hauth ↦ Bool.or_eq_true_iff.mpr (.inl hauth)
  have hboth' := haccepts'.of_authorized ((env.join_timestamp env').trans (htime.trans htime'.symm))
    fun _ hauth ↦ Bool.or_eq_true_iff.mpr (.inr hauth)
  have hstep' := hboth'.accountStep owner
  rw [haccount, hfeeBps] at hstep'
  obtain ⟨hnext, hreturned, hevents⟩ := (hboth.accountStep owner).unique hstep' hcall
  have htransfers := hboth.transfers_unique hboth' hfeeBps.symm hrecipient.symm
  have huser := Call.isUserCall_of_account hcall
  have hfees := haccepts.feeSettings_eq huser
  have hfees' := haccepts'.feeSettings_eq huser
  constructor
  · cases receipt
    cases receipt'
    simp_all only
  · rw [Storage.seenBy, Storage.seenBy, hnext, hfees.1, hfees.2, hfees'.1, hfees'.2, hfeeBps,
      hrecipient]

/-- A stretch of traffic, seen from one account, is a run of that account alone. -/
theorem ownRun_of_run (owner : Address)
    (run : Run (restrict (Step host) fun _ label ↦ label.IsTraffic) start labels stop) :
    Run (OwnStep host owner) (start.storage.seenBy owner) (history owner labels)
      (stop.storage.seenBy owner) := by
  rw [history, List.filter_flatMap]
  refine run.simulate (fun state ↦ state.storage.seenBy owner) ?_
  rintro before label after ⟨hstep, htraffic⟩
  cases hstep with
  | rejected | outside => exact .nil
  | @accepted env call receipt _ _ ok =>
    have haccepts := invoke_eq_ok_iff.mp ok
    by_cases hcall : call.account = some owner
    · have hown : OwnStep host owner (before.storage.seenBy owner)
          ⟨env.timestamp, call, receipt⟩ (after.storage.seenBy owner) :=
        ⟨env, before, after, haccepts, rfl, hcall, rfl, rfl⟩
      simpa [Label.entries, hcall] using Run.single hown
    · have hkept : after.storage.seenBy owner = before.storage.seenBy owner := by
        obtain ⟨hfeeBps, hrecipient⟩ := haccepts.feeSettings_eq htraffic
        rw [Storage.seenBy, Storage.seenBy, (haccepts.accountStep owner).eq_of_account_ne hcall,
          hfeeBps, hrecipient]
      rw [hkept]
      simpa [Label.entries, hcall] using Run.nil

omit [DecidableEq Symbol] [LinearOrder Address] in
/-- Lists with the same fibers are permutations of each other. -/
theorem perm_of_filter_eq {α κ : Type} [DecidableEq α] [DecidableEq κ] (key : α → κ)
    {values values' : List α}
    (h : ∀ k, values.filter (fun value ↦ key value = k) = values'.filter fun value ↦ key value = k) :
    values.Perm values' := by
  refine List.perm_iff_count.mpr fun value ↦ ?_
  have hfiber := congrArg (List.count value) (h (key value))
  rwa [List.count_filter (by simp), List.count_filter (by simp)] at hfiber

/-- With exact tokens and nothing happening outside, a ledger moves by the transfers of the accepted
calls. -/
theorem balance_of_run (hexact : ∀ token, ExactToken host token)
    (run : Run (Step host) start labels stop) (hinside : .outside ∉ labels) (token holder : Address) :
    host.balance stop.world token holder = host.balance start.world token holder +
      ((labels.flatMap Label.entries).map fun entry ↦
        netInflow holder token entry.receipt.transfers).sum := by
  induction run with
  | nil => simp
  | @snoc labels before stop label init last ih =>
    rw [List.mem_append, not_or, List.mem_singleton] at hinside
    rw [List.flatMap_append, List.map_append, List.sum_append, ← add_assoc, ← ih hinside.1]
    cases last with
    | accepted ok =>
      rw [(invoke_eq_ok_iff.mp ok).balance_of_exact fun _ _ ↦ hexact _]
      simp [Label.entries]
    | rejected => simp [Label.entries]
    | outside => exact absurd rfl hinside.2

omit [DecidableEq Symbol] [LinearOrder Address] in
theorem Call.account_ne_none {call : Call Address Symbol} (huser : call.IsUserCall) :
    call.account ≠ none := by
  cases call <;> first | exact Option.some_ne_none _ | exact huser.elim

/-- Traffic keeps the configuration, and every accepted call of it is on some account. -/
theorem traffic_of_run
    (run : Run (restrict (Step host) fun _ label ↦ label.IsTraffic) start labels stop) :
    (∀ key : DataKey Address Symbol, key.IsConfig →
      stop.storage.instanceTier.get key = start.storage.instanceTier.get key) ∧
      ∀ entry ∈ labels.flatMap Label.entries, entry.call.account ≠ none := by
  induction run with
  | nil => exact ⟨fun _ _ ↦ rfl, fun _ hmem ↦ (List.not_mem_nil hmem).elim⟩
  | snoc init last ih =>
    obtain ⟨hstep, htraffic⟩ := last
    rw [List.flatMap_append, List.flatMap_singleton]
    simp only [List.mem_append]
    cases hstep with
    | accepted ok =>
      refine ⟨fun key hkey ↦ ?_, fun entry hmem ↦ hmem.elim (ih.2 entry) fun hlast ↦ ?_⟩
      · rw [(invoke_eq_ok_iff.mp ok).config_eq htraffic hkey, ih.1 key hkey]
      · rw [List.mem_singleton.mp hlast]
        exact Call.account_ne_none htraffic
    | rejected | outside =>
      exact ⟨ih.1, fun entry hmem ↦ hmem.elim (ih.2 entry) fun hnil ↦ (List.not_mem_nil hnil).elim⟩

/-- **Interleavings agree.** Two stretches of user traffic from the same storage, in which the same
calls are accepted on each account in the same order and at the same times, end in the same storage
and hand back the same receipts, however the accounts are interleaved and whatever fails in between;
with exact tokens the ledgers agree as well. -/
theorem interleavings_agree (h : ReachableState host start) (h' : ReachableState host start')
    (hstart : start.storage = start'.storage)
    (run : Run (restrict (Step host) fun _ label ↦ label.IsTraffic) start labels stop)
    (run' : Run (restrict (Step host) fun _ label ↦ label.IsTraffic) start' labels' stop')
    (hsame : ∀ owner,
      (history owner labels).map Entry.request = (history owner labels').map Entry.request) :
    stop.storage = stop'.storage ∧ (∀ owner, history owner labels = history owner labels') ∧
      ((∀ token, ExactToken host token) → .outside ∉ labels → .outside ∉ labels' →
        ∀ token holder, host.balance stop.world token holder - host.balance start.world token holder =
          host.balance stop'.world token holder - host.balance start'.world token holder) := by
  have hown (owner : Address) : history owner labels = history owner labels' ∧
      stop.storage.seenBy owner = stop'.storage.seenBy owner := by
    have hrun' := ownRun_of_run owner run'
    rw [← hstart] at hrun'
    exact (ownRun_of_run owner run).deterministic
      (fun _ _ _ _ _ hstep hstep' hrequest ↦ hstep.unique hstep' hrequest) hrun' (hsame owner)
  refine ⟨storage_eq_of_accounts (h.run run.unrestrict) (h'.run run'.unrestrict)
    (fun key hkey ↦ ?_) fun owner ↦ congrArg Seen.account (hown owner).2, fun owner ↦ (hown owner).1,
    fun hexact hinside hinside' token holder ↦ ?_⟩
  · rw [(traffic_of_run run).1 key hkey, hstart, (traffic_of_run run').1 key hkey]
  · have hperm : (labels.flatMap Label.entries).Perm (labels'.flatMap Label.entries) := by
      refine perm_of_filter_eq (fun entry ↦ entry.call.account) fun account ↦ ?_
      cases account with
      | some owner => exact (hown owner).1
      | none =>
        have hnone {entries : List (Entry Address Symbol)}
            (haccount : ∀ entry ∈ entries, entry.call.account ≠ none) :
            entries.filter (fun entry ↦ entry.call.account = none) = [] := by
          simpa using haccount
        rw [hnone (traffic_of_run run).2, hnone (traffic_of_run run').2]
    rw [balance_of_run hexact run.unrestrict hinside, balance_of_run hexact run'.unrestrict hinside',
      add_sub_cancel_left, add_sub_cancel_left]
    exact (hperm.map _).sum_eq

/-- Three calls on the two accounts of the shared market. -/
def marketTraffic : List MarketCall :=
  [marketWithdraw 3 7 (i128 40), marketTip 3 8 (i128 20) (u64 105),
    marketTip 4 7 (i128 10) (u64 104)]

/-- The same calls in another order, and a creator who fails to leave. -/
def shuffledTraffic : List MarketCall :=
  [marketTip 4 7 (i128 10) (u64 104), marketWithdraw 3 7 (i128 40), marketUnregister 3,
    marketTip 3 8 (i128 20) (u64 105)]

theorem interleavings_agree_in_sharedMarket :
    (replay sharedMarket marketTraffic).2.storage =
      (replay sharedMarket shuffledTraffic).2.storage := by
  have hsame (owner : ℕ) : (history owner (replay sharedMarket marketTraffic).1).map Entry.request =
      (history owner (replay sharedMarket shuffledTraffic).1).map Entry.request := by
    by_cases h3 : owner = 3
    · subst h3
      decide
    by_cases h4 : owner = 4
    · subst h4
      decide
    have hnone {entries : List (Entry ℕ ℕ)}
        (hentries : ∀ entry ∈ entries, entry.call.account = some 3 ∨ entry.call.account = some 4) :
        entries.filter (fun entry ↦ entry.call.account = some owner) = [] := by
      refine List.filter_eq_nil_iff.mpr fun entry hmem ↦ ?_
      rcases hentries entry hmem with heq | heq <;> simp [heq, Ne.symm h3, Ne.symm h4]
    rw [history, history, hnone (by decide), hnone (by decide)]
  exact (interleavings_agree sharedMarket_reachable sharedMarket_reachable rfl
    (run_replay_of_allowed marketTraffic _ ⟨trivial, trivial, trivial, trivial⟩)
    (run_replay_of_allowed shuffledTraffic _ ⟨trivial, trivial, trivial, trivial, trivial⟩)
    hsame).1

end StellarTip
