import StellarTip.Contract.Configuration
import StellarTip.Contract.Initialization
import StellarTip.Contract.TokenLedger

/-!
# Where the admin comes from

`init` puts its caller in office, and from then on only the holder of the office can hand it over. So
the addresses that a run puts in office form a chain, its last link is the stored admin, and every
change of the configuration is made and authorized by the link in force. A former admin is an outsider
until the office comes back.
-/

namespace StellarTip

open Foundation TipContract

variable {Address Symbol World : Type} [LinearOrder Address] {host : Host Address World}

/-- The address that a call puts in office when it is accepted. -/
def Call.appoints : Call Address Symbol → Option Address
  | .init caller .. => some caller
  | .setAdmin _ newAdmin => some newAdmin
  | _ => none

/-- The address that a step puts in office. -/
def Label.appointed : Label host Symbol → Option Address
  | .accepted _ call _ => call.appoints
  | .rejected .. | .outside => none

/-- The addresses that a run puts in office, in order. -/
def adminChain (labels : List (Label host Symbol)) : List Address :=
  labels.filterMap Label.appointed

/-- An accepted initialization. -/
def Label.IsInit : Label host Symbol → Prop
  | .accepted _ (.init ..) _ => True
  | _ => False

omit [LinearOrder Address] in
theorem adminChain_append (labels labels' : List (Label host Symbol)) :
    adminChain (labels ++ labels') = adminChain labels ++ adminChain labels' :=
  List.filterMap_append

variable [DecidableEq Symbol] {env : Env host} {state state' start stop : State Address Symbol World}
  {call : Call Address Symbol} {receipt : Receipt Address Symbol} {label : Label host Symbol}
  {labels : List (Label host Symbol)} {world : World}

/-- The admin after an accepted call: the appointed address, or whoever was there. -/
theorem Accepts.getAdmin_eq (h : Accepts env state call receipt state') :
    getAdmin state'.storage = call.appoints.or (getAdmin state.storage) := by
  cases h with
  | init => simp [getAdmin, Storage.afterInit, Call.appoints]
  | configure setter => cases call <;> cases setter <;> simp [getAdmin, Call.appoints]
  | register => simp [getAdmin, Call.appoints]
  | updateProfile => simp [getAdmin, Call.appoints]
  | unregister => simp [getAdmin, Call.appoints]
  | tip => simp [getAdmin, Call.appoints]
  | withdraw => simp [getAdmin, Call.appoints]

/-- An accepted call is the initialization of an empty contract, a configuration write of the stored
admin who authorized it, or a user call. -/
theorem Accepts.origin (h : Accepts env state call receipt state') :
    ((∃ caller feeRecipient feeBps maxCreators maxTipsPerCreator minTipAmount,
      call = .init caller feeRecipient feeBps maxCreators maxTipsPerCreator minTipAmount) ∧
        getAdmin state.storage = none) ∨
    (∃ change, call.adminChange host = some change ∧
      getAdmin state.storage = some change.caller ∧ env.authorized change.caller = true) ∨
    (call.IsUserCall ∧ getAdmin state.storage ≠ none) := by
  cases h with
  | init _ fresh => exact .inl ⟨⟨_, _, _, _, _, _, rfl⟩, fresh⟩
  | configure setter authorized admin => exact .inr (.inl ⟨_, setter, admin, authorized⟩)
  | register _ ready => exact .inr (.inr ⟨trivial, ready.admin_ne_none⟩)
  | updateProfile _ ready => exact .inr (.inr ⟨trivial, ready.admin_ne_none⟩)
  | unregister _ ready => exact .inr (.inr ⟨trivial, ready.admin_ne_none⟩)
  | tip _ ready => exact .inr (.inr ⟨trivial, ready.admin_ne_none⟩)
  | withdraw _ ready => exact .inr (.inr ⟨trivial, ready.admin_ne_none⟩)

theorem Accepts.admin_ne_none (h : Accepts env state call receipt state') :
    getAdmin state'.storage ≠ none := by
  rw [h.getAdmin_eq]
  rcases h.isInit_or_admin_stored with ⟨_, _, _, _, _, _, rfl, -, -⟩ | hadmin
  · exact Option.some_ne_none _
  · obtain ⟨admin, hget⟩ := KeyedStore.has_iff.mp hadmin
    rw [getAdmin, hget]
    cases call.appoints <;> exact Option.some_ne_none _

/-- After initialization, whoever changes the configuration is the admin and authorized it. -/
theorem Accepts.changed_by_admin (h : Accepts env state call receipt state')
    (hadmin : getAdmin state.storage ≠ none) {key : DataKey Address Symbol} (hkey : key.IsConfig)
    (hchanged : state'.storage.instanceTier.get key ≠ state.storage.instanceTier.get key) :
    ∃ change, call.adminChange host = some change ∧
      getAdmin state.storage = some change.caller ∧ env.authorized change.caller = true := by
  rcases h.origin with ⟨-, hnone⟩ | hchange | ⟨huser, -⟩
  · exact absurd hnone hadmin
  · exact hchange
  · exact absurd (h.config_eq huser hkey) hchanged

/-- The stored admin is the last address that the run put in office. -/
theorem getAdmin_eq_getLast (run : Run (Step host) (deployed Symbol world) labels state) :
    getAdmin state.storage = (adminChain labels).getLast? := by
  induction run with
  | nil => rfl
  | @snoc labels before stop label init last ih =>
    rw [adminChain_append, List.getLast?_append, ← ih]
    cases last with
    | accepted ok =>
      rw [(invoke_eq_ok_iff.mp ok).getAdmin_eq]
      congr 1
      simp only [adminChain, List.filterMap_cons, List.filterMap_nil, Label.appointed]
      split <;> simp_all
    | rejected => rfl
    | outside => rfl

/-- Without an accepted initialization nothing is stored and nobody is in office. -/
theorem storage_eq_empty_of_no_init
    (run : Run (Step host) (deployed Symbol world) labels state)
    (hnone : ∀ label ∈ labels, ¬label.IsInit) : state.storage = Storage.empty := by
  induction run with
  | nil => rfl
  | @snoc labels before stop label init last ih =>
    have hempty := ih fun label hmem ↦ hnone label (List.mem_append_left _ hmem)
    have hlabel := hnone label (List.mem_append_right _ (List.mem_singleton_self _))
    rcases last.accepts_or_storage_eq with ⟨env, call, receipt, rfl, haccepts⟩ | ⟨-, heq⟩
    · rcases haccepts.isInit_or_admin_stored with ⟨_, _, _, _, _, _, rfl, -, -⟩ | hadmin
      · exact absurd trivial hlabel
      · rw [hempty] at hadmin
        cases hadmin
    · rw [heq, hempty]

/-- In an empty contract every call but the initialization fails. -/
theorem fails_of_empty (hempty : state.storage = Storage.empty)
    (hcall : ∀ caller feeRecipient feeBps maxCreators maxTipsPerCreator minTipAmount,
      call ≠ .init caller feeRecipient feeBps maxCreators maxTipsPerCreator minTipAmount) :
    ∃ failure, invoke env call state = .error failure := by
  rcases accepts_or_refuses env call state with ⟨receipt, state', haccepts⟩ |
    ⟨failure, herror, -⟩
  · rcases haccepts.isInit_or_admin_stored with ⟨_, _, _, _, _, _, rfl, -, -⟩ | hadmin
    · exact absurd rfl (hcall _ _ _ _ _ _)
    · rw [hempty] at hadmin
      cases hadmin
  · exact ⟨failure, herror⟩

/-- An initialization is accepted only while nobody is in office. -/
theorem Step.admin_eq_none_of_isInit (h : Step host state label state') (hinit : label.IsInit) :
    getAdmin state.storage = none := by
  cases h with
  | @accepted env call receipt _ _ ok =>
    cases invoke_eq_ok_iff.mp ok with
    | init _ fresh => exact fresh
    | configure setter => cases call <;> first | exact hinit.elim | cases setter
    | _ => exact hinit.elim
  | _ => exact hinit.elim

theorem Step.admin_ne_none (h : Step host state label state')
    (hadmin : getAdmin state.storage ≠ none) : getAdmin state'.storage ≠ none := by
  rcases h.accepts_or_storage_eq with ⟨env, call, receipt, rfl, haccepts⟩ | ⟨-, heq⟩
  · exact haccepts.admin_ne_none
  · rwa [heq]

/-- Once somebody is in office, somebody always is, and no initialization is accepted. -/
theorem no_init_of_run (hadmin : getAdmin start.storage ≠ none)
    (run : Run (Step host) start labels stop) :
    getAdmin stop.storage ≠ none ∧ ∀ label ∈ labels, ¬label.IsInit := by
  induction run with
  | nil => exact ⟨hadmin, fun _ hmem ↦ (by cases hmem)⟩
  | snoc init last ih =>
    obtain ⟨hbefore, hnone⟩ := ih
    refine ⟨last.admin_ne_none hbefore, fun other hmem ↦ ?_⟩
    rcases List.mem_append.mp hmem with hprior | hlast
    · exact hnone other hprior
    · rw [List.mem_singleton.mp hlast]
      exact fun hinit ↦ hbefore (last.admin_eq_none_of_isInit hinit)

/-- The accepted initialization is the first link of the chain, and the only one of its kind. -/
theorem init_once {prior later : List (Label host Symbol)}
    (run : Run (Step host) (deployed Symbol world) (prior ++ label :: later) state)
    (hinit : label.IsInit) :
    adminChain prior = [] ∧ getAdmin state.storage ≠ none ∧
      ∀ other ∈ prior ++ later, ¬other.IsInit := by
  obtain ⟨before, after, hprior, hstep, hlater⟩ := run.exists_step
  have hbefore := hstep.admin_eq_none_of_isInit hinit
  have hafter : getAdmin after.storage ≠ none := by
    cases hstep with
    | accepted ok => exact (invoke_eq_ok_iff.mp ok).admin_ne_none
    | _ => exact hinit.elim
  obtain ⟨hstop, hnone⟩ := no_init_of_run hafter hlater
  refine ⟨List.getLast?_eq_none_iff.mp ((getAdmin_eq_getLast hprior).symm.trans hbefore), hstop,
    fun other hmem hother ↦ ?_⟩
  rcases List.mem_append.mp hmem with hmem | hmem
  · obtain ⟨first, second, rfl⟩ := List.append_of_mem hmem
    obtain ⟨_, middle, _, hfirst, hrest⟩ := hprior.exists_step
    have hmiddle : getAdmin middle.storage ≠ none := by
      cases hfirst with
      | accepted ok => exact (invoke_eq_ok_iff.mp ok).admin_ne_none
      | _ => exact hother.elim
    exact (no_init_of_run hmiddle hrest).1 hbefore
  · exact hnone other hmem hother

/-- Every handover is made and authorized by the last link of the chain. -/
theorem handover_by_admin {prior later : List (Label host Symbol)} {caller newAdmin : Address}
    (run : Run (Step host) (deployed Symbol world)
      (prior ++ .accepted env (.setAdmin caller newAdmin) receipt :: later) state) :
    env.authorized caller = true ∧ (adminChain prior).getLast? = some caller := by
  obtain ⟨before, after, hprior, hstep, -⟩ := run.exists_step
  rw [← getAdmin_eq_getLast hprior]
  cases hstep.accepts with
  | configure setter authorized admin =>
    cases setter
    exact ⟨authorized, admin⟩

omit [DecidableEq Symbol] in
theorem Call.signer_of_adminChange {change : AdminChange Address Symbol}
    (h : call.adminChange host = some change) : call.signer = change.caller := by
  cases call <;> cases h <;> rfl

/-- An address out of office stays out until it is appointed again, and meanwhile the calls that it
signs are user calls. -/
theorem outsider_of_run {former : Address} (hadmin : getAdmin start.storage ≠ none)
    (hformer : getAdmin start.storage ≠ some former) (run : Run (Step host) start labels stop)
    (happointed : ∀ label ∈ labels, label.appointed ≠ some former) :
    getAdmin stop.storage ≠ some former ∧
      ∀ (env : Env host) call receipt, .accepted env call receipt ∈ labels →
        call.signer = former → call.IsUserCall := by
  induction run with
  | nil => exact ⟨hformer, fun _ _ _ hmem ↦ (by cases hmem)⟩
  | @snoc labels before stop label init last ih =>
    obtain ⟨hbefore, huser⟩ := ih fun label hmem ↦ happointed label (List.mem_append_left _ hmem)
    have hlabel := happointed label (List.mem_append_right _ (List.mem_singleton_self _))
    have hpresent := (no_init_of_run hadmin init).1
    have hlast : getAdmin stop.storage ≠ some former ∧ ∀ (env : Env host) call receipt,
        label = .accepted env call receipt → call.signer = former → call.IsUserCall := by
      cases last with
      | @accepted env call receipt _ _ ok =>
        have haccepts := invoke_eq_ok_iff.mp ok
        change call.appoints ≠ some former at hlabel
        constructor
        · rw [haccepts.getAdmin_eq]
          cases happoints : call.appoints with
          | none => exact hbefore
          | some appointed => rwa [happoints] at hlabel
        · rintro _ _ _ ⟨rfl⟩ hsigner
          rcases haccepts.origin with ⟨-, hnone⟩ | ⟨change, setter, hcaller, -⟩ | ⟨hcall, -⟩
          · exact absurd hnone hpresent
          · rw [← Call.signer_of_adminChange setter, hsigner] at hcaller
            exact absurd hcaller hbefore
          · exact hcall
      | rejected => exact ⟨hbefore, fun _ _ _ heq ↦ (by cases heq)⟩
      | outside => exact ⟨hbefore, fun _ _ _ heq ↦ (by cases heq)⟩
    refine ⟨hlast.1, fun env call receipt hmem hsigner ↦ ?_⟩
    rcases List.mem_append.mp hmem with hprior | hnew
    · exact huser env call receipt hprior hsigner
    · exact hlast.2 env call receipt (List.mem_singleton.mp hnew).symm hsigner

/-- The admin of every state has a provenance. Before initialization nothing is stored and nothing but
`init` succeeds; `init` succeeds once; the admin is the last link of a chain that starts with its
caller and in which every link was appointed by the one before; only the admin changes the
configuration; and a former admin signs user calls only. -/
theorem admin_provenance (run : Run (Step host) (deployed Symbol world) labels state) :
    ((∀ label ∈ labels, ¬label.IsInit) → state.storage = Storage.empty ∧
      ∀ (env : Env host) (call : Call Address Symbol),
        (∀ caller feeRecipient feeBps maxCreators maxTipsPerCreator minTipAmount,
          call ≠ .init caller feeRecipient feeBps maxCreators maxTipsPerCreator minTipAmount) →
        ∃ failure, invoke env call state = .error failure) ∧
    (∀ prior label later, labels = prior ++ label :: later → label.IsInit →
      adminChain prior = [] ∧ getAdmin state.storage ≠ none ∧
        ∀ other ∈ prior ++ later, ¬other.IsInit) ∧
    getAdmin state.storage = (adminChain labels).getLast? ∧
    (∀ prior env caller newAdmin receipt later,
      labels = prior ++ .accepted env (.setAdmin caller newAdmin) receipt :: later →
        env.authorized caller = true ∧ (adminChain prior).getLast? = some caller) ∧
    (∀ (env : Env host) call receipt state',
      Step host state (.accepted env call receipt) state' →
        ∀ key : DataKey Address Symbol, key.IsConfig →
          (getAdmin state.storage ≠ none →
            state'.storage.instanceTier.get key ≠ state.storage.instanceTier.get key →
            ∃ change, call.adminChange host = some change ∧
              getAdmin state.storage = some change.caller ∧
              env.authorized change.caller = true) ∧
          (call.IsUserCall →
            state'.storage.instanceTier.get key = state.storage.instanceTier.get key)) ∧
    ∀ former labels' stop, getAdmin state.storage ≠ none → getAdmin state.storage ≠ some former →
      Run (Step host) state labels' stop → (∀ label ∈ labels', label.appointed ≠ some former) →
        ∀ (env : Env host) call receipt, .accepted env call receipt ∈ labels' →
          call.signer = former → call.IsUserCall := by
  refine ⟨fun hnone ↦ ?_, ?_, getAdmin_eq_getLast run, ?_, fun env call receipt state' hstep key hkey ↦
    ⟨fun hadmin hchanged ↦ hstep.accepts.changed_by_admin hadmin hkey hchanged,
      fun huser ↦ hstep.accepts.config_eq huser hkey⟩,
    fun former labels' stop hadmin hformer later happointed ↦
      (outsider_of_run hadmin hformer later happointed).2⟩
  · have hempty := storage_eq_empty_of_no_init run hnone
    exact ⟨hempty, fun env call hcall ↦ fails_of_empty hempty hcall⟩
  · rintro prior label later rfl hinit
    exact init_once run hinit
  · rintro prior env caller newAdmin receipt later rfl
    exact handover_by_admin run

/-- The admin of the small market hands over to another one. -/
def handedOverCalls : List MarketCall :=
  [marketInit (u32 500), (signedBy marketHost 1 (u64 101), .setAdmin 1 6)]

/-- The new admin changes the fee, and the former one registers. -/
def laterAdminCalls : List MarketCall :=
  [(signedBy marketHost 6 (u64 102), .setFeePercentage 6 (u32 100)), marketRegister 1 10]

/-- The chain of the market leads from the first admin to the second, who was appointed by the first;
what the first one does afterwards are user calls. -/
theorem admin_provenance_of_handedOver :
    getAdmin (replay marketStart handedOverCalls).2.storage =
        (adminChain (replay marketStart handedOverCalls).1).getLast? ∧
      getAdmin (replay marketStart handedOverCalls).2.storage = some 6 ∧
      (adminChain (replay marketStart (handedOverCalls.take 1)).1).getLast? = some 1 ∧
      ∀ (env : Env marketHost) call receipt,
        .accepted env call receipt ∈
            (replay (replay marketStart handedOverCalls).2 laterAdminCalls).1 →
          call.signer = 1 → call.IsUserCall := by
  obtain ⟨-, -, hchain, hhandover, -, hformer⟩ :=
    admin_provenance (run_replay handedOverCalls marketStart)
  refine ⟨hchain, by decide, ?_, ?_⟩
  · exact (hhandover (replay marketStart (handedOverCalls.take 1)).1 _ 1 6 _ _ rfl).2
  · exact hformer 1 _ _ (by decide) (by decide) (run_replay _ _) (by decide)

end StellarTip
