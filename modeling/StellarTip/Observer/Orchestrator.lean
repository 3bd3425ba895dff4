import StellarTip.Observer.Network

/-!
# The orchestrator of `examples/rust`

A contract that forwards tips and registrations to an address given by its caller, and publishes an
event of its own after each. An orchestrator never gets control while it waits for the called
contract. When the address is that of StellarTip, an `ORCH_TIP` stands for the `TIP` right before it. The
orchestrator does not check the address, and for another address its event stands for nothing.
-/

namespace StellarTip

open Foundation

variable {Address Symbol World : Type} [LinearOrder Address] [DecidableEq Symbol]
  {host : Host Address World} {encoding : Encoding Address Symbol} {orchestrator : Address}

def Network.publish (net : Network Address Symbol World) (emitter : Address)
    (event : WireEvent Address Symbol) : Network Address Symbol World :=
  { net with log := net.log ++ [⟨emitter, event⟩] }

/-- The deed publishes nothing under an address. -/
def Deed.Spares (encoding : Encoding Address Symbol) (address : Address) (deed : Deed host Symbol) :
    Prop :=
  ∀ emission ∈ deed.emissions host encoding, emission.emitter ≠ address

/-- What the clients generated by `contractimport!` do at each address in one invocation of the
orchestrator. At the address of StellarTip its entry point runs, elsewhere anything may happen that the
called contract can bring about. -/
structure Clients (host : Host Address World) (encoding : Encoding Address Symbol)
    (orchestrator : Address) where
  call : Address → Call Address Symbol →
    Transaction (Network Address Symbol World) Failure (Option U64)
  call_contract : ∀ {request : Call Address Symbol} {returned : Option U64}
    {net net' : Network Address Symbol World},
    (call host.currentContractAddress request).run net = .ok (returned, net') →
      ∃ env receipt inner, returned = receipt.returned ∧
        Does host encoding net (.contract (.accepted env request receipt) inner) net' ∧
        (Deed.contract (.accepted env request receipt) inner).Spares encoding orchestrator
  call_foreign : ∀ {target : Address} {request : Call Address Symbol} {returned : Option U64}
    {net net' : Network Address Symbol World}, target ≠ host.currentContractAddress →
    (call target request).run net = .ok (returned, net') →
      ∃ deeds, Run (restrict (Does host encoding) fun _ deed ↦ deed.Spares encoding orchestrator)
        net deeds net'

namespace StellarTipOrchestrator

/-- The first argument of `publish` in `submit_tip`, and the second. -/
def tipForwarded (encoding : Encoding Address Symbol) (sender creator : Address) (index : U64)
    (amount : I128) : WireEvent Address Symbol :=
  ⟨[encoding.literal "ORCH_TIP", .address sender], .vec [.address creator, .u64 index, .i128 amount]⟩

def creatorForwarded (encoding : Encoding Address Symbol) (caller : Address) (username : Symbol) :
    WireEvent Address Symbol :=
  ⟨[encoding.literal "ORCH_REG", .address caller], .symbol username⟩

variable (clients : Clients host encoding orchestrator) (authorized : Address → Bool)

/-- Forward a single tip into StellarTip. A result that is no `u64` traps in the client. -/
def submitTip (sender stellarTip creator token : Address) (amount : I128) (message : HostString) :
    Transaction (Network Address Symbol World) Failure U64 := do
  Transaction.rejectIf (authorized sender = false) .unauthorized
  let returned ← clients.call stellarTip (.tip sender creator token amount message)
  let index ← Transaction.demand returned (.callee .trap)
  Transaction.update fun net ↦
    net.publish orchestrator (tipForwarded encoding sender creator index amount)
  return index

/-- Forward a creator registration to StellarTip. -/
def registerCreator (caller stellarTip : Address) (username : Symbol)
    (displayName bio : HostString) : Transaction (Network Address Symbol World) Failure Unit := do
  Transaction.rejectIf (authorized caller = false) .unauthorized
  let _ ← clients.call stellarTip (.register caller username displayName bio)
  Transaction.update fun net ↦
    net.publish orchestrator (creatorForwarded encoding caller username)

variable {clients authorized} {net net' : Network Address Symbol World}
  {sender caller stellarTip creator token : Address} {amount : I128} {message : HostString}
  {index : U64} {username : Symbol} {displayName bio : HostString}

theorem run_submitTip_eq_ok :
    (submitTip clients authorized sender stellarTip creator token amount message).run net =
        .ok (index, net') ↔
      authorized sender = true ∧
        ∃ mid, (clients.call stellarTip (.tip sender creator token amount message)).run net =
            .ok (some index, mid) ∧
          net' = mid.publish orchestrator (tipForwarded encoding sender creator index amount) := by
  unfold submitTip
  simp only [Transaction.run_bind_eq_ok, Transaction.run_rejectIf_eq_ok,
    Transaction.run_demand_eq_ok, Transaction.run_update_eq_ok, Transaction.run_pure_eq_ok,
    Bool.not_eq_false]
  constructor
  · rintro ⟨-, _, ⟨hauth, rfl⟩, _, _, hcall, _, mid, ⟨rfl, rfl⟩, -, _, rfl, rfl, rfl⟩
    exact ⟨hauth, mid, hcall, rfl⟩
  · rintro ⟨hauth, mid, hcall, rfl⟩
    exact ⟨(), net, ⟨hauth, rfl⟩, some index, mid, hcall, index, mid, ⟨rfl, rfl⟩, (), _, rfl, rfl, rfl⟩

theorem run_registerCreator_eq_ok :
    (registerCreator clients authorized caller stellarTip username displayName bio).run net =
        .ok ((), net') ↔
      authorized caller = true ∧
        ∃ returned mid, (clients.call stellarTip (.register caller username displayName bio)).run net =
            .ok (returned, mid) ∧
          net' = mid.publish orchestrator (creatorForwarded encoding caller username) := by
  unfold registerCreator
  simp only [Transaction.run_bind_eq_ok, Transaction.run_rejectIf_eq_ok,
    Transaction.run_update_eq_ok, Bool.not_eq_false]
  constructor
  · rintro ⟨-, _, ⟨hauth, rfl⟩, returned, mid, hcall, rfl⟩
    exact ⟨hauth, returned, mid, hcall, rfl⟩
  · rintro ⟨hauth, returned, mid, hcall, rfl⟩
    exact ⟨(), net, ⟨hauth, rfl⟩, returned, mid, hcall, rfl⟩

end StellarTipOrchestrator

/-- What happens on a network with an orchestrator. -/
inductive Undertaking (host : Host Address World) (Symbol : Type) where
  | deed (deed : Deed host Symbol)
  | submitTip (sender stellarTip creator token : Address) (amount : I128) (message : HostString)
      (index : U64)
  | registerCreator (caller stellarTip : Address) (username : Symbol) (displayName bio : HostString)

namespace Undertaking

/-- The address that an invocation of the orchestrator is forwarded to. -/
def target : Undertaking host Symbol → Option Address
  | deed _ => none
  | submitTip _ stellarTip .. | registerCreator _ stellarTip .. => some stellarTip

/-- The event of the orchestrator. -/
def forwarded (encoding : Encoding Address Symbol) :
    Undertaking host Symbol → Option (WireEvent Address Symbol)
  | deed _ => none
  | submitTip sender _ creator _ amount _ index =>
      some (StellarTipOrchestrator.tipForwarded encoding sender creator index amount)
  | registerCreator caller _ username _ _ =>
      some (StellarTipOrchestrator.creatorForwarded encoding caller username)

end Undertaking

/-- One undertaking that succeeds; what fails is rolled back with its frame. -/
inductive Undertakes (encoding : Encoding Address Symbol) (orchestrator : Address) :
    Network Address Symbol World → Undertaking host Symbol → Network Address Symbol World → Prop
  | deed {net net' : Network Address Symbol World} {deed : Deed host Symbol}
      (h : Does host encoding net deed net') (spares : deed.Spares encoding orchestrator) :
      Undertakes encoding orchestrator net (.deed deed) net'
  | submitTip {net net' : Network Address Symbol World}
      (clients : Clients host encoding orchestrator) (authorized : Address → Bool)
      {sender stellarTip creator token : Address} {amount : I128} {message : HostString}
      {index : U64}
      (ok : (StellarTipOrchestrator.submitTip clients authorized sender stellarTip creator token amount
        message).run net = .ok (index, net')) :
      Undertakes encoding orchestrator net
        (.submitTip sender stellarTip creator token amount message index) net'
  | registerCreator {net net' : Network Address Symbol World}
      (clients : Clients host encoding orchestrator) (authorized : Address → Bool)
      {caller stellarTip : Address} {username : Symbol} {displayName bio : HostString}
      (ok : (StellarTipOrchestrator.registerCreator clients authorized caller stellarTip username
        displayName bio).run net = .ok ((), net')) :
      Undertakes encoding orchestrator net
        (.registerCreator caller stellarTip username displayName bio) net'

/-- The event of the orchestrator repeats what the event of the contract says. -/
inductive Repeats (encoding : Encoding Address Symbol) :
    WireEvent Address Symbol → Event Address Symbol → Prop
  | tip {sender creator token : Address} {amount fee : I128} {index : U64} :
      Repeats encoding (StellarTipOrchestrator.tipForwarded encoding sender creator index amount)
        (.tipSent sender creator token amount fee index)
  | creator {caller : Address} {username : Symbol} {registeredAt : U64} :
      Repeats encoding (StellarTipOrchestrator.creatorForwarded encoding caller username)
        (.creatorRegistered caller username registeredAt)

/-- Every event of the orchestrator repeats the event right before it, which is one of the contract. -/
def Backed (host : Host Address World) (encoding : Encoding Address Symbol) (orchestrator : Address)
    (log : List (Emission Address Symbol)) : Prop :=
  ∀ before entry after, log = before ++ entry :: after → entry.emitter = orchestrator →
    ∃ prior event, before = prior ++ [event.emission host encoding] ∧
      Repeats encoding entry.event event

/-- The events of the orchestrator in the log. -/
def orchestrated (orchestrator : Address) (log : List (Emission Address Symbol)) :
    List (WireEvent Address Symbol) :=
  (log.filter fun emission ↦ emission.emitter = orchestrator).map Emission.event

section Backed

variable {log log' : List (Emission Address Symbol)} {deed : Deed host Symbol}
  {net net' : Network Address Symbol World}

omit [DecidableEq Symbol] in
theorem orchestrated_append :
    orchestrated orchestrator (log ++ log') =
      orchestrated orchestrator log ++ orchestrated orchestrator log' := by
  rw [orchestrated, List.filter_append, List.map_append]
  rfl

omit [DecidableEq Symbol] in
theorem orchestrated_of_others (h : ∀ emission ∈ log, emission.emitter ≠ orchestrator) :
    orchestrated orchestrator log = [] := by
  have hfilter : log.filter (fun emission ↦ decide (emission.emitter = orchestrator)) = [] := by
    apply List.filter_eq_nil_iff.mpr
    intro emission hmem
    simpa using h emission hmem
  rw [orchestrated, hfilter]
  rfl

omit [LinearOrder Address] [DecidableEq Symbol] in
/-- Events of others change nothing. -/
theorem Backed.append (h : Backed host encoding orchestrator log)
    (others : ∀ emission ∈ log', emission.emitter ≠ orchestrator) :
    Backed host encoding orchestrator (log ++ log') := by
  intro before entry after heq hemitter
  rcases List.append_eq_append_iff.mp heq with ⟨more, rfl, htail⟩ | ⟨more, hhead, hentry⟩
  · exact absurd hemitter (others entry (htail ▸ List.mem_append_right more List.mem_cons_self))
  · cases more with
    | nil =>
      rw [List.nil_append] at hentry
      exact absurd hemitter (others entry (hentry ▸ List.mem_cons_self))
    | cons first rest =>
      obtain ⟨rfl, -⟩ := List.cons.inj hentry
      exact h before _ rest hhead hemitter

omit [LinearOrder Address] [DecidableEq Symbol] in
/-- An event of the orchestrator right after the one that it repeats. -/
theorem Backed.snoc {event : Event Address Symbol} {forwarded : WireEvent Address Symbol}
    (h : Backed host encoding orchestrator (log ++ [event.emission host encoding]))
    (repeats : Repeats encoding forwarded event) :
    Backed host encoding orchestrator
      (log ++ [event.emission host encoding] ++ [⟨orchestrator, forwarded⟩]) := by
  intro before entry after heq hemitter
  rcases List.append_eq_append_iff.mp heq with ⟨more, rfl, htail⟩ | ⟨more, hhead, hentry⟩
  · cases more with
    | nil =>
      obtain ⟨rfl, -⟩ := List.cons.inj htail
      exact ⟨log, event, List.append_nil _, repeats⟩
    | cons first rest =>
      have hlength := congrArg List.length htail
      simp at hlength
  · cases more with
    | nil =>
      obtain ⟨rfl, -⟩ := List.cons.inj hentry
      exact ⟨log, event, by simpa using hhead.symm, repeats⟩
    | cons first rest =>
      obtain ⟨rfl, -⟩ := List.cons.inj hentry
      exact h before _ rest hhead hemitter

theorem Does.accepts {env : Env host} {request : Call Address Symbol}
    {receipt : Receipt Address Symbol} {inner : List (Emission Address Symbol)}
    (h : Does host encoding net (.contract (.accepted env request receipt) inner) net') :
    Accepts env net.state request receipt net'.state := by
  cases h with
  | contract step => exact step.accepts

/-- A call of the contract ends the log with its event. -/
theorem Does.log_of_accepted {env : Env host} {request : Call Address Symbol}
    {receipt : Receipt Address Symbol} {inner : List (Emission Address Symbol)}
    {event : Event Address Symbol}
    (h : Does host encoding net (.contract (.accepted env request receipt) inner) net')
    (hevents : receipt.events = [event]) :
    net'.log = net.log ++ inner ++ [event.emission host encoding] := by
  cases h with
  | contract => simp [Deed.emissions, Label.events, hevents]

omit [LinearOrder Address] [DecidableEq Symbol] in
theorem Deed.Spares.inner_ne {label : Label host Symbol} {inner : List (Emission Address Symbol)}
    (h : (Deed.contract label inner).Spares encoding orchestrator) :
    ∀ emission ∈ inner, emission.emitter ≠ orchestrator := fun emission hmem ↦
  h emission (List.mem_append_left _ hmem)

omit [LinearOrder Address] [DecidableEq Symbol] in
/-- The orchestrator is not the contract when it publishes none of its events. -/
theorem Deed.Spares.contract_ne {label : Label host Symbol} {inner : List (Emission Address Symbol)}
    {event : Event Address Symbol} (h : (Deed.contract label inner).Spares encoding orchestrator)
    (hevents : label.events = [event]) : host.currentContractAddress ≠ orchestrator := by
  refine h (event.emission host encoding) (List.mem_append_right _ ?_)
  rw [hevents]
  exact List.mem_singleton_self _

theorem Does.log_of_spares (h : Does host encoding net deed net')
    (spares : deed.Spares encoding orchestrator) :
    ∃ more, net'.log = net.log ++ more ∧ ∀ emission ∈ more, emission.emitter ≠ orchestrator := by
  cases h with
  | contract => exact ⟨_, rfl, spares⟩
  | foreign => exact ⟨_, rfl, spares⟩

theorem log_of_run_spares {deeds : List (Deed host Symbol)}
    (run : Run (restrict (Does host encoding) fun _ deed ↦ deed.Spares encoding orchestrator)
      net deeds net') :
    ∃ more, net'.log = net.log ++ more ∧ ∀ emission ∈ more, emission.emitter ≠ orchestrator := by
  induction run with
  | nil => exact ⟨[], (List.append_nil _).symm, by simp⟩
  | snoc _ last ih =>
    obtain ⟨more, hmore, hothers⟩ := ih
    obtain ⟨next, hnext, hspares⟩ := last.1.log_of_spares last.2
    refine ⟨more ++ next, by rw [hnext, hmore, List.append_assoc], fun emission hmem ↦ ?_⟩
    exact (List.mem_append.mp hmem).elim (hothers emission) (hspares emission)

end Backed

theorem Accepts.events_of_register {env : Env host} {state state' : State Address Symbol World}
    {caller : Address} {username : Symbol} {displayName bio : HostString}
    {receipt : Receipt Address Symbol}
    (h : Accepts env state (.register caller username displayName bio) receipt state') :
    receipt.events = [.creatorRegistered caller username env.timestamp] := by
  cases h with
  | register => rfl
  | configure setter => cases setter

section Calls

variable {clients : Clients host encoding orchestrator} {target : Address}
  {request : Call Address Symbol} {returned : Option U64} {net net' : Network Address Symbol World}
  {undertaking : Undertaking host Symbol}

/-- While the orchestrator waits for a call it publishes nothing. -/
theorem Clients.log_of_call (h : (clients.call target request).run net = .ok (returned, net')) :
    ∃ more, net'.log = net.log ++ more ∧ ∀ emission ∈ more, emission.emitter ≠ orchestrator := by
  by_cases htarget : target = host.currentContractAddress
  · subst htarget
    obtain ⟨env, receipt, inner, -, hdoes, spares⟩ := clients.call_contract h
    exact hdoes.log_of_spares spares
  · obtain ⟨deeds, run⟩ := clients.call_foreign htarget h
    exact log_of_run_spares run

/-- A tip through the client of StellarTip ends the log with a `TIP` that has the returned index. -/
theorem Clients.log_of_tip {sender creator token : Address} {amount : I128} {message : HostString}
    {index : U64}
    (h : (clients.call host.currentContractAddress (.tip sender creator token amount message)).run
      net = .ok (some index, net')) :
    ∃ inner fee, net'.log = net.log ++ inner ++
        [(Event.tipSent sender creator token amount fee index).emission host encoding] ∧
      (∀ emission ∈ inner, emission.emitter ≠ orchestrator) ∧
        host.currentContractAddress ≠ orchestrator := by
  obtain ⟨env, receipt, inner, hreturned, hdoes, spares⟩ := clients.call_contract h
  obtain ⟨-, fee, _, _, _, _, -, rfl, -⟩ := hdoes.accepts.of_tip
  obtain rfl := Option.some.inj hreturned
  exact ⟨inner, fee, hdoes.log_of_accepted rfl, spares.inner_ne, spares.contract_ne rfl⟩

theorem Clients.log_of_register {caller : Address} {username : Symbol}
    {displayName bio : HostString}
    (h : (clients.call host.currentContractAddress (.register caller username displayName bio)).run
      net = .ok (returned, net')) :
    ∃ inner registeredAt, net'.log = net.log ++ inner ++
        [(Event.creatorRegistered caller username registeredAt).emission host encoding] ∧
      (∀ emission ∈ inner, emission.emitter ≠ orchestrator) ∧
        host.currentContractAddress ≠ orchestrator := by
  obtain ⟨env, receipt, inner, -, hdoes, spares⟩ := clients.call_contract h
  have hevents := hdoes.accepts.events_of_register
  exact ⟨inner, env.timestamp, hdoes.log_of_accepted hevents, spares.inner_ne,
    spares.contract_ne hevents⟩

/-- The orchestrator publishes for each of its invocations, wherever it is forwarded to. -/
theorem Undertakes.orchestrated_eq (h : Undertakes encoding orchestrator net undertaking net') :
    orchestrated orchestrator net'.log =
      orchestrated orchestrator net.log ++ (undertaking.forwarded encoding).toList := by
  have hcall : ∀ {mid : Network Address Symbol World} {more : List (Emission Address Symbol)}
      {event : WireEvent Address Symbol}, mid.log = net.log ++ more →
      (∀ emission ∈ more, emission.emitter ≠ orchestrator) →
      orchestrated orchestrator (mid.publish orchestrator event).log =
        orchestrated orchestrator net.log ++ [event] := by
    intro mid more event hlog hothers
    rw [Network.publish, hlog, orchestrated_append, orchestrated_append,
      orchestrated_of_others hothers, List.append_nil]
    simp [orchestrated]
  cases h with
  | deed hdoes spares =>
    obtain ⟨more, hlog, hothers⟩ := hdoes.log_of_spares spares
    rw [hlog, orchestrated_append, orchestrated_of_others hothers]
    rfl
  | submitTip clients authorized ok =>
    obtain ⟨-, mid, hrun, rfl⟩ := StellarTipOrchestrator.run_submitTip_eq_ok.mp ok
    obtain ⟨more, hlog, hothers⟩ := Clients.log_of_call hrun
    exact hcall hlog hothers
  | registerCreator clients authorized ok =>
    obtain ⟨-, returned, mid, hrun, rfl⟩ := StellarTipOrchestrator.run_registerCreator_eq_ok.mp ok
    obtain ⟨more, hlog, hothers⟩ := Clients.log_of_call hrun
    exact hcall hlog hothers

/-- An invocation forwarded to StellarTip publishes right after the event that it repeats. -/
theorem Undertakes.backed (h : Undertakes encoding orchestrator net undertaking net')
    (trusted : ∀ target ∈ undertaking.target, target = host.currentContractAddress)
    (hbacked : Backed host encoding orchestrator net.log) :
    Backed host encoding orchestrator net'.log := by
  cases h with
  | deed hdoes spares =>
    obtain ⟨more, hlog, hothers⟩ := hdoes.log_of_spares spares
    rw [hlog]
    exact hbacked.append hothers
  | submitTip clients authorized ok =>
    obtain ⟨-, mid, hrun, rfl⟩ := StellarTipOrchestrator.run_submitTip_eq_ok.mp ok
    obtain rfl := trusted _ rfl
    obtain ⟨inner, fee, hlog, hinner, hcontract⟩ := Clients.log_of_tip hrun
    rw [Network.publish, hlog]
    exact ((hbacked.append hinner).append (by simpa [Event.emission] using hcontract)).snoc .tip
  | registerCreator clients authorized ok =>
    obtain ⟨-, returned, mid, hrun, rfl⟩ := StellarTipOrchestrator.run_registerCreator_eq_ok.mp ok
    obtain rfl := trusted _ rfl
    obtain ⟨inner, registeredAt, hlog, hinner, hcontract⟩ := Clients.log_of_register hrun
    rw [Network.publish, hlog]
    exact ((hbacked.append hinner).append (by simpa [Event.emission] using hcontract)).snoc .creator

end Calls

/-! ## Whole runs -/

section Runs

variable {start net : Network Address Symbol World} {undertakings : List (Undertaking host Symbol)}

theorem backed_of_run (run : Run (Undertakes encoding orchestrator) start undertakings net)
    (hstart : Backed host encoding orchestrator start.log)
    (trusted : ∀ undertaking ∈ undertakings, ∀ target ∈ undertaking.target,
      target = host.currentContractAddress) :
    Backed host encoding orchestrator net.log := by
  induction run with
  | nil => exact hstart
  | @snoc _ _ _ undertaking _ last ih =>
    have hinit := ih fun earlier hmem ↦ trusted earlier (List.mem_append_left _ hmem)
    exact last.backed (trusted undertaking (by simp)) hinit

theorem orchestrated_of_run (run : Run (Undertakes encoding orchestrator) start undertakings net) :
    orchestrated orchestrator net.log = orchestrated orchestrator start.log ++
      undertakings.filterMap (Undertaking.forwarded encoding) := by
  induction run with
  | nil => simp
  | @snoc _ _ _ undertaking _ last ih =>
    have hlast : [undertaking].filterMap (Undertaking.forwarded encoding) =
        (undertaking.forwarded encoding).toList := by
      cases hforwarded : undertaking.forwarded encoding <;> simp [hforwarded]
    rw [last.orchestrated_eq, ih, List.filterMap_append, hlast, List.append_assoc]

end Runs

/-- A contract at another address that returns what it likes and does nothing. -/
def returningClients (host : Host Address World) (encoding : Encoding Address Symbol)
    (orchestrator : Address) (index : U64) : Clients host encoding orchestrator where
  call target _ := do
    Transaction.rejectIf (target = host.currentContractAddress) (.callee .trap)
    return some index
  call_contract h := by
    simp only [Transaction.run_bind_eq_ok, Transaction.run_rejectIf_eq_ok] at h
    obtain ⟨-, -, ⟨hne, -⟩, -⟩ := h
    exact (hne trivial).elim
  call_foreign _ h := by
    simp only [Transaction.run_bind_eq_ok, Transaction.run_rejectIf_eq_ok,
      Transaction.run_pure_eq_ok] at h
    obtain ⟨-, _, ⟨-, rfl⟩, -, rfl⟩ := h
    exact ⟨[], .nil⟩

theorem submitTip_returningClients {net : Network Address Symbol World}
    {sender stellarTip creator token : Address} {amount : I128} {message : HostString} {index : U64}
    (hne : stellarTip ≠ host.currentContractAddress) :
    (StellarTipOrchestrator.submitTip (returningClients host encoding orchestrator index)
        (fun _ ↦ true) sender stellarTip creator token amount message).run net =
      .ok (index, net.publish orchestrator
        (StellarTipOrchestrator.tipForwarded encoding sender creator index amount)) := by
  refine StellarTipOrchestrator.run_submitTip_eq_ok.mpr ⟨rfl, net, ?_, rfl⟩
  exact Transaction.run_bind_of_eq_ok (Transaction.run_rejectIf_of_not hne)

/-- In every run in which all invocations that stand were forwarded to StellarTip, each event of the
orchestrator repeats an event of StellarTip right before it, and there is one for each of these
invocations, in their order. An invocation forwarded to another address can publish every index. -/
theorem orchestrator_events_are_backed {world : World}
    {actions : List (Framed (Undertaking host Symbol))}
    {framing : Framing (Network Address Symbol World)}
    (run : Run (FramedStep (Undertakes encoding orchestrator))
      ⟨Network.deployed Symbol world, []⟩ actions framing)
    (trusted : ∀ undertaking ∈ (Framing.kept actions).current, ∀ target ∈ undertaking.target,
      target = host.currentContractAddress) :
    Backed host encoding orchestrator framing.current.log ∧
      orchestrated orchestrator framing.current.log =
        (Framing.kept actions).current.filterMap (Undertaking.forwarded encoding) ∧
      ∀ (net : Network Address Symbol World) (sender stellarTip creator token : Address)
        (amount : I128) (message : HostString) (index : U64),
        stellarTip ≠ host.currentContractAddress → ∃ clients : Clients host encoding orchestrator,
          (StellarTipOrchestrator.submitTip clients (fun _ ↦ true) sender stellarTip creator token
            amount message).run net = .ok (index, net.publish orchestrator
              (StellarTipOrchestrator.tipForwarded encoding sender creator index amount)) := by
  have hrun := run.reachedBy.current
  refine ⟨backed_of_run hrun ?_ trusted, orchestrated_of_run hrun, ?_⟩
  · intro before entry after heq
    simp [Network.deployed] at heq
  · intro net sender stellarTip creator token amount message index hne
    exact ⟨returningClients host encoding orchestrator index, submitTip_returningClients hne⟩

/-- Clients with nothing deployed but StellarTip. -/
def directClients (env : Env host) (encoding : Encoding Address Symbol) (orchestrator : Address)
    (hne : host.currentContractAddress ≠ orchestrator) : Clients host encoding orchestrator where
  call target request net :=
    if target = host.currentContractAddress then
      match invoke env request net.state with
      | .ok (receipt, state') => .ok (receipt.returned,
          ⟨state', net.log ++ receipt.events.map (Event.emission host encoding)⟩)
      | .error failure => .error failure
    else .error (.callee .trap)
  call_contract h := by
    rw [StateT.run, if_pos rfl] at h
    split at h
    · rename_i receipt state' hinvoke
      cases h
      refine ⟨env, receipt, [], rfl, .contract (.accepted hinvoke) (by simp), fun emission hmem ↦ ?_⟩
      obtain ⟨event, -, rfl⟩ := List.mem_map.mp hmem
      exact hne
    · cases h
  call_foreign hforeign h := by
    rw [StateT.run, if_neg hforeign] at h
    cases h

def marketDeed (call : MarketCall) (state : State ℕ ℕ (TokenLedger ℕ)) : Undertaking marketHost ℕ :=
  .deed (.contract (perform call.1 call.2 state).1 [])

theorem undertakes_marketDeed (call : MarketCall) (state : State ℕ ℕ (TokenLedger ℕ))
    (log : List (Emission ℕ ℕ)) :
    Undertakes positionEncoding 77 ⟨state, log⟩ (marketDeed call state)
      ⟨(perform call.1 call.2 state).2, log ++ (perform call.1 call.2 state).1.events.map
        (Event.emission marketHost positionEncoding)⟩ := by
  refine .deed (.contract (step_perform call.1 call.2 state) (by simp)) fun emission hmem ↦ ?_
  obtain ⟨event, -, rfl⟩ := List.mem_map.mp hmem
  change (0 : ℕ) ≠ 77
  decide

/-- The tip of the market, forwarded by the orchestrator 77. -/
def forwardedActions : List (Framed (Undertaking marketHost ℕ)) :=
  [.act (marketDeed (marketInit (u32 500)) marketStart),
    .act (marketDeed (marketRegister 3 30) marketInitOutcome.2), .enter,
    .act (.submitTip 5 0 3 7 (i128 100) [] (u64 0)), .keep]

def forwardedNetwork : Network ℕ ℕ (TokenLedger ℕ) :=
  ⟨tippedMarket, (eventLog (replay marketStart tippedMarketCalls).1).map
      (Event.emission marketHost positionEncoding) ++
    [⟨77, StellarTipOrchestrator.tipForwarded positionEncoding 5 3 (u64 0) (i128 100)⟩]⟩

theorem run_forwardedActions :
    Run (FramedStep (Undertakes positionEncoding 77)) ⟨Network.deployed ℕ marketLedger, []⟩
      forwardedActions ⟨forwardedNetwork, []⟩ := by
  have hsubmitted : Undertakes positionEncoding 77
      ⟨(replay marketStart [marketInit (u32 500), marketRegister 3 30]).2,
        (eventLog (replay marketStart [marketInit (u32 500), marketRegister 3 30]).1).map
          (Event.emission marketHost positionEncoding)⟩
      (.submitTip 5 0 3 7 (i128 100) [] (u64 0)) forwardedNetwork :=
    .submitTip (directClients (signedBy marketHost 5 (u64 103)) positionEncoding 77 (by decide))
      (fun address ↦ decide (address = 5)) rfl
  exact .cons (.act (undertakes_marketDeed _ _ _)) (.cons (.act (undertakes_marketDeed _ _ _))
    (.cons .enter (.cons (.act hsubmitted) (.single .keep))))

/-- The one event of the orchestrator is backed by the tip. -/
theorem orchestrator_events_of_forwardedActions :
    Backed marketHost positionEncoding 77 forwardedNetwork.log := by
  refine (orchestrator_events_are_backed run_forwardedActions ?_).1
  have hkept : (Framing.kept forwardedActions).current =
      [marketDeed (marketInit (u32 500)) marketStart,
        marketDeed (marketRegister 3 30) marketInitOutcome.2,
        .submitTip 5 0 3 7 (i128 100) [] (u64 0)] := rfl
  rw [hkept]
  simp only [List.forall_mem_cons, List.not_mem_nil, false_implies, implies_true, and_true]
  refine ⟨fun target hmem ↦ ?_, fun target hmem ↦ ?_, fun target hmem ↦ ?_⟩
  · cases hmem
  · cases hmem
  · cases hmem
    rfl

end StellarTip
