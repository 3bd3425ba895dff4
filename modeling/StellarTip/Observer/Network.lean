import StellarTip.Foundation.Rollback
import StellarTip.Observer.Indexer
import StellarTip.Observer.Wire

/-!
# The contract among others

The network records the events of all contracts in one log. Anybody can publish an event with the topics
of this contract, the tokens that a call reaches publish events of their own, and an invocation that fails
takes everything back that was done since it began, in nested invocations too. An observer
who keeps the events with the address of the contract, and decodes them, still has exactly the events of
the calls that stand.
-/

namespace StellarTip

open Foundation TipContract

variable {Address Symbol World : Type} [LinearOrder Address] {host : Host Address World}

/-- An event as the network records it, with the contract that published it. -/
structure Emission (Address Symbol : Type) where
  emitter : Address
  event : WireEvent Address Symbol

structure Network (Address Symbol World : Type) [LinearOrder Address] where
  state : State Address Symbol World
  log : List (Emission Address Symbol)

/-- One thing that happens on the network. A step of this contract comes with the events of the contracts
that it called, which precede its own event. -/
inductive Deed (host : Host Address World) (Symbol : Type) where
  | contract (label : Label host Symbol) (inner : List (Emission Address Symbol))
  | foreign (emission : Emission Address Symbol)

/-- The steps of this contract in a deed. -/
def Deed.labels : Deed host Symbol → List (Label host Symbol)
  | .contract label _ => [label]
  | .foreign _ => []

variable (host) (encoding : Encoding Address Symbol)

/-- An event of this contract in the log. -/
def Event.emission (event : Event Address Symbol) : Emission Address Symbol :=
  ⟨host.currentContractAddress, event.wire encoding⟩

/-- What a deed adds to the log. -/
def Deed.emissions : Deed host Symbol → List (Emission Address Symbol)
  | .contract label inner => inner ++ label.events.map (Event.emission host encoding)
  | .foreign emission => [emission]

variable [DecidableEq Symbol]

/-- Only this contract publishes under its own address. -/
inductive Does : Network Address Symbol World → Deed host Symbol → Network Address Symbol World → Prop
  | contract {net : Network Address Symbol World} {label : Label host Symbol}
      {inner : List (Emission Address Symbol)} {state' : State Address Symbol World}
      (step : Step host net.state label state')
      (others : ∀ emission ∈ inner, emission.emitter ≠ host.currentContractAddress) :
      Does net (.contract label inner)
        ⟨state', net.log ++ (Deed.contract label inner).emissions host encoding⟩
  | foreign {net : Network Address Symbol World} {emission : Emission Address Symbol}
      (other : emission.emitter ≠ host.currentContractAddress) :
      Does net (.foreign emission)
        { net with log := net.log ++ (Deed.foreign emission).emissions host encoding }

/-- The network when the contract has just been deployed. -/
def Network.deployed (Symbol : Type) (world : World) : Network Address Symbol World :=
  ⟨StellarTip.deployed Symbol world, []⟩

/-- What an observer of the contract at an address makes of the log. -/
def readLog (contract : Address) (log : List (Emission Address Symbol)) :
    List (Event Address Symbol) :=
  (log.filter fun emission ↦ emission.emitter = contract).filterMap fun emission ↦
    emission.event.event encoding

variable {host encoding} {net net' : Network Address Symbol World} {deed : Deed host Symbol}
  {deeds : List (Deed host Symbol)} {log log' : List (Emission Address Symbol)}

section Reading

variable {contract : Address}

theorem readLog_append :
    readLog encoding contract (log ++ log') =
      readLog encoding contract log ++ readLog encoding contract log' := by
  rw [readLog, List.filter_append, List.filterMap_append]
  rfl

/-- Events of other contracts are not read, whatever their topics are. -/
theorem readLog_of_others (h : ∀ emission ∈ log, emission.emitter ≠ contract) :
    readLog encoding contract log = [] := by
  have hfilter : log.filter (fun emission ↦ decide (emission.emitter = contract)) = [] := by
    apply List.filter_eq_nil_iff.mpr
    intro emission hmem
    simpa using h emission hmem
  rw [readLog, hfilter]
  rfl

theorem readLog_emission (events : List (Event Address Symbol)) :
    readLog encoding host.currentContractAddress (events.map (Event.emission host encoding)) =
      events := by
  have hfilter : (events.map (Event.emission host encoding)).filter
      (fun emission ↦ decide (emission.emitter = host.currentContractAddress)) =
        events.map (Event.emission host encoding) := by
    apply List.filter_eq_self.mpr
    intro emission hmem
    obtain ⟨event, -, rfl⟩ := List.mem_map.mp hmem
    exact decide_eq_true rfl
  have hread : (fun emission : Emission Address Symbol ↦ emission.event.event encoding) ∘
      Event.emission host encoding = some := by
    funext event
    exact WireEvent.event_eq_some_iff.mpr rfl
  rw [readLog, hfilter, List.filterMap_map, hread, List.filterMap_some]

end Reading

/-- One deed, seen from this contract. -/
theorem Does.contract_run (h : Does host encoding net deed net') :
    Run (Step host) net.state deed.labels net'.state := by
  cases h with
  | contract step => exact .single step
  | foreign => exact .nil

theorem Does.readLog_eq (h : Does host encoding net deed net') :
    readLog encoding host.currentContractAddress net'.log =
      readLog encoding host.currentContractAddress net.log ++ eventLog deed.labels := by
  cases h with
  | @contract label inner _ _ others =>
    rw [readLog_append, Deed.emissions, readLog_append, readLog_of_others others, readLog_emission,
      List.nil_append, Deed.labels, eventLog, List.flatMap_singleton]
  | @foreign emission other =>
    have hothers : readLog encoding host.currentContractAddress [emission] = [] :=
      readLog_of_others (by simpa using other)
    rw [readLog_append, Deed.emissions, hothers]
    rfl

/-- A run of the network is a run of the contract, whose events are the ones read from the log. -/
theorem Network.contract_run {world : World}
    (run : Run (Does host encoding) (Network.deployed Symbol world) deeds net) :
    Run (Step host) (StellarTip.deployed Symbol world) (deeds.flatMap Deed.labels) net.state ∧
      readLog encoding host.currentContractAddress net.log =
        eventLog (deeds.flatMap Deed.labels) := by
  refine ⟨run.simulate Network.state fun _ _ _ h ↦ h.contract_run, ?_⟩
  induction run with
  | nil => rfl
  | snoc _ last ih =>
    rw [last.readLog_eq, ih, List.flatMap_append, List.flatMap_singleton, eventLog, eventLog,
      eventLog, List.flatMap_append]

/-- At every moment of every run of the network, however invocations nest and whichever of them are
rolled back, the contract is in the state that the surviving calls alone lead to, the decoded events under
its address are the events of these calls, and folding them gives its ledger. -/
theorem network_log_determines_ledger {world : World} {actions : List (Framed (Deed host Symbol))}
    {framing : Framing (Network Address Symbol World)}
    (run : Run (FramedStep (Does host encoding)) ⟨Network.deployed Symbol world, []⟩ actions framing) :
    Run (Step host) (StellarTip.deployed Symbol world)
        ((Framing.kept actions).current.flatMap Deed.labels) framing.current.state ∧
      readLog encoding host.currentContractAddress framing.current.log =
        eventLog ((Framing.kept actions).current.flatMap Deed.labels) ∧
      Indexed (Index.fold (readLog encoding host.currentContractAddress framing.current.log))
        framing.current.state.storage := by
  obtain ⟨hrun, hread⟩ := Network.contract_run run.reachedBy.current
  refine ⟨hrun, hread, ?_⟩
  rw [hread]
  exact indexed_of_run hrun

/-- Symbols are the positions of the names in the list of all of them. -/
def positionEncoding : Encoding ℕ ℕ where
  symbolShort text := (EventName.all.map EventName.text).idxOf text
  literal text := .string text.toUTF8.toList
  symbolShort_inj name other h := by
    have hall : ∀ name ∈ EventName.all, ∀ other ∈ EventName.all,
        (EventName.all.map EventName.text).idxOf name.text =
          (EventName.all.map EventName.text).idxOf other.text → name = other := by decide
    exact hall name name.mem_all other other.mem_all h

/-- The contract at address 66 publishes a tip that nobody sent. -/
def forgedTip : Emission ℕ ℕ :=
  ⟨66, (Event.tipSent 5 3 7 (i128 100) (i128 0) (u64 0)).wire positionEncoding⟩

def marketInitOutcome : Label marketHost ℕ × State ℕ ℕ (TokenLedger ℕ) :=
  perform (marketInit (u32 500)).1 (marketInit (u32 500)).2 marketStart

/-- An initialization that is rolled back and made again after a forged tip. -/
def forgedActions : List (Framed (Deed marketHost ℕ)) :=
  [.enter, .act (.contract marketInitOutcome.1 []), .revert, .act (.foreign forgedTip), .enter,
    .act (.contract marketInitOutcome.1 []), .keep]

def forgedNetwork : Network ℕ ℕ (TokenLedger ℕ) :=
  ⟨marketInitOutcome.2,
    [forgedTip] ++ (Deed.contract marketInitOutcome.1 []).emissions marketHost positionEncoding⟩

theorem run_forgedActions :
    Run (FramedStep (Does marketHost positionEncoding)) ⟨Network.deployed ℕ marketLedger, []⟩
      forgedActions ⟨forgedNetwork, []⟩ := by
  have hinit : ∀ log, Does marketHost positionEncoding ⟨marketStart, log⟩
      (.contract marketInitOutcome.1 []) ⟨marketInitOutcome.2,
        log ++ (Deed.contract marketInitOutcome.1 []).emissions marketHost positionEncoding⟩ :=
    fun log ↦ .contract
      (step_perform (marketInit (u32 500)).1 (marketInit (u32 500)).2 marketStart) (by simp)
  refine .cons .enter (.cons (.act (hinit [])) (.cons .revert (.cons (.act (.foreign ?_))
    (.cons .enter (.cons (.act (hinit [forgedTip])) (.single .keep))))))
  decide

/-- The forged tip does not get into the indexer. -/
theorem network_log_of_forgedActions :
    Indexed (Index.fold (readLog positionEncoding 0 forgedNetwork.log))
      marketInitOutcome.2.storage :=
  (network_log_determines_ledger run_forgedActions).2.2

end StellarTip
