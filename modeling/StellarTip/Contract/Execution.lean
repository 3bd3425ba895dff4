import StellarTip.Contract.Semantics
import StellarTip.Foundation.Transition

/-!
# Runs of the deployed contract

A step is an accepted call, a rejected call, or anything that happens to the token world between
two calls. Runs start from the freshly deployed contract, whose storage is empty, in an arbitrary
token world. Every caller, argument, authorization and ledger timestamp is arbitrary, so a reachable
state is one that some sequence of operations by some parties can bring about.
-/

namespace StellarTip

open Foundation

variable {Address Symbol World : Type} [LinearOrder Address] {host : Host Address World}

/-- What an observer of one step sees. -/
inductive Label (host : Host Address World) (Symbol : Type) where
  | accepted (env : Env host) (call : Call Address Symbol) (receipt : Receipt Address Symbol)
  | rejected (env : Env host) (call : Call Address Symbol) (failure : Failure)
  | outside

/-- The events that a step emits: a failed call and the world outside emit none. -/
def Label.events : Label host Symbol → List (Event Address Symbol)
  | .accepted _ _ receipt => receipt.events
  | .rejected .. | .outside => []

/-- The token transfers that the contract issues in a step. -/
def Label.transfers : Label host Symbol → List (Transfer Address)
  | .accepted _ _ receipt => receipt.transfers
  | .rejected .. | .outside => []

/-- The ledger timestamp of a step, when it is a call. -/
def Label.timestamp : Label host Symbol → Option U64
  | .accepted env .. | .rejected env .. => some env.timestamp
  | .outside => none

/-- All emitted events of a run, in order. -/
def eventLog (labels : List (Label host Symbol)) : List (Event Address Symbol) :=
  labels.flatMap Label.events

/-- The ledger timestamps of the calls of a run, in order. -/
def timestamps (labels : List (Label host Symbol)) : List U64 := labels.filterMap Label.timestamp

/-- Freshly deployed: nothing is stored. -/
def deployed (Symbol : Type) (world : World) : State Address Symbol World := ⟨Storage.empty, world⟩

variable [DecidableEq Symbol]

inductive Step (host : Host Address World) : State Address Symbol World → Label host Symbol →
    State Address Symbol World → Prop
  | accepted {env : Env host} {call : Call Address Symbol} {receipt : Receipt Address Symbol}
      {state state' : State Address Symbol World}
      (ok : invoke env call state = .ok (receipt, state')) :
      Step host state (.accepted env call receipt) state'
  | rejected {env : Env host} {call : Call Address Symbol} {failure : Failure}
      {state : State Address Symbol World} (error : invoke env call state = .error failure) :
      Step host state (.rejected env call failure) state
  | outside {state : State Address Symbol World} {world : World}
      (moved : host.outside state.world world) :
      Step host state .outside { state with world }

/-- A state that some run of the deployed contract reaches. -/
def ReachableState (host : Host Address World) (state : State Address Symbol World) : Prop :=
  ∃ world, Reachable (Step host) (deployed Symbol world) state

variable {state state' start stop : State Address Symbol World} {label : Label host Symbol}
  {labels : List (Label host Symbol)} {world : World}

theorem Step.accepts {env : Env host} {call : Call Address Symbol}
    {receipt : Receipt Address Symbol} (h : Step host state (.accepted env call receipt) state') :
    Accepts env state call receipt state' := by
  cases h with
  | accepted ok => exact invoke_eq_ok_iff.mp ok

/-- A step changes the storage only as an accepted call. -/
theorem Step.accepts_or_storage_eq (h : Step host state label state') :
    (∃ env call receipt, label = .accepted env call receipt ∧
      Accepts env state call receipt state') ∨
    (label.events = [] ∧ state'.storage = state.storage) := by
  cases h with
  | accepted ok => exact .inl ⟨_, _, _, rfl, invoke_eq_ok_iff.mp ok⟩
  | rejected => exact .inr ⟨rfl, rfl⟩
  | outside => exact .inr ⟨rfl, rfl⟩

namespace ReachableState

theorem of_deployed (run : Run (Step host) (deployed Symbol world) labels state) :
    ReachableState host state := ⟨world, labels, run⟩

theorem step (h : ReachableState host state) (hstep : Step host state label state') :
    ReachableState host state' := by
  obtain ⟨world, hreach⟩ := h
  exact ⟨world, hreach.tail hstep⟩

theorem run (h : ReachableState host start) (run : Run (Step host) start labels stop) :
    ReachableState host stop := by
  obtain ⟨world, hreach⟩ := h
  exact ⟨world, hreach.trans run⟩

/-- The invariant rule of the contract: a property of the storage that holds of the empty storage
and is kept by every accepted call holds in every reachable state. -/
theorem storage_invariant {P : Storage Address Symbol → Prop}
    (hempty : P Storage.empty)
    (haccepts : ∀ (env : Env host) call (state : State Address Symbol World) receipt state',
      ReachableState host state → P state.storage →
        Accepts env state call receipt state' → P state'.storage)
    (h : ReachableState host state) : P state.storage := by
  obtain ⟨world, hreach⟩ := h
  refine Reachable.invariant (P := fun state ↦ P state.storage) hempty ?_ hreach
  intro before label after hbefore hproperty hstep
  rcases hstep.accepts_or_storage_eq with ⟨env, call, receipt, -, haccepts'⟩ | ⟨-, heq⟩
  · exact haccepts env call before receipt after ⟨world, hbefore⟩ hproperty haccepts'
  · rw [heq]
    exact hproperty

end ReachableState

/-- The outcome of one call as a step. -/
def perform (env : Env host) (call : Call Address Symbol) (state : State Address Symbol World) :
    Label host Symbol × State Address Symbol World :=
  match invoke env call state with
  | .ok (receipt, state') => (.accepted env call receipt, state')
  | .error failure => (.rejected env call failure, state)

theorem perform_of_error {env : Env host} {call : Call Address Symbol} {failure : Failure}
    (h : invoke env call state = .error failure) :
    perform env call state = (.rejected env call failure, state) := by
  rw [perform, h]

theorem perform_of_ok {env : Env host} {call : Call Address Symbol}
    {receipt : Receipt Address Symbol} (h : invoke env call state = .ok (receipt, state')) :
    perform env call state = (.accepted env call receipt, state') := by
  rw [perform, h]

theorem step_perform (env : Env host) (call : Call Address Symbol)
    (state : State Address Symbol World) :
    Step host state (perform env call state).1 (perform env call state).2 := by
  unfold perform
  split
  · rename_i h
    exact .accepted h
  · rename_i h
    exact .rejected h

/-- The labels and the final state of a list of calls, made one after the other. -/
def replay (state : State Address Symbol World) :
    List (Env host × Call Address Symbol) → List (Label host Symbol) × State Address Symbol World
  | [] => ([], state)
  | (env, call) :: calls =>
      let outcome := perform env call state
      let rest := replay outcome.2 calls
      (outcome.1 :: rest.1, rest.2)

theorem replay_cons_of_ok {env : Env host} {call : Call Address Symbol}
    {receipt : Receipt Address Symbol} (h : invoke env call state = .ok (receipt, state'))
    (calls : List (Env host × Call Address Symbol)) :
    replay state ((env, call) :: calls) =
      (.accepted env call receipt :: (replay state' calls).1, (replay state' calls).2) := by
  rw [replay, perform_of_ok h]

theorem run_replay (calls : List (Env host × Call Address Symbol))
    (state : State Address Symbol World) :
    Run (Step host) state (replay state calls).1 (replay state calls).2 := by
  induction calls generalizing state with
  | nil => exact .nil
  | cons pair calls ih => exact .cons (step_perform pair.1 pair.2 state) (ih _)

/-- Every call of the list makes an allowed step when its turn comes. -/
def AllowedAlong (allowed : State Address Symbol World → Label host Symbol → Prop)
    (state : State Address Symbol World) : List (Env host × Call Address Symbol) → Prop
  | [] => True
  | (env, call) :: calls =>
      allowed state (perform env call state).1 ∧
        AllowedAlong allowed (perform env call state).2 calls

theorem run_replay_of_allowed {allowed : State Address Symbol World → Label host Symbol → Prop}
    (calls : List (Env host × Call Address Symbol)) (state : State Address Symbol World)
    (h : AllowedAlong allowed state calls) :
    Run (restrict (Step host) allowed) state (replay state calls).1 (replay state calls).2 := by
  induction calls generalizing state with
  | nil => exact .nil
  | cons pair calls ih =>
    exact .cons ⟨step_perform pair.1 pair.2 state, h.1⟩ (ih _ h.2)

end StellarTip
