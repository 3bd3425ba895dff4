import Mathlib.Data.List.Forall2
import StellarTip.Foundation.Transition

/-!
# Runs with rollback

The steps of a system are grouped in nested frames. Leaving a frame keeps what was done since it was
entered, or puts the state back. In the end a run has done what its surviving labels do alone, and the
same holds at every frame that is still open.
-/

namespace StellarTip.Foundation

variable {State Label : Type*}

/-- The actions of a system with frames. -/
inductive Framed (Label : Type*) where
  | enter
  | keep
  | revert
  | act (label : Label)

/-- A state with the states at which the open frames were entered, the innermost first. -/
structure Framing (State : Type*) where
  current : State
  entered : List State

inductive FramedStep (step : State → Label → State → Prop) :
    Framing State → Framed Label → Framing State → Prop
  | enter {current : State} {entered : List State} :
      FramedStep step ⟨current, entered⟩ .enter ⟨current, current :: entered⟩
  | keep {current start : State} {entered : List State} :
      FramedStep step ⟨current, start :: entered⟩ .keep ⟨current, entered⟩
  | revert {current start : State} {entered : List State} :
      FramedStep step ⟨current, start :: entered⟩ .revert ⟨start, entered⟩
  | act {current next : State} {entered : List State} {label : Label}
      (h : step current label next) :
      FramedStep step ⟨current, entered⟩ (.act label) ⟨next, entered⟩

namespace Framing

/-- One action, on the labels that survive so far and those that did at each open frame. -/
def after (kept : Framing (List Label)) : Framed Label → Framing (List Label)
  | .enter => ⟨kept.current, kept.current :: kept.entered⟩
  | .keep => ⟨kept.current, kept.entered.tail⟩
  | .revert => ⟨kept.entered.headD kept.current, kept.entered.tail⟩
  | .act label => ⟨kept.current ++ [label], kept.entered⟩

/-- The labels of a list of actions that no frame has reverted. -/
def kept (actions : List (Framed Label)) : Framing (List Label) :=
  actions.foldl after ⟨[], []⟩

theorem kept_append_singleton (actions : List (Framed Label)) (action : Framed Label) :
    kept (actions ++ [action]) = (kept actions).after action := by
  rw [kept, List.foldl_append]
  rfl

end Framing

variable {step : State → Label → State → Prop} {start : State} {framing framing' : Framing State}
  {kept : Framing (List Label)} {actions : List (Framed Label)} {action : Framed Label}

/-- A framing of states is reached by a framing of labels. -/
structure Framing.ReachedBy (step : State → Label → State → Prop) (start : State)
    (kept : Framing (List Label)) (framing : Framing State) : Prop where
  current : Run step start kept.current framing.current
  entered : List.Forall₂ (Run step start) kept.entered framing.entered

theorem Framing.ReachedBy.framedStep (h : Framing.ReachedBy step start kept framing)
    (hstep : FramedStep step framing action framing') :
    Framing.ReachedBy step start (kept.after action) framing' := by
  obtain ⟨current, entered⟩ := kept
  cases hstep with
  | enter => exact ⟨h.current, .cons h.current h.entered⟩
  | keep =>
    cases h.entered with
    | cons _ rest => exact ⟨h.current, rest⟩
  | revert =>
    cases h.entered with
    | cons first rest => exact ⟨first, rest⟩
  | act hact => exact ⟨h.current.snoc hact, h.entered⟩

/-- The rollback rule: whatever was reverted on the way, the surviving labels alone lead to the state
reached. -/
theorem Run.reachedBy (run : Run (FramedStep step) ⟨start, []⟩ actions framing) :
    Framing.ReachedBy step start (Framing.kept actions) framing := by
  induction run with
  | nil => exact ⟨Run.nil, .nil⟩
  | snoc _ last ih =>
    rw [Framing.kept_append_singleton]
    exact ih.framedStep last

end StellarTip.Foundation
