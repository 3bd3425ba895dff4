import Mathlib.Order.Basic
import Mathlib.Data.List.Induction

/-!
# Labelled runs

Runs of a labelled transition relation, with the labels of their steps in order. An invariant is
proved once for one step and then holds in every reachable state.
-/

namespace StellarTip.Foundation

variable {State Label : Type*}

/-- `Run step start labels stop`: the steps from `start` to `stop` carry `labels` in order. -/
inductive Run (step : State → Label → State → Prop) (start : State) : List Label → State → Prop
  | nil : Run step start [] start
  | snoc {labels : List Label} {mid stop : State} {label : Label}
      (init : Run step start labels mid) (last : step mid label stop) :
      Run step start (labels ++ [label]) stop

/-- A state at the end of some run. -/
def Reachable (step : State → Label → State → Prop) (start stop : State) : Prop :=
  ∃ labels, Run step start labels stop

/-- The steps whose label is allowed in the state before. -/
def restrict (step : State → Label → State → Prop) (allowed : State → Label → Prop)
    (before : State) (label : Label) (after : State) : Prop :=
  step before label after ∧ allowed before label

variable {step step' : State → Label → State → Prop} {start mid stop : State}
  {labels labels' : List Label} {label : Label}

namespace Run

theorem single (h : step start label stop) : Run step start [label] stop :=
  snoc nil h

theorem append (first : Run step start labels mid) (second : Run step mid labels' stop) :
    Run step start (labels ++ labels') stop := by
  induction second with
  | nil => simpa using first
  | snoc _ last ih =>
    rw [← List.append_assoc]
    exact snoc ih last

theorem cons (first : step start label mid) (rest : Run step mid labels stop) :
    Run step start (label :: labels) stop :=
  append (single first) rest

/-- A run splits at every point of its list of labels. -/
theorem split (labels' : List Label) (run : Run step start (labels ++ labels') stop) :
    ∃ mid, Run step start labels mid ∧ Run step mid labels' stop := by
  induction labels' using List.reverseRecOn generalizing stop with
  | nil =>
    rw [List.append_nil] at run
    exact ⟨stop, run, nil⟩
  | append_singleton labels' label ih =>
    rw [← List.append_assoc] at run
    generalize hall : labels ++ labels' ++ [label] = all at run
    cases run with
    | nil => simp at hall
    | snoc init last =>
      obtain ⟨rfl, hlabel⟩ := List.append_inj' hall rfl
      obtain rfl : label = _ := List.singleton_inj.mp hlabel
      obtain ⟨mid, hfirst, hsecond⟩ := ih init
      exact ⟨mid, hfirst, snoc hsecond last⟩

theorem step_of_singleton (run : Run step start [label] stop) : step start label stop := by
  generalize hsingle : [label] = single at run
  cases run with
  | nil => cases hsingle
  | snoc init last =>
    rw [← List.nil_append [label]] at hsingle
    obtain ⟨hnil, hlabel⟩ := List.append_inj' hsingle rfl
    obtain rfl : label = _ := List.singleton_inj.mp hlabel
    cases hnil
    generalize hempty : ([] : List Label) = empty at init
    cases init with
    | nil => exact last
    | snoc => simp at hempty

/-- Every label of a run was carried by a step between two states of the run. -/
theorem exists_step (run : Run step start (labels ++ label :: labels') stop) :
    ∃ before after, Run step start labels before ∧ step before label after ∧
      Run step after labels' stop := by
  obtain ⟨before, hfirst, hrest⟩ := split (label :: labels') run
  rw [← List.singleton_append] at hrest
  obtain ⟨after, hlast, hsecond⟩ := split labels' hrest
  exact ⟨before, after, hfirst, hlast.step_of_singleton, hsecond⟩

theorem mono (h : ∀ before label after, step before label after → step' before label after)
    (run : Run step start labels stop) : Run step' start labels stop := by
  induction run with
  | nil => exact nil
  | snoc _ last ih => exact snoc ih (h _ _ _ last)

theorem unrestrict {allowed : State → Label → Prop}
    (run : Run (restrict step allowed) start labels stop) : Run step start labels stop :=
  run.mono fun _ _ _ h ↦ h.1

/-- A property kept by every step holds at the end of a run when it holds at the start. -/
theorem invariant {P : State → Prop}
    (hstep : ∀ before label after, P before → step before label after → P after)
    (run : Run step start labels stop) (hstart : P start) : P stop := by
  induction run with
  | nil => exact hstart
  | snoc _ last ih => exact hstep _ _ _ ih last

/-- The simulation rule: when every step is seen as some run of another system, every run is. -/
theorem simulate {State' Label' : Type*} {stepSeen : State' → Label' → State' → Prop}
    (view : State → State') {observed : Label → List Label'}
    (hstep : ∀ before label after, step before label after →
      Run stepSeen (view before) (observed label) (view after))
    (run : Run step start labels stop) :
    Run stepSeen (view start) (labels.flatMap observed) (view stop) := by
  induction run with
  | nil => exact nil
  | snoc _ last ih =>
    rw [List.flatMap_append, List.flatMap_singleton]
    exact append ih (hstep _ _ _ last)

/-- The forward simulation rule: a run is followed with the same labels wherever every step is. -/
theorem follow {State' : Type*} {step' : State' → Label → State' → Prop} {R : State → State' → Prop}
    (hstep : ∀ before label after before', R before before' → step before label after →
      ∃ after', step' before' label after' ∧ R after after')
    {start' : State'} (hstart : R start start') (run : Run step start labels stop) :
    ∃ stop', Run step' start' labels stop' ∧ R stop stop' := by
  induction run with
  | nil => exact ⟨start', nil, hstart⟩
  | snoc _ last ih =>
    obtain ⟨mid', run', hmid⟩ := ih
    obtain ⟨stop', last', hstop⟩ := hstep _ _ _ mid' hmid last
    exact ⟨stop', run'.snoc last', hstop⟩

/-- The determinism rule: when the input of a step determines its label and its outcome, the inputs
of a run determine the run. -/
theorem deterministic {Input : Type*} {input : Label → Input} {stop' : State}
    (hstep : ∀ before label label' after after', step before label after →
      step before label' after' → input label = input label' → label = label' ∧ after = after')
    (run : Run step start labels stop) (run' : Run step start labels' stop')
    (hinputs : labels.map input = labels'.map input) : labels = labels' ∧ stop = stop' := by
  induction run generalizing labels' stop' with
  | nil =>
    cases run' with
    | nil => exact ⟨rfl, rfl⟩
    | snoc => simp at hinputs
  | snoc _ last ih =>
    cases run' with
    | nil => simp at hinputs
    | snoc init' last' =>
      rw [List.map_append, List.map_append] at hinputs
      obtain ⟨hprior, hlast⟩ := List.append_inj' hinputs rfl
      obtain ⟨rfl, rfl⟩ := ih init' hprior
      obtain ⟨rfl, rfl⟩ := hstep _ _ _ _ _ last last' (List.singleton_inj.mp hlast)
      exact ⟨rfl, rfl⟩

end Run

namespace Reachable

theorem tail (h : Reachable step start mid) (hstep : step mid label stop) :
    Reachable step start stop := by
  obtain ⟨labels, run⟩ := h
  exact ⟨labels ++ [label], run.snoc hstep⟩

theorem trans (h : Reachable step start mid) (run : Run step mid labels stop) :
    Reachable step start stop := by
  obtain ⟨prior, first⟩ := h
  exact ⟨prior ++ labels, first.append run⟩

/-- The invariant rule: one step from a reachable state keeps the property. -/
theorem invariant {P : State → Prop} (hstart : P start)
    (hstep : ∀ before label after, Reachable step start before → P before →
      step before label after → P after)
    (h : Reachable step start stop) : P stop := by
  obtain ⟨labels, run⟩ := h
  induction run with
  | nil => exact hstart
  | snoc init last ih => exact hstep _ _ _ ⟨_, init⟩ ih last

end Reachable

end StellarTip.Foundation
