import StellarTip.Foundation.Transaction
import StellarTip.Foundation.Transition

/-!
# Two runs side by side

A relational logic for pairs of transactions. Two runs are coupled when they end alike: with the same
error, or successfully with results and states that a postcondition relates. The rules follow the
structure of the transactions, which are executed in step. A transaction respects a relation between
states when it is coupled with itself along the relation, which its parts decide. The last part lifts
the logic to labelled systems: two runs whose observable inputs agree have the same observable outputs,
provided that a relation between their states survives every silent step on either side and every pair
of observable steps.
-/

namespace StellarTip.Foundation

variable {σ τ ε α β : Type}

/-- Two outcomes are alike: the same error, or related results and states. -/
inductive Coupled (post : α → σ → β → τ → Prop) : Except ε (α × σ) → Except ε (β × τ) → Prop
  | ok {result : α} {final : σ} {result' : β} {final' : τ} (related : post result final result' final') :
      Coupled post (.ok (result, final)) (.ok (result', final'))
  | error (error : ε) : Coupled post (.error error) (.error error)

namespace Coupled

open Transaction

variable {α' β' : Type} {state : σ} {state' : τ} {error : ε}
  {post : α → σ → β → τ → Prop}

/-- Coupled runs fail together, and with the same error. -/
theorem eq_error_iff {outcome : Except ε (α × σ)} {outcome' : Except ε (β × τ)}
    (h : Coupled post outcome outcome') : outcome = .error error ↔ outcome' = .error error := by
  cases h <;> simp

theorem of_ok {m : Transaction σ ε α} {m' : Transaction τ ε β} (result : α) (result' : β)
    {final : σ} {final' : τ} (h : m.run state = .ok (result, final))
    (h' : m'.run state' = .ok (result', final')) (related : post result final result' final') :
    Coupled post (m.run state) (m'.run state') := by
  rw [h, h']
  exact .ok related

theorem of_error {m : Transaction σ ε α} {m' : Transaction τ ε β} (h : m.run state = .error error)
    (h' : m'.run state' = .error error) : Coupled post (m.run state) (m'.run state') := by
  rw [h, h']
  exact .error error

section Rules

variable {m : Transaction σ ε α'} {m' : Transaction τ ε β'} {f : α' → Transaction σ ε α}
  {f' : β' → Transaction τ ε β}

/-- The rule of composition. -/
theorem bind {mid : α' → σ → β' → τ → Prop} (hfirst : Coupled mid (m.run state) (m'.run state'))
    (hrest : ∀ result next result' next', mid result next result' next' →
      Coupled post ((f result).run next) ((f' result').run next')) :
    Coupled post ((m >>= f).run state) ((m' >>= f').run state') := by
  rw [StateT.run_bind, StateT.run_bind]
  generalize m.run state = outcome at hfirst
  generalize m'.run state' = outcome' at hfirst
  cases hfirst with
  | ok related => exact hrest _ _ _ _ related
  | error => exact .error _

theorem pure {result : α} {result' : β} (h : post result state result' state') :
    @Coupled σ τ ε α β post ((Pure.pure result : Transaction σ ε α).run state)
      ((Pure.pure result' : Transaction τ ε β).run state') := .ok h

/-- Reading never fails, and the reads need not agree. -/
theorem query {read : σ → α'} {read' : τ → β'}
    (hrest : Coupled post ((f (read state)).run state) ((f' (read' state')).run state')) :
    Coupled post ((Transaction.query read >>= f).run state)
      ((Transaction.query read' >>= f').run state') := hrest

variable {g : Unit → Transaction σ ε α} {g' : Unit → Transaction τ ε β}

theorem update {write : σ → σ} {write' : τ → τ}
    (hrest : Coupled post ((g ()).run (write state)) ((g' ()).run (write' state'))) :
    Coupled post ((Transaction.update write >>= g).run state)
      ((Transaction.update write' >>= g').run state') := hrest

/-- A check must come out the same on both sides. -/
theorem rejectIf {condition condition' : Prop} [Decidable condition] [Decidable condition']
    (hiff : condition ↔ condition')
    (hrest : ¬condition → Coupled post ((g ()).run state) ((g' ()).run state')) :
    Coupled post ((Transaction.rejectIf condition error >>= g).run state)
      ((Transaction.rejectIf condition' error >>= g').run state') := by
  have hcheck : Coupled (fun _ next _ next' ↦ ¬condition ∧ next = state ∧ next' = state')
      ((Transaction.rejectIf condition error).run state)
      ((Transaction.rejectIf condition' error).run state') := by
    by_cases h : condition
    · exact of_error (run_rejectIf_eq_error.mpr ⟨h, rfl⟩)
        (run_rejectIf_eq_error.mpr ⟨hiff.mp h, rfl⟩)
    · exact of_ok () () (run_rejectIf_of_not h) (run_rejectIf_of_not (hiff.not.mp h)) ⟨h, rfl, rfl⟩
  apply hcheck.bind
  rintro _ _ _ _ ⟨h, rfl, rfl⟩
  exact hrest h

/-- The same demanded value on both sides. -/
theorem demand {f : α' → Transaction σ ε α} {f' : α' → Transaction τ ε β} {value : Option α'}
    (hrest : ∀ result, value = some result →
      Coupled post ((f result).run state) ((f' result).run state')) :
    Coupled post ((Transaction.demand value error >>= f).run state)
      ((Transaction.demand value error >>= f').run state') := by
  cases value with
  | none => exact .error _
  | some result => exact hrest result rfl

end Rules

end Coupled

/-- Started in related states, the transaction ends alike: with the same error, or with the same
result and in related states. -/
def Respects (R : σ → σ → Prop) (m : Transaction σ ε α) : Prop :=
  ∀ ⦃state state' : σ⦄, R state state' →
    Coupled (fun result final result' final' ↦ result = result' ∧ R final final') (m.run state)
      (m.run state')

namespace Respects

variable {R : σ → σ → Prop} {m : Transaction σ ε α} {f : α → Transaction σ ε β}

theorem pure (result : α) : Respects R (Pure.pure result : Transaction σ ε α) :=
  fun _ _ h ↦ .pure ⟨rfl, h⟩

/-- A sequence respects what its parts respect. -/
theorem bind (hm : Respects R m) (hf : ∀ result, Respects R (f result)) : Respects R (m >>= f) := by
  intro state state' h
  refine (hm h).bind ?_
  rintro result next _ next' ⟨rfl, hnext⟩
  exact hf result hnext

/-- A read that comes out the same in related states. -/
theorem query {read : σ → α} (h : ∀ state state', R state state' → read state = read state') :
    Respects R (Transaction.query read : Transaction σ ε α) :=
  fun state state' hrelated ↦ .of_ok _ _ rfl rfl ⟨h state state' hrelated, hrelated⟩

theorem update {write : σ → σ} (h : ∀ state state', R state state' → R (write state) (write state')) :
    Respects R (Transaction.update write : Transaction σ ε Unit) :=
  fun state state' hrelated ↦ .of_ok _ _ rfl rfl ⟨rfl, h state state' hrelated⟩

theorem rejectIf (condition : Prop) [Decidable condition] (error : ε) :
    Respects R (Transaction.rejectIf condition error : Transaction σ ε Unit) := by
  intro state state' h
  by_cases hcondition : condition
  · exact .of_error (Transaction.run_rejectIf_eq_error.mpr ⟨hcondition, rfl⟩)
      (Transaction.run_rejectIf_eq_error.mpr ⟨hcondition, rfl⟩)
  · exact .of_ok _ _ (Transaction.run_rejectIf_of_not hcondition)
      (Transaction.run_rejectIf_of_not hcondition) ⟨rfl, h⟩

theorem demand (value : Option α) (error : ε) :
    Respects R (Transaction.demand value error : Transaction σ ε α) := by
  intro state state' h
  cases value with
  | none => exact .error error
  | some result => exact .ok ⟨rfl, h⟩

theorem ite {condition : Prop} [Decidable condition] {m m' : Transaction σ ε α}
    (hm : Respects R m) (hm' : Respects R m') : Respects R (if condition then m else m') := by
  split
  · exact hm
  · exact hm'

theorem forM {body : β → Transaction σ ε PUnit} (hbody : ∀ item, Respects R (body item))
    (items : List β) : Respects R (forM items body) := by
  induction items with
  | nil => exact pure PUnit.unit
  | cons item items ih => exact bind (hbody item) fun _ ↦ ih

end Respects

section Lockstep

variable {State State' Label Label' Input Output : Type*} {step : State → Label → State → Prop}
  {step' : State' → Label' → State' → Prop} {observe : Label → Option (Input × Output)}
  {observe' : Label' → Option (Input × Output)} {R : State → State' → Prop}

/-- The steps that keep `R`: silent ones on either side alone, observable ones with the same input on
both sides, which then have the same output. -/
structure Lockstep (step : State → Label → State → Prop) (step' : State' → Label' → State' → Prop)
    (observe : Label → Option (Input × Output)) (observe' : Label' → Option (Input × Output))
    (R : State → State' → Prop) : Prop where
  left_silent : ∀ {before label after other}, R before other → step before label after →
    observe label = none → R after other
  right_silent : ∀ {before label after other}, R other before → step' before label after →
    observe' label = none → R other after
  both : ∀ {before label after before' label' after' input output output'}, R before before' →
    step before label after → step' before' label' after' → observe label = some (input, output) →
    observe' label' = some (input, output') → output = output' ∧ R after after'

/-- Two runs in lockstep with the same observable inputs have the same observable outputs. -/
theorem Lockstep.run (h : Lockstep step step' observe observe' R) {start stop : State}
    {start' stop' : State'} {labels : List Label} {labels' : List Label'}
    (hstart : R start start') (hrun : Run step start labels stop)
    (hrun' : Run step' start' labels' stop')
    (hinputs : (labels.filterMap observe).map Prod.fst =
      (labels'.filterMap observe').map Prod.fst) :
    labels.filterMap observe = labels'.filterMap observe' ∧ R stop stop' := by
  induction hrun generalizing labels' stop' with
  | nil =>
    induction hrun' with
    | nil => exact ⟨rfl, hstart⟩
    | @snoc labels' mid' stop' label' init' last' ih' =>
      rw [List.filterMap_append, List.map_append] at hinputs
      obtain ⟨hinit, hlast⟩ := List.append_eq_nil_iff.mp hinputs.symm
      obtain ⟨houtputs, hmid⟩ := ih' hinit.symm
      cases hobserve : observe' label' with
      | none =>
        refine ⟨?_, h.right_silent hmid last' hobserve⟩
        simpa [List.filterMap_append, hobserve] using houtputs
      | some observed => simp [hobserve] at hlast
  | @snoc labels mid stop label init last ih =>
    cases hobserve : observe label with
    | none =>
      have hsame : (labels ++ [label]).filterMap observe = labels.filterMap observe := by
        simp [List.filterMap_append, hobserve]
      rw [hsame] at hinputs ⊢
      obtain ⟨houtputs, hmid⟩ := ih hrun' hinputs
      exact ⟨houtputs, h.left_silent hmid last hobserve⟩
    | some observed =>
      -- The other run ends with silent steps after the step that matches the last one here.
      induction hrun' with
      | nil => simp [List.filterMap_append, hobserve] at hinputs
      | @snoc labels' mid' stop' label' init' last' ih' =>
        cases hobserve' : observe' label' with
        | none =>
          have hsame : (labels' ++ [label']).filterMap observe' = labels'.filterMap observe' := by
            simp [List.filterMap_append, hobserve']
          rw [hsame] at hinputs ⊢
          obtain ⟨houtputs, hmid⟩ := ih' hinputs
          exact ⟨houtputs, h.right_silent hmid last' hobserve'⟩
        | some observed' =>
          obtain ⟨input, output⟩ := observed
          obtain ⟨input', output'⟩ := observed'
          simp only [List.filterMap_append, List.filterMap_cons, List.filterMap_nil, hobserve,
            hobserve', List.map_append, List.map_cons, List.map_nil] at hinputs ⊢
          obtain ⟨hinit, hlast⟩ := List.append_inj' hinputs rfl
          obtain rfl : input = input' := List.singleton_inj.mp hlast
          obtain ⟨houtputs, hmid⟩ := ih init' hinit
          obtain ⟨rfl, hstop⟩ := h.both hmid last last' hobserve hobserve'
          exact ⟨by rw [houtputs], hstop⟩

end Lockstep

end StellarTip.Foundation
