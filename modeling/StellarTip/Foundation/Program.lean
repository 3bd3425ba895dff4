import StellarTip.Foundation.Transaction

/-!
# Programs over operations

A program performs operations one after the other, and each answer decides how it goes on. What the
operations do is left to a handler, so the same program can be run over different states.

The trail of a run lists the accesses that its operations make, read in the states where they are
performed. When every access is also audited against a ledger of its own, the audited run is the
plain run together with the audit of its trail: it stops where the audit does, and otherwise ends as
the plain run ends.
-/

namespace StellarTip.Foundation

/-- Programs that perform operations of the signature `Op` and end with an `α`. -/
inductive Program (Op : Type → Type 1) (α : Type) : Type 1
  | done (value : α)
  | perform {β : Type} (op : Op β) (next : β → Program Op α)

/-- What every operation does to a state. -/
abbrev Handler (Op : Type → Type 1) (σ ε : Type) := ∀ {β : Type}, Op β → Transaction σ ε β

namespace Program

open Transaction

variable {Op : Type → Type 1} {σ τ ε δ Access α β : Type}

def bind : Program Op α → (α → Program Op β) → Program Op β
  | done value, rest => rest value
  | perform op next, rest => perform op fun answer ↦ (next answer).bind rest

instance : Monad (Program Op) where
  pure := done
  bind := bind

/-- A single operation. -/
def lift (op : Op α) : Program Op α := perform op done

def run (handler : Handler Op σ ε) : Program Op α → Transaction σ ε α
  | done value => pure value
  | perform op next => do
      let answer ← handler op
      (next answer).run handler

variable {handler : Handler Op σ ε}

@[simp]
theorem run_pure (value : α) : (pure value : Program Op α).run handler = pure value := rfl

@[simp]
theorem run_lift (op : Op α) : (lift op).run handler = handler op :=
  bind_pure (m := Transaction σ ε) _

@[simp]
theorem run_bind (program : Program Op α) (rest : α → Program Op β) :
    (program >>= rest).run handler =
      program.run handler >>= fun value ↦ (rest value).run handler := by
  induction program with
  | done value => rfl
  | perform op next ih =>
    calc
      _ = handler op >>= fun answer ↦ (next answer >>= rest).run handler := rfl
      _ = handler op >>= fun answer ↦
          (next answer).run handler >>= fun value ↦ (rest value).run handler := by
        simp only [ih]
      _ = _ := (bind_assoc _ _ _).symm

@[simp]
theorem run_ite {condition : Prop} [Decidable condition] (program other : Program Op α) :
    (if condition then program else other).run handler =
      if condition then program.run handler else other.run handler := by
  split <;> rfl

@[simp]
theorem run_forM (items : List α) (body : α → Program Op PUnit) :
    (forM items body).run handler = forM items fun item ↦ (body item).run handler := by
  induction items with
  | nil => rfl
  | cons item items ih =>
    rw [List.forM_cons, List.forM_cons, run_bind, ih]

section Trail

variable (handler : Handler Op σ ε) (accesses : ∀ {β : Type}, Op β → σ → List Access)

/-- The accesses of a run from a state, in order; after a failed operation there are none. -/
def trail : Program Op α → σ → List Access
  | done _, _ => []
  | perform op next, state =>
      accesses op state ++
        match (handler op).run state with
        | .ok (answer, mid) => (next answer).trail mid
        | .error _ => []

variable {handler accesses} {state mid : σ} {value : α}

@[simp]
theorem trail_pure (value : α) : (pure value : Program Op α).trail handler accesses state = [] := rfl

@[simp]
theorem trail_lift (op : Op α) : (lift op).trail handler accesses state = accesses op state := by
  unfold lift trail
  cases (handler op).run state <;> exact List.append_nil _

theorem trail_bind (program : Program Op α) (rest : α → Program Op β) :
    (program >>= rest).trail handler accesses state =
      program.trail handler accesses state ++
        match (program.run handler).run state with
        | .ok (value, mid) => (rest value).trail handler accesses mid
        | .error _ => [] := by
  induction program generalizing state with
  | done value => rfl
  | perform op next ih =>
    change (perform op fun answer ↦ next answer >>= rest).trail handler accesses state = _
    rw [trail, trail, List.append_assoc, run, StateT.run_bind]
    congr 1
    cases (handler op).run state with
    | error error => rfl
    | ok pair => exact ih pair.1

/-- Returning a function of the value leaves no trace. -/
theorem trail_returning (program : Program Op α) (f : α → β) :
    (program >>= fun value ↦ pure (f value)).trail handler accesses state =
      program.trail handler accesses state := by
  rw [trail_bind]
  cases (program.run handler).run state <;> exact List.append_nil _

/-- A successful run with its trail, its value and its final state. -/
structure Traced (handler : Handler Op σ ε) (accesses : ∀ {β : Type}, Op β → σ → List Access)
    (program : Program Op α) (state : σ) (trail : List Access) (value : α) (final : σ) : Prop where
  run : (program.run handler).run state = .ok (value, final)
  trail : program.trail handler accesses state = trail

namespace Traced

variable {final : σ} {result : β} {first second : List Access} {program : Program Op α}
  {rest : α → Program Op β}

theorem pure (value : α) :
    Traced handler accesses (Pure.pure value : Program Op α) state [] value state := ⟨rfl, rfl⟩

theorem lift {op : Op α} (h : (handler op).run state = .ok (value, final)) :
    Traced handler accesses (Program.lift op) state (accesses op state) value final where
  run := by rw [run_lift, h]
  trail := trail_lift op

/-- The trails of two parts in a row. -/
theorem bind (hfirst : Traced handler accesses program state first value mid)
    (hrest : Traced handler accesses (rest value) mid second result final) :
    Traced handler accesses (program >>= rest) state (first ++ second) result final where
  run := by
    rw [run_bind, run_bind_of_eq_ok hfirst.run, hrest.run]
  trail := by
    rw [trail_bind, hfirst.run, hfirst.trail]
    exact congrArg (first ++ ·) hrest.trail

/-- A part that accesses nothing leaves no trace. -/
theorem silent (hfirst : Traced handler accesses program state [] value mid)
    (hrest : Traced handler accesses (rest value) mid second result final) :
    Traced handler accesses (program >>= rest) state second result final :=
  hfirst.bind hrest

/-- A part with a single access. -/
theorem cons {access : Access}
    (hfirst : Traced handler accesses program state [access] value mid)
    (hrest : Traced handler accesses (rest value) mid second result final) :
    Traced handler accesses (program >>= rest) state (access :: second) result final :=
  hfirst.bind hrest

/-- A loop whose body leaves the state as it is. -/
theorem forM {body : α → Program Op PUnit} {trace : α → List Access} {items : List α}
    (hbody : ∀ item ∈ items, Traced handler accesses (body item) state (trace item) PUnit.unit state) :
    Traced handler accesses (ForM.forM items body) state (items.flatMap trace) PUnit.unit
      state := by
  induction items with
  | nil => exact pure PUnit.unit
  | cons item items ih =>
    rw [List.forM_cons, List.flatMap_cons]
    exact (hbody item List.mem_cons_self).bind
      (ih fun other hother ↦ hbody other (List.mem_cons_of_mem item hother))

/-- The trail alone, where the final state does not matter. -/
theorem trail_append (hfirst : Traced handler accesses program state first value mid)
    (hrest : (rest value).trail handler accesses mid = second) :
    (program >>= rest).trail handler accesses state = first ++ second := by
  rw [trail_bind, hfirst.run, hfirst.trail]
  exact congrArg (first ++ ·) hrest

theorem trail_cons {access : Access}
    (hfirst : Traced handler accesses program state [access] value mid)
    (hrest : (rest value).trail handler accesses mid = second) :
    (program >>= rest).trail handler accesses state = access :: second :=
  hfirst.trail_append hrest

theorem trail_silent (hfirst : Traced handler accesses program state [] value mid)
    (hrest : (rest value).trail handler accesses mid = second) :
    (program >>= rest).trail handler accesses state = second :=
  hfirst.trail_append hrest

end Traced

end Trail

/-! ## Audited runs -/

section Audit

variable (handler : Handler Op σ ε) (accesses : ∀ {β : Type}, Op β → σ → List Access)
  (audit : τ → Access → Option τ) (embed : ε → δ) (stop : δ)

/-- Every access of an operation is audited before the operation is performed; a failed audit stops
the run. -/
def audited : Handler Op (σ × τ) δ := fun op state ↦
  match (accesses op state.1).foldlM audit state.2 with
  | none => .error stop
  | some ledger =>
      match (handler op).run state.1 with
      | .ok (answer, final) => .ok (answer, (final, ledger))
      | .error error => .error (embed error)

/-- An audited run is the plain run and the audit of its trail. -/
theorem run_audited (program : Program Op α) (state : σ) (ledger : τ) :
    (program.run (audited handler accesses audit embed stop)).run (state, ledger) =
      match (program.trail handler accesses state).foldlM audit ledger with
      | none => .error stop
      | some ledger' =>
          match (program.run handler).run state with
          | .ok (value, final) => .ok (value, (final, ledger'))
          | .error error => .error (embed error) := by
  induction program generalizing state ledger with
  | done value => rfl
  | perform op next ih =>
    rw [run, run, StateT.run_bind, StateT.run_bind, trail, List.foldlM_append]
    change (audited handler accesses audit embed stop op (state, ledger) >>= _) = _
    rw [audited]
    cases (accesses op state).foldlM audit ledger with
    | none => rfl
    | some ledger' =>
      cases (handler op).run state with
      | error error => rfl
      | ok pair => exact ih pair.1 pair.2 ledger'

end Audit

end Program

section Cells

variable {κ V Access : Type} [DecidableEq κ] (cell : Access → κ) (check : V → Access → Option V)

/-- An access audits the cell that it names and no other. -/
def auditCells (cells : κ → V) (access : Access) : Option (κ → V) :=
  (check (cells (cell access)) access).map (Function.update cells (cell access))

end Cells

end StellarTip.Foundation
