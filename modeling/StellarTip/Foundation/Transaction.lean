import Mathlib.Data.List.Basic

/-!
# Atomic transactions

A transaction reads and writes a state and either returns a value or aborts with an error. An
aborted transaction has no final state, which is how an all-or-nothing rollback is expressed. The
lemmas invert the result of a run: they turn a successful run of a composite transaction into the
successful runs of its parts, and a failed one into the part that failed.
-/

namespace StellarTip.Foundation

/-- State-passing computations over `σ` that abort with an `ε`. -/
abbrev Transaction (σ ε : Type) := StateT σ (Except ε)

namespace Transaction

variable {σ ε α β : Type} {state final : σ} {error : ε}

/-- Read a component of the state. -/
def query (f : σ → α) : Transaction σ ε α := fun state ↦ .ok (f state, state)

/-- Change the state. -/
def update (f : σ → σ) : Transaction σ ε Unit := fun state ↦ .ok ((), f state)

/-- Abort when a condition holds. -/
def rejectIf (condition : Prop) [Decidable condition] (error : ε) : Transaction σ ε Unit :=
  fun state ↦ if condition then .error error else .ok ((), state)

/-- The value of an option, or an abort when there is none. -/
def demand (value : Option α) (error : ε) : Transaction σ ε α := fun state ↦
  match value with
  | some value => .ok (value, state)
  | none => .error error

theorem run_bind_eq_ok {m : Transaction σ ε α} {f : α → Transaction σ ε β} {result : β} :
    (m >>= f).run state = .ok (result, final) ↔
      ∃ value mid, m.run state = .ok (value, mid) ∧ (f value).run mid = .ok (result, final) := by
  rw [StateT.run_bind]
  cases h : m.run state with
  | error e => simp [bind, Except.bind]
  | ok pair => simp [bind, Except.bind, Prod.ext_iff]

theorem run_bind_eq_error {m : Transaction σ ε α} {f : α → Transaction σ ε β} :
    (m >>= f).run state = .error error ↔
      m.run state = .error error ∨
        ∃ value mid, m.run state = .ok (value, mid) ∧ (f value).run mid = .error error := by
  rw [StateT.run_bind]
  cases h : m.run state with
  | error e => simp [bind, Except.bind]
  | ok pair => simp [bind, Except.bind, Prod.ext_iff]

theorem run_bind_of_eq_ok {m : Transaction σ ε α} {f : α → Transaction σ ε β} {value : α} {mid : σ}
    (h : m.run state = .ok (value, mid)) : (m >>= f).run state = (f value).run mid := by
  rw [StateT.run_bind, h]
  rfl

/-- Two sequences run alike when their first parts do, and the rests do on what the first part
leaves. -/
theorem run_bind_congr {m m' : Transaction σ ε α} {f f' : α → Transaction σ ε β}
    (hfirst : m.run state = m'.run state)
    (hrest : ∀ value mid, m'.run state = .ok (value, mid) →
      (f value).run mid = (f' value).run mid) :
    (m >>= f).run state = (m' >>= f').run state := by
  rw [StateT.run_bind, StateT.run_bind, hfirst]
  cases hrun : m'.run state with
  | error e => rfl
  | ok pair => exact hrest pair.1 pair.2 hrun

theorem run_pure_eq_ok {value result : α} :
    (pure value : Transaction σ ε α).run state = .ok (result, final) ↔
      result = value ∧ final = state := by
  change (Except.ok (value, state) : Except ε (α × σ)) = .ok (result, final) ↔ _
  simp only [Except.ok.injEq, Prod.mk.injEq, eq_comm]

theorem run_pure_eq_error {value : α} :
    (pure value : Transaction σ ε α).run state = .error error ↔ False := by
  change (Except.ok (value, state) : Except ε (α × σ)) = .error error ↔ False
  simp only [reduceCtorEq]

theorem run_query_eq_ok {f : σ → α} {result : α} :
    (query f : Transaction σ ε α).run state = .ok (result, final) ↔
      result = f state ∧ final = state := by
  simp only [query, StateT.run, Except.ok.injEq, Prod.mk.injEq, eq_comm]

theorem run_query_eq_error {f : σ → α} :
    (query f : Transaction σ ε α).run state = .error error ↔ False := by
  simp [query, StateT.run]

/-- Where the read succeeds, demanding its value and falling back to a default are the same. -/
theorem run_demand_query_bind {read : σ → Option α} {f : α → Transaction σ ε β}
    (h : read state ≠ none) (default : α) :
    (query read >>= fun value ↦ demand value error >>= f).run state =
      (query read >>= fun value ↦ f (value.getD default)).run state := by
  obtain ⟨value, hvalue⟩ := Option.ne_none_iff_exists'.mp h
  have hread : (query read : Transaction σ ε (Option α)).run state = .ok (some value, state) :=
    run_query_eq_ok.mpr ⟨hvalue.symm, rfl⟩
  rw [run_bind_of_eq_ok hread, run_bind_of_eq_ok hread]
  exact run_bind_of_eq_ok rfl

theorem run_update_eq_ok {f : σ → σ} {result : Unit} :
    (update f : Transaction σ ε Unit).run state = .ok (result, final) ↔ final = f state := by
  simp only [update, StateT.run, Except.ok.injEq, Prod.mk.injEq, true_and, eq_comm]

theorem run_update_eq_error {f : σ → σ} :
    (update f : Transaction σ ε Unit).run state = .error error ↔ False := by
  simp [update, StateT.run]

theorem run_rejectIf_eq_ok {condition : Prop} [Decidable condition] {result : Unit} :
    (rejectIf condition error).run state = .ok (result, final) ↔
      ¬condition ∧ final = state := by
  by_cases h : condition <;> simp [rejectIf, StateT.run, h, eq_comm]

theorem run_rejectIf_of_not {condition : Prop} [Decidable condition] (h : ¬condition) :
    (rejectIf condition error).run state = .ok ((), state) :=
  run_rejectIf_eq_ok.mpr ⟨h, rfl⟩

theorem run_rejectIf_eq_error {condition : Prop} [Decidable condition] {cause : ε} :
    (rejectIf condition cause).run state = .error error ↔ condition ∧ error = cause := by
  by_cases h : condition <;> simp [rejectIf, StateT.run, h, eq_comm]

theorem run_demand_eq_ok {value : Option α} {result : α} :
    (demand value error).run state = .ok (result, final) ↔
      value = some result ∧ final = state := by
  cases value <;> simp [demand, StateT.run, eq_comm]

theorem run_demand_eq_error {value : Option α} {cause : ε} :
    (demand value cause).run state = .error error ↔ value = none ∧ error = cause := by
  cases value <;> simp [demand, StateT.run, eq_comm]

/-- A loop whose body only checks its element succeeds when every element passes. -/
theorem run_forM_eq_ok {body : α → Transaction σ ε PUnit} {passes : α → Prop}
    (hbody : ∀ item final, (body item).run state = .ok ((), final) ↔ passes item ∧ final = state)
    (items : List α) {result : PUnit} :
    (forM items body).run state = .ok (result, final) ↔
      (∀ item ∈ items, passes item) ∧ final = state := by
  induction items with
  | nil =>
    rw [List.forM_nil, run_pure_eq_ok]
    simp
  | cons item items ih =>
    rw [List.forM_cons, run_bind_eq_ok]
    simp only [List.mem_cons, forall_eq_or_imp]
    constructor
    · rintro ⟨⟨⟩, mid, hitem, hrest⟩
      obtain ⟨hpass, rfl⟩ := (hbody item mid).mp hitem
      obtain ⟨hall, hfinal⟩ := ih.mp hrest
      exact ⟨⟨hpass, hall⟩, hfinal⟩
    · rintro ⟨⟨hpass, hall⟩, hfinal⟩
      exact ⟨(), state, (hbody item state).mpr ⟨hpass, rfl⟩, ih.mpr ⟨hall, hfinal⟩⟩

/-- A loop whose body only checks its element fails with the error of the checks. -/
theorem run_forM_eq_error {body : α → Transaction σ ε PUnit} {passes : α → Prop} {cause : ε}
    (hok : ∀ item final, (body item).run state = .ok ((), final) ↔ passes item ∧ final = state)
    (herror : ∀ item error, (body item).run state = .error error ↔ ¬passes item ∧ error = cause)
    (items : List α) :
    (forM items body).run state = .error error ↔
      (∃ item ∈ items, ¬passes item) ∧ error = cause := by
  induction items with
  | nil =>
    rw [List.forM_nil, run_pure_eq_error]
    simp
  | cons item items ih =>
    rw [List.forM_cons, run_bind_eq_error, herror]
    simp only [List.mem_cons, exists_eq_or_imp]
    constructor
    · rintro (⟨hfail, rfl⟩ | ⟨⟨⟩, mid, hitem, hrest⟩)
      · exact ⟨.inl hfail, rfl⟩
      · obtain ⟨-, rfl⟩ := (hok item mid).mp hitem
        obtain ⟨hsome, rfl⟩ := ih.mp hrest
        exact ⟨.inr hsome, rfl⟩
    · rintro ⟨hsome, rfl⟩
      by_cases hpass : passes item
      · have hrest := ih.mpr ⟨hsome.resolve_left fun hfail ↦ hfail hpass, rfl⟩
        exact .inr ⟨(), state, (hok item state).mpr ⟨hpass, rfl⟩, hrest⟩
      · exact .inl ⟨hpass, rfl⟩

end Transaction

end StellarTip.Foundation
