import StellarTip.Administration.Pause
import StellarTip.Contract.Configuration

/-!
# An admin who can act

The contract's own address and the all-zero account never authorize anything, so an admin who is one
of them can neither unpause nor hand over. `set_admin` refuses the all-zero account but takes the
contract's own address, and `init` takes the all-zero account as fee recipient. Along runs whose
accepted calls avoid these two arguments the admin can always act, and each of the two arguments breaks
the property at once.
-/

namespace StellarTip

open Foundation TipContract

variable {Address Symbol World : Type} [LinearOrder Address]

/-- The all-zero account, to which `set_admin` compares its argument. -/
def nullAddress (host : Host Address World) : Address := host.addressFromString ZERO_ADDRESS

variable {host : Host Address World}

/-- The host grants no authorization of the all-zero account. -/
def Label.NullUnsigned : Label host Symbol → Prop
  | .accepted env .. | .rejected env .. => env.authorized (nullAddress host) = false
  | .outside => True

/-- No accepted call makes the contract its own admin, or initializes it with the all-zero account as
fee recipient. -/
def Label.AvoidsSelfReference : Label host Symbol → Prop
  | .accepted _ (.setAdmin _ newAdmin) _ => newAdmin ≠ host.currentContractAddress
  | .accepted _ (.init _ feeRecipient ..) _ => feeRecipient ≠ nullAddress host
  | _ => True

variable [DecidableEq Symbol]

/-- Neither the admin nor the fee recipient is an address that cannot act, and the admin can unpause
and hand over. -/
structure ActingAdmin (host : Host Address World) (state : State Address Symbol World) : Prop where
  admin_ne_contract : getAdmin state.storage ≠ some host.currentContractAddress
  admin_ne_null : getAdmin state.storage ≠ some (nullAddress host)
  feeRecipient_ne_contract : getFeeRecipient state.storage ≠ some host.currentContractAddress
  callable : getAdmin state.storage ≠ none → ∃ (env : Env host) (admin : Address),
    env.authorized (nullAddress host) = false ∧
      (∃ receipt state', invoke env (.unpause admin) state = .ok (receipt, state')) ∧
      ∀ newAdmin, newAdmin ≠ admin → newAdmin ≠ nullAddress host →
        ∃ receipt state', invoke env (.setAdmin admin newAdmin) state = .ok (receipt, state')

variable {env : Env host} {state state' start stop : State Address Symbol World}
  {call : Call Address Symbol} {receipt : Receipt Address Symbol} {label : Label host Symbol}
  {labels : List (Label host Symbol)} {world : World}

/-- An environment in which a single address signs. -/
def signedOnlyBy (host : Host Address World) (signer : Address)
    (h : signer ≠ host.currentContractAddress) : Env host where
  timestamp := 0
  authorized address := decide (address = signer)
  contract_unauthorized := decide_eq_false h.symm

/-- An admin who is neither of the two addresses can unpause and hand over. -/
theorem callable_of_ne {admin : Address} (hadmin : getAdmin state.storage = some admin)
    (hcontract : admin ≠ host.currentContractAddress) (hnull : admin ≠ nullAddress host) :
    ∃ (env : Env host) (admin : Address), env.authorized (nullAddress host) = false ∧
      (∃ receipt state', invoke env (.unpause admin) state = .ok (receipt, state')) ∧
      ∀ newAdmin, newAdmin ≠ admin → newAdmin ≠ nullAddress host →
        ∃ receipt state', invoke env (.setAdmin admin newAdmin) state = .ok (receipt, state') := by
  refine ⟨signedOnlyBy host admin hcontract, admin, decide_eq_false hnull.symm,
    setter_succeeds rfl hadmin (decide_eq_true rfl) rfl, fun newAdmin hne hvalid ↦ ?_⟩
  exact setter_succeeds rfl hadmin (decide_eq_true rfl) (decide_eq_false (not_or.mpr ⟨hne, hvalid⟩))

/-- Whom an accepted call puts in office. -/
theorem Accepts.appointed_cases (h : Accepts env state call receipt state') {admin : Address}
    (happoints : call.appoints = some admin) :
    env.authorized admin = true ∨
      ((∃ caller, call = .setAdmin caller admin) ∧ admin ≠ nullAddress host) := by
  cases h with
  | init authorized =>
    cases happoints
    exact .inl authorized
  | configure setter _ _ valid =>
    cases call <;> cases happoints
    · cases setter
    · cases setter
      exact .inr ⟨⟨_, rfl⟩, fun heq ↦ (of_decide_eq_false valid) (.inr heq)⟩
  | _ => cases happoints

/-- The stored admin was put in office by a step of the run. -/
theorem exists_appointment (run : Run (Step host) (deployed Symbol world) labels state)
    {admin : Address} (hadmin : getAdmin state.storage = some admin) :
    ∃ env call receipt before after, .accepted env call receipt ∈ labels ∧
      Accepts env before call receipt after ∧ call.appoints = some admin := by
  rw [getAdmin_eq_getLast run] at hadmin
  obtain ⟨label, hmem, happointed⟩ := List.mem_filterMap.mp (List.mem_of_getLast? hadmin)
  obtain ⟨prior, later, rfl⟩ := List.append_of_mem hmem
  obtain ⟨before, after, -, hstep, -⟩ := run.exists_step
  cases hstep with
  | @accepted env call receipt _ _ ok =>
    exact ⟨env, call, receipt, before, after, hmem, invoke_eq_ok_iff.mp ok, happointed⟩
  | _ => cases happointed

theorem actingAdmin_of_guarded (run : Run (Step host) (deployed Symbol world) labels state)
    (hnull : ∀ label ∈ labels, label.NullUnsigned)
    (hguard : ∀ label ∈ labels, label.AvoidsSelfReference) : ActingAdmin host state := by
  have hne {admin : Address} (hadmin : getAdmin state.storage = some admin) :
      admin ≠ host.currentContractAddress ∧ admin ≠ nullAddress host := by
    obtain ⟨env, call, receipt, before, after, hmem, haccepts, happoints⟩ :=
      exists_appointment run hadmin
    rcases haccepts.appointed_cases happoints with hauth | ⟨⟨caller, rfl⟩, hvalid⟩
    · refine ⟨(env.ne_of_authorized hauth).symm, ?_⟩
      rintro rfl
      exact absurd (hauth.symm.trans (hnull _ hmem)) (by decide)
    · exact ⟨hguard _ hmem, hvalid⟩
  refine ⟨fun h ↦ (hne h).1 rfl, fun h ↦ (hne h).2 rfl,
    (ConfigurationInvariant.of_reachable (.of_deployed run)).feeRecipient_ne, fun hsome ↦ ?_⟩
  obtain ⟨admin, hadmin⟩ := Option.ne_none_iff_exists'.mp hsome
  exact callable_of_ne hadmin (hne hadmin).1 (hne hadmin).2

/-- The fee recipient that an accepted initialization stores. -/
theorem Step.feeRecipient_of_init {caller feeRecipient : Address}
    {feeBps maxCreators maxTipsPerCreator : U32} {minTipAmount : I128}
    (h : Step host state (.accepted env
      (.init caller feeRecipient feeBps maxCreators maxTipsPerCreator minTipAmount) receipt) state') :
    getFeeRecipient state'.storage = some feeRecipient := by
  cases h.accepts with
  | init => simp [getFeeRecipient, Storage.afterInit]
  | configure setter => cases setter

/-- An accepted call that uses one of the two arguments breaks the property at once. -/
theorem Step.avoidsSelfReference (h : Step host state label state')
    (hadmin : getAdmin state'.storage ≠ some host.currentContractAddress)
    (hrecipient : label.IsInit → getFeeRecipient state'.storage ≠ some (nullAddress host)) :
    label.AvoidsSelfReference := by
  cases label with
  | accepted env call receipt =>
    cases call with
    | init =>
      intro heq
      rw [h.feeRecipient_of_init, heq] at hrecipient
      exact hrecipient trivial rfl
    | setAdmin =>
      intro heq
      rw [h.accepts.getAdmin_eq, heq] at hadmin
      exact hadmin rfl
    | _ => trivial
  | rejected => trivial
  | outside => trivial

/-- The admin can act in every state that a run goes through, and its initialization stores a fee
recipient other than the all-zero account, exactly when the accepted calls of the run avoid the two
arguments. -/
theorem acting_admin_iff_guarded (run : Run (Step host) (deployed Symbol world) labels state)
    (hnull : ∀ label ∈ labels, label.NullUnsigned) :
    (∀ label ∈ labels, label.AvoidsSelfReference) ↔
      ∀ prior later after, labels = prior ++ later →
        Run (Step host) (deployed Symbol world) prior after →
          ActingAdmin host after ∧
          ∀ earlier label, prior = earlier ++ [label] → label.IsInit →
            getFeeRecipient after.storage ≠ some (nullAddress host) := by
  constructor
  · rintro hguard prior later after rfl hprior
    refine ⟨actingAdmin_of_guarded hprior
      (fun label hmem ↦ hnull label (List.mem_append_left _ hmem))
      (fun label hmem ↦ hguard label (List.mem_append_left _ hmem)), ?_⟩
    rintro earlier label rfl hinit
    obtain ⟨before, -, hlast⟩ := hprior.split [label]
    have hlabel := hguard label (by simp)
    cases label with
    | accepted env call receipt =>
      cases call with
      | init =>
        rw [hlast.step_of_singleton.feeRecipient_of_init]
        exact fun heq ↦ hlabel (Option.some.inj heq)
      | _ => exact hinit.elim
    | _ => exact hinit.elim
  · intro hacting label hmem
    obtain ⟨prior, later, rfl⟩ := List.append_of_mem hmem
    obtain ⟨before, after, hprior, hstep, -⟩ := run.exists_step
    obtain ⟨hadmin, hrecipient⟩ := hacting (prior ++ [label]) later after (by simp)
      (hprior.snoc hstep)
    exact hstep.avoidsSelfReference hadmin.admin_ne_contract (hrecipient prior label rfl)

/-- A run that puts admin 4 in office after admin 1. -/
theorem acting_admin_after_handover :
    ActingAdmin marketHost (replay marketStart [marketInit (u32 500),
      (signedBy marketHost 1 (u64 101), .pause 1),
      (signedBy marketHost 1 (u64 102), .setAdmin 1 4)]).2 := by
  have hnull : ∀ label ∈ (replay marketStart [marketInit (u32 500),
      (signedBy marketHost 1 (u64 101), .pause 1),
      (signedBy marketHost 1 (u64 102), .setAdmin 1 4)]).1, label.NullUnsigned := by
    intro label hmem
    simp only [replay, List.mem_cons, List.not_mem_nil, or_false] at hmem
    rcases hmem with rfl | rfl | rfl <;> rfl
  have hguard : ∀ label ∈ (replay marketStart [marketInit (u32 500),
      (signedBy marketHost 1 (u64 101), .pause 1),
      (signedBy marketHost 1 (u64 102), .setAdmin 1 4)]).1, label.AvoidsSelfReference := by
    intro label hmem
    simp only [replay, List.mem_cons, List.not_mem_nil, or_false] at hmem
    rcases hmem with rfl | rfl | rfl
    · exact fun heq ↦ absurd heq (by decide)
    · trivial
    · exact fun heq ↦ absurd heq (by decide)
  exact ((acting_admin_iff_guarded (run_replay _ _) hnull).mp hguard _ [] _ (by simp)
    (run_replay _ _)).1

/-- Once the contract is its own admin, it stays so, and no setter ever succeeds again. -/
theorem deadlocked_of_run (hadmin : getAdmin start.storage = some host.currentContractAddress)
    (run : Run (Step host) start labels stop) :
    getAdmin stop.storage = some host.currentContractAddress ∧
      ∀ (env : Env host) (call : Call Address Symbol) change,
        call.adminChange host = some change → ∃ failure, invoke env call stop = .error failure := by
  have hrefused {state : State Address Symbol World} {env : Env host} {call : Call Address Symbol}
      {change : AdminChange Address Symbol} {receipt : Receipt Address Symbol}
      {state' : State Address Symbol World} (hstored : getAdmin state.storage =
        some host.currentContractAddress) (setter : call.adminChange host = some change) :
      ¬Accepts env state call receipt state' := by
    intro haccepts
    cases haccepts with
    | configure setter' authorized admin =>
      exact env.ne_of_authorized authorized (Option.some.inj (hstored.symm.trans admin))
    | _ => cases setter
  have hstop : getAdmin stop.storage = some host.currentContractAddress := by
    refine run.invariant (P := fun state ↦ getAdmin state.storage =
      some host.currentContractAddress) ?_ hadmin
    intro before label after hbefore hstep
    rcases hstep.accepts_or_storage_eq with ⟨env, call, receipt, -, haccepts⟩ | ⟨-, heq⟩
    · rcases haccepts.origin with ⟨-, hnone⟩ | ⟨change, setter, -⟩ | ⟨huser, -⟩
      · cases hbefore.symm.trans hnone
      · exact absurd haccepts (hrefused hbefore setter)
      · have hkey : (DataKey.admin : DataKey Address Symbol).IsConfig := trivial
        exact (haccepts.config_eq huser hkey).trans hbefore
    · rwa [heq]
  refine ⟨hstop, fun env call change setter ↦ ?_⟩
  rcases accepts_or_refuses env call stop with ⟨_, _, haccepts⟩ | ⟨failure, herror, -⟩
  · exact absurd haccepts (hrefused hstop setter)
  · exact ⟨failure, herror⟩

/-- The admin pauses the contract and hands over to the contract itself. -/
def deadlockedMarket : List MarketCall :=
  [marketInit (u32 500), (signedBy marketHost 1 (u64 101), .pause 1),
    (signedBy marketHost 1 (u64 102), .setAdmin 1 0)]

/-- The contract becomes its own admin, which leaves it paused for good, and the all-zero account
becomes fee recipient at initialization. -/
theorem missing_self_reference_guards :
    (¬∀ labels state, Run (Step marketHost) marketStart labels state →
      (∀ label ∈ labels, label.NullUnsigned) → ActingAdmin marketHost state) ∧
    (∀ labels stop, Run (Step marketHost) (replay marketStart deadlockedMarket).2 labels stop →
      isPaused (replay marketStart deadlockedMarket).2.storage = true ∧
        ∀ (env : Env marketHost) caller,
          ∃ failure, invoke env (.unpause caller) stop = .error failure) ∧
    ¬∀ (env : Env marketHost) receipt state', env.authorized (nullAddress marketHost) = false →
      Step marketHost marketStart (.accepted env (.init 1 9 (u32 500) 0 0 0) receipt) state' →
        getFeeRecipient state'.storage ≠ some (nullAddress marketHost) := by
  refine ⟨fun h ↦ ?_, fun labels stop run ↦ ⟨by decide, fun env caller ↦ ?_⟩, fun h ↦ ?_⟩
  · have hnull : ∀ label ∈ (replay marketStart deadlockedMarket).1, label.NullUnsigned := by
      intro label hmem
      simp only [deadlockedMarket, replay, List.mem_cons, List.not_mem_nil, or_false] at hmem
      rcases hmem with rfl | rfl | rfl <;> rfl
    exact (h _ _ (run_replay deadlockedMarket marketStart) hnull).admin_ne_contract (by decide)
  · exact (deadlocked_of_run (by decide) run).2 env (.unpause caller) _ rfl
  · have hstep := step_perform (signedBy marketHost 1 (u64 100)) (.init 1 9 (u32 500) 0 0 0)
      marketStart
    exact h _ _ _ rfl hstep (by decide)

end StellarTip
