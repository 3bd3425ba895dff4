import StellarTip.Account.Simulation
import StellarTip.Administration.Provenance

/-!
# The pause freezes the users

Every user call starts with the same guard, so in a paused contract all five of them fail, and until
somebody unpauses, the only accepted calls are configuration writes. These change nothing of the users
and move no tokens, whoever holds the office meanwhile. The setters themselves do not look at the
pause.
-/

namespace StellarTip

open Foundation TipContract

variable {Address Symbol World : Type} [LinearOrder Address] {host : Host Address World}

/-- Any step but an accepted `unpause`. -/
def Label.KeepsPause : Label host Symbol → Prop
  | .accepted _ (.unpause _) _ => False
  | _ => True

/-- An accepted user call. -/
def Label.IsUserAction : Label host Symbol → Prop
  | .accepted _ call _ => call.IsUserCall
  | _ => False

variable [DecidableEq Symbol] {env : Env host} {state state' start stop : State Address Symbol World}
  {call : Call Address Symbol} {receipt : Receipt Address Symbol} {label : Label host Symbol}
  {labels : List (Label host Symbol)}

/-- A user call on a paused contract fails. -/
theorem user_call_fails_of_paused (hpaused : isPaused state.storage = true)
    (huser : call.IsUserCall) : ∃ failure, invoke env call state = .error failure := by
  rcases accepts_or_refuses env call state with ⟨receipt, state', haccepts⟩ |
    ⟨failure, herror, -⟩
  · have hready : ¬state.storage.Ready := fun h ↦ absurd (h.2.symm.trans hpaused) (by decide)
    cases haccepts with
    | init => exact huser.elim
    | configure setter => cases call <;> first | exact huser.elim | cases setter
    | register _ ready => exact absurd ready hready
    | updateProfile _ ready => exact absurd ready hready
    | unregister _ ready => exact absurd ready hready
    | tip _ ready => exact absurd ready hready
    | withdraw _ ready => exact absurd ready hready
  · exact ⟨failure, herror⟩

/-- What a step on a paused contract leaves as it was. -/
structure FrozenBy (state : State Address Symbol World) (label : Label host Symbol)
    (state' : State Address Symbol World) : Prop where
  users : state.storage.KeepsUserState state'.storage
  paused : isPaused state'.storage = true
  transfers : label.transfers = []
  world : label ≠ .outside → state'.world = state.world
  refused : ¬label.IsUserAction

theorem Step.frozen (h : ReachableState host state) (hpaused : isPaused state.storage = true)
    (hstep : Step host state label state') (hkeeps : label.KeepsPause) :
    FrozenBy state label state' := by
  cases hstep with
  | @accepted env call receipt _ _ ok =>
    have hrefused : ¬call.IsUserCall := by
      intro huser
      have hfails : ∃ failure, invoke env call state = .error failure :=
        user_call_fails_of_paused hpaused huser
      obtain ⟨failure, herror⟩ := hfails
      cases ok.symm.trans herror
    cases invoke_eq_ok_iff.mp ok with
    | init _ fresh =>
      rw [storage_eq_empty h fresh] at hpaused
      cases hpaused
    | @configure _ change setter =>
      refine ⟨Storage.keepsUserState_setInstance _ change.isConfig _, ?_, rfl, fun _ ↦ rfl, hrefused⟩
      cases call <;> cases setter <;> first | exact hkeeps.elim | simp_all [isPaused]
    | _ => exact absurd trivial hrefused
  | rejected => exact ⟨.refl _, hpaused, rfl, fun _ ↦ rfl, not_false⟩
  | outside => exact ⟨.refl _, hpaused, rfl, fun hne ↦ absurd rfl hne, not_false⟩

/-- The run lemma of the pause. -/
theorem frozen_of_run (h : ReachableState host start) (hpaused : isPaused start.storage = true)
    (run : Run (Step host) start labels stop) (hkeeps : ∀ label ∈ labels, label.KeepsPause) :
    start.storage.KeepsUserState stop.storage ∧ isPaused stop.storage = true ∧
      labels.flatMap Label.transfers = [] ∧
      (.outside ∉ labels → stop.world = start.world) ∧
      ∀ label ∈ labels, ¬label.IsUserAction := by
  induction run with
  | nil => exact ⟨.refl _, hpaused, rfl, fun _ ↦ rfl, fun _ hmem ↦ (by cases hmem)⟩
  | @snoc labels mid stop label init last ih =>
    obtain ⟨husers, hmid, htransfers, hworld, hrefused⟩ :=
      ih fun label hmem ↦ hkeeps label (List.mem_append_left _ hmem)
    have hlast : FrozenBy mid label stop :=
      last.frozen (h.run init) hmid (hkeeps label (List.mem_append_right _ (List.mem_singleton_self _)))
    refine ⟨husers.trans hlast.users, hlast.paused, ?_, fun hinside ↦ ?_, fun other hmem ↦ ?_⟩
    · rw [List.flatMap_append, htransfers]
      simpa using hlast.transfers
    · rw [List.mem_append, not_or, List.mem_singleton] at hinside
      rw [hlast.world (Ne.symm hinside.2), hworld hinside.1]
    · rcases List.mem_append.mp hmem with hprior | hnew
      · exact hrefused other hprior
      · rw [List.mem_singleton.mp hnew]
        exact hlast.refused

/-- The stored admin can make every valid configuration write, paused or not. -/
theorem setter_succeeds {change : AdminChange Address Symbol}
    (setter : call.adminChange host = some change) (hadmin : getAdmin state.storage = some change.caller)
    (hauth : env.authorized change.caller = true) (hvalid : change.invalid = false) :
    ∃ receipt state', invoke env call state = .ok (receipt, state') :=
  ⟨_, _, invoke_eq_ok_iff.mpr (.configure setter hauth hadmin hvalid)⟩

/-- Between a pause and the next unpause no user call succeeds, nothing of the users changes, the
contract moves no tokens, and every valid setter still works for the admin in office; after the
unpause the users find everything as it was before the pause. -/
theorem pause_freezes_user_state (h : ReachableState host start) :
    (isPaused start.storage = true → ∀ labels stop, Run (Step host) start labels stop →
      (∀ label ∈ labels, label.KeepsPause) →
        (∀ label ∈ labels, ¬label.IsUserAction) ∧
        (∀ (env : Env host) (call : Call Address Symbol), call.IsUserCall →
          ∃ failure, invoke env call stop = .error failure) ∧
        start.storage.KeepsUserState stop.storage ∧
        labels.flatMap Label.transfers = [] ∧
        (.outside ∉ labels → stop.world = start.world) ∧
        ∀ (env : Env host) (call : Call Address Symbol) change,
          call.adminChange host = some change → getAdmin stop.storage = some change.caller →
            env.authorized change.caller = true → change.invalid = false →
              ∃ receipt state', invoke env call stop = .ok (receipt, state')) ∧
    ∀ (env env' : Env host) caller caller' receipt receipt' paused labels resumed after,
      Step host start (.accepted env (.pause caller) receipt) paused →
        Run (Step host) paused labels resumed → (∀ label ∈ labels, label.KeepsPause) →
          Step host resumed (.accepted env' (.unpause caller') receipt') after →
            start.storage.KeepsUserState after.storage ∧ isPaused after.storage = false ∧
              (.outside ∉ labels → after.world = start.world) := by
  constructor
  · intro hpaused labels stop run hkeeps
    obtain ⟨husers, hstop, htransfers, hworld, hrefused⟩ := frozen_of_run h hpaused run hkeeps
    exact ⟨hrefused, fun env call huser ↦ user_call_fails_of_paused hstop huser, husers, htransfers,
      hworld, fun env call change setter hadmin hauth hvalid ↦
        setter_succeeds setter hadmin hauth hvalid⟩
  · intro env env' caller caller' receipt receipt' paused labels resumed after hpause run hkeeps
      hunpause
    have hpaused := hpause.accepts.keepsUserState_of_setter rfl
    have hunpaused := hunpause.accepts.keepsUserState_of_setter rfl
    have hreach := h.step hpause
    obtain rfl := hpause.accepts.eq_of_setter rfl
    obtain ⟨husers, -, -, hworld, -⟩ := frozen_of_run hreach (by simp [isPaused]) run hkeeps
    obtain rfl := hunpause.accepts.eq_of_setter rfl
    exact ⟨(hpaused.trans husers).trans hunpaused, by simp [isPaused], hworld⟩

/-- While the small market is paused, the admin hands over and the creator cannot withdraw. -/
theorem pause_freezes_tippedMarket :
    tippedMarket.storage.KeepsUserState (replay tippedMarket
      [(signedBy marketHost 1 (u64 104), .pause 1), (signedBy marketHost 1 (u64 105), .setAdmin 1 4),
        marketWithdraw 3 7 (i128 95), (signedBy marketHost 4 (u64 106), .unpause 4)]).2.storage := by
  have hkeeps : ∀ label ∈ (replay (perform (signedBy marketHost 1 (u64 104)) (.pause 1)
      tippedMarket).2 [(signedBy marketHost 1 (u64 105), .setAdmin 1 4),
        marketWithdraw 3 7 (i128 95)]).1, label.KeepsPause := by
    intro label hmem
    simp only [replay, List.mem_cons, List.not_mem_nil, or_false] at hmem
    rcases hmem with rfl | rfl <;> trivial
  exact ((pause_freezes_user_state tippedMarket_reachable).2 _ _ 1 4 _ _ _ _ _ _
    (step_perform (signedBy marketHost 1 (u64 104)) (.pause 1) _) (run_replay _ _) hkeeps
    (step_perform (signedBy marketHost 4 (u64 106)) (.unpause 4) _)).1

end StellarTip
