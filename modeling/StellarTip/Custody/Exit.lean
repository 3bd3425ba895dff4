import StellarTip.Account.Census
import StellarTip.Custody.Withdrawal

/-!
# A creator can always leave

A creator leaves by withdrawing every recorded balance, in any order, and then unregistering. While
this goes on, tips to other creators and withdrawals of other creators may come in between. None of
them touches the account of the leaving creator, every withdrawal within the recorded balance is
honoured, and each empties one token, so the emptiness check of the final call passes.
-/

namespace StellarTip

open Foundation TipContract

variable {Address Symbol World : Type} [LinearOrder Address] {host : Host Address World}

/-- The withdrawals of the recorded balances of `tokens`, and then `unregister`. -/
def exitCalls (storage : Storage Address Symbol) (creator : Address) (tokens : List Address) :
    List (Call Address Symbol) :=
  tokens.map (fun token ↦ .withdraw creator token (getBalance storage creator token)) ++
    [.unregister creator]

theorem exitCalls_nil (storage : Storage Address Symbol) (creator : Address) :
    exitCalls storage creator [] = [.unregister creator] := rfl

theorem exitCalls_cons (storage : Storage Address Symbol) (creator token : Address)
    (tokens : List Address) :
    exitCalls storage creator (token :: tokens) =
      .withdraw creator token (getBalance storage creator token) ::
        exitCalls storage creator tokens := rfl

/-- The calls of a creator who walks through `tokens` and skips those without a positive balance. -/
def exitPlan (storage : Storage Address Symbol) (creator : Address) (tokens : List Address) :
    List (Call Address Symbol) :=
  exitCalls storage creator (tokens.filter fun token ↦ 0 < getBalance storage creator token)

/-- What may come in between: tips to others and withdrawals of others, besides refused calls and
anything outside the contract. -/
def Label.IsTrafficBeside (creator : Address) : Label host Symbol → Prop
  | .accepted _ (.tip _ other _ _ _) _ | .accepted _ (.withdraw other _ _) _ => other ≠ creator
  | .accepted .. => False
  | .rejected .. | .outside => True

/-- What the contract pays `creator` in `token` with a call on the creator's own account. -/
def Label.paidOut (creator token : Address) : Label host Symbol → ℤ
  | .accepted _ call receipt =>
      if call.account = some creator then netInflow creator token receipt.transfers else 0
  | .rejected .. | .outside => 0

variable [DecidableEq Symbol]

/-- One step of an exit: traffic beside it, or the next of the pending calls, signed by the creator. -/
inductive ExitStep (host : Host Address World) (creator : Address) :
    State Address Symbol World × List (Call Address Symbol) → Label host Symbol →
      State Address Symbol World × List (Call Address Symbol) → Prop
  | traffic {state state' : State Address Symbol World} {pending : List (Call Address Symbol)}
      {label : Label host Symbol} (beside : label.IsTrafficBeside creator)
      (step : Step host state label state') :
      ExitStep host creator (state, pending) label (state', pending)
  | own {state state' : State Address Symbol World} {pending : List (Call Address Symbol)}
      {env : Env host} {call : Call Address Symbol} {receipt : Receipt Address Symbol}
      (signed : env.authorized creator = true)
      (step : Step host state (.accepted env call receipt) state') :
      ExitStep host creator (state, call :: pending) (.accepted env call receipt) (state', pending)

variable {start state state' : State Address Symbol World} {creator : Address}
  {profile : CreatorProfile Symbol} {env : Env host} {call : Call Address Symbol}
  {receipt : Receipt Address Symbol} {label : Label host Symbol} {tokens : List Address}

omit [LinearOrder Address] [DecidableEq Symbol] in
/-- An accepted call beside the exit is a tip or a withdrawal on another account. -/
theorem call_of_traffic (h : (Label.accepted env call receipt).IsTrafficBeside creator) :
    ∃ owner, call.account = some owner ∧ call.token ≠ none ∧ owner ≠ creator := by
  cases call with
  | tip sender other token amount message => exact ⟨other, rfl, Option.some_ne_none _, h⟩
  | withdraw other token amount => exact ⟨other, rfl, Option.some_ne_none _, h⟩
  | _ => exact h.elim

/-- Traffic leaves the account of the creator, the registry and the configuration alone. -/
theorem Step.frame_of_traffic (hstep : Step host state label state')
    (beside : label.IsTrafficBeside creator) :
    state'.storage.instanceTier = state.storage.instanceTier ∧
      state'.storage.account creator = state.storage.account creator := by
  cases hstep with
  | rejected => exact ⟨rfl, rfl⟩
  | outside => exact ⟨rfl, rfl⟩
  | accepted ok =>
    have haccepts := invoke_eq_ok_iff.mp ok
    obtain ⟨owner, haccount, htoken, hne⟩ := call_of_traffic beside
    exact ⟨haccepts.instanceTier_of_token htoken, haccepts.account_eq_of_ne haccount hne.symm⟩

omit [DecidableEq Symbol] in
theorem Label.paidOut_of_account (hcall : call.account = some creator) (token : Address) :
    (Label.accepted env call receipt).paidOut creator token =
      netInflow creator token receipt.transfers := if_pos hcall

omit [DecidableEq Symbol] in
theorem Label.paidOut_of_traffic (token : Address) (beside : label.IsTrafficBeside creator) :
    label.paidOut creator token = 0 := by
  cases label with
  | accepted env call receipt =>
    obtain ⟨owner, haccount, -, hne⟩ := call_of_traffic beside
    exact if_neg fun heq ↦ hne (Option.some.inj (haccount.symm.trans heq))
  | rejected => rfl
  | outside => rfl

/-- The creator has the balances of `tokens` still to withdraw, and no other balance. -/
structure Leaving (host : Host Address World) (start state : State Address Symbol World)
    (creator : Address) (tokens : List Address) : Prop where
  reachable : ReachableState host state
  instanceTier_eq : state.storage.instanceTier = start.storage.instanceTier
  once : tokens.Nodup
  balance_eq : ∀ token ∈ tokens,
    0 < getBalance start.storage creator token ∧
      getBalance state.storage creator token = getBalance start.storage creator token
  balance_zero : ∀ token, token ∉ tokens → getBalance state.storage creator token = 0

/-- What is left in the storage of a creator who has gone. -/
structure HasLeft (before after : Storage Address Symbol) (creator : Address)
    (profile : CreatorProfile Symbol) : Prop where
  unregistered : getProfile after creator = none
  username_free : getCreatorFromUsername after profile.username = none
  balance_zero : ∀ token, getBalance after creator token = 0
  no_tokens : getAllTokens after creator = []
  count_val : (getCreatorCount after).val = (getCreatorCount before).val - 1

theorem Leaving.traffic (h : Leaving host start state creator tokens)
    (hstep : Step host state label state') (beside : label.IsTrafficBeside creator) :
    Leaving host start state' creator tokens := by
  obtain ⟨hinstance, haccount⟩ := hstep.frame_of_traffic beside
  have hbalance := getBalance_congr haccount
  exact
    { reachable := h.reachable.step hstep
      instanceTier_eq := hinstance.trans h.instanceTier_eq
      once := h.once
      balance_eq := fun token hmem ↦
        ⟨(h.balance_eq token hmem).1, (hbalance token).trans (h.balance_eq token hmem).2⟩
      balance_zero := fun token hmem ↦ (hbalance token).trans (h.balance_zero token hmem) }

theorem HasLeft.traffic {before : Storage Address Symbol}
    (h : HasLeft before state.storage creator profile) (hstep : Step host state label state')
    (beside : label.IsTrafficBeside creator) :
    HasLeft before state'.storage creator profile := by
  obtain ⟨hinstance, haccount⟩ := hstep.frame_of_traffic beside
  have htokens : state'.storage.persistentTier.get (.creatorTokens creator) =
      state.storage.persistentTier.get (.creatorTokens creator) := congrArg Account.tokens haccount
  obtain ⟨hunregistered, hfree, hzero, hnone, hcount⟩ := h
  constructor
  · rwa [getProfile, hinstance]
  · rwa [getCreatorFromUsername, hinstance]
  · intro token
    rw [getBalance_congr haccount, hzero token]
  · rwa [getAllTokens, htokens]
  · rwa [getCreatorCount, hinstance]

section OwnCalls

variable {token : Address} {amount : I128}

/-- A withdrawal takes its amount from one balance of its caller. -/
theorem Accepts.getBalance_of_withdraw
    (h : Accepts env state (.withdraw creator token amount) receipt state') (other : Address) :
    (getBalance state'.storage creator other).val =
      (getBalance state.storage creator other).val - if other = token then amount.val else 0 := by
  have haccount := h.accountStep creator
  rw [← Storage.account_balance, ← Storage.account_balance]
  generalize state'.storage.account creator = account' at haccount
  cases haccount with
  | debited _ _ _ sufficient remaining_val =>
    rw [Account.balance_debited _ _ _ (Account.remaining_nonneg sufficient remaining_val)]
    split
    · rename_i heq
      rw [heq, remaining_val]
    · rw [sub_zero]
  | other hother => exact absurd rfl hother

/-- After an accepted withdrawal of a whole balance, the other tokens are left. -/
theorem Leaving.withdraw (h : Leaving host start state creator (token :: tokens))
    (hstep : Step host state (.accepted env
      (.withdraw creator token (getBalance start.storage creator token)) receipt) state') :
    Leaving host start state' creator tokens := by
  have hbalance := hstep.accepts.getBalance_of_withdraw
  obtain ⟨hnew, hrest⟩ := List.nodup_cons.mp h.once
  have hinstance := hstep.accepts.instanceTier_of_token (Option.some_ne_none _)
  constructor
  · exact h.reachable.step hstep
  · exact hinstance.trans h.instanceTier_eq
  · exact hrest
  · intro other hmem
    obtain ⟨hpos, heq⟩ := h.balance_eq other (List.mem_cons_of_mem _ hmem)
    have hne : other ≠ token := fun hother ↦ hnew (hother ▸ hmem)
    refine ⟨hpos, BoundedInt.ext ?_⟩
    calc
      _ = (getBalance state.storage creator other).val := by rw [hbalance, if_neg hne, sub_zero]
      _ = _ := congrArg BoundedInt.val heq
  · intro other hmem
    apply BoundedInt.ext
    rw [hbalance, I128.val_zero]
    by_cases hother : other = token
    · rw [if_pos hother, hother, (h.balance_eq token (List.mem_cons_self ..)).2, sub_self]
    · have hnotin : other ∉ token :: tokens := by simp [hother, hmem]
      rw [if_neg hother, h.balance_zero other hnotin, sub_zero, I128.val_zero]

/-- An accepted unregistration of a creator without a balance is the end of the exit. -/
theorem Leaving.unregister (h : Leaving host start state creator [])
    (hregistered : getProfile start.storage creator = some profile)
    (hstep : Step host state (.accepted env (.unregister creator) receipt) state') :
    HasLeft start.storage state'.storage creator profile := by
  have hprofile : getProfile state.storage creator = some profile := by
    rw [← hregistered, getProfile, h.instanceTier_eq, getProfile]
  have hcount : getCreatorCount state.storage = getCreatorCount start.storage := by
    rw [getCreatorCount, h.instanceTier_eq, getCreatorCount]
  have haccount := hstep.accepts.accountStep creator
  have hclosed : state'.storage.account creator = (state.storage.account creator).closed := by
    generalize state'.storage.account creator = account' at haccount
    cases haccount with
    | closed => rfl
    | other hother => exact absurd rfl hother
  have htokens : state'.storage.persistentTier.get (.creatorTokens creator) = none :=
    congrArg Account.tokens hclosed
  constructor
  · exact congrArg Account.profile hclosed
  · obtain ⟨-, found, registered, -, -, rfl⟩ := hstep.accepts.of_unregister
    obtain rfl : profile = found := Option.some.inj (hprofile.symm.trans registered)
    simp [getCreatorFromUsername]
  · intro token
    calc
      _ = (state.storage.account creator).closed.balance token := by
        rw [← hclosed, Storage.account_balance]
      _ = getBalance state.storage creator token := by
        rw [Account.balance_closed, Storage.account_balance]
      _ = 0 := h.balance_zero token List.not_mem_nil
  · rw [getAllTokens, htokens]
  · rw [← hcount]
    exact (count_of_unregister h.reachable hstep.accepts).2

/-- What a call of the leaving creator does to the others and to the creator's holdings: it touches no
other recorded balance, and every transfer that it issues reaches the creator in full. -/
structure OwnEffect (host : Host Address World) (creator : Address)
    (state : State Address Symbol World) (receipt : Receipt Address Symbol)
    (state' : State Address Symbol World) : Prop where
  others_kept : ∀ other, other ≠ creator → ∀ token,
    getBalance state'.storage other token = getBalance state.storage other token
  received : ∀ transfer ∈ receipt.transfers, transfer.recipient = creator ∧
    host.balance state'.world transfer.token creator =
      host.balance state.world transfer.token creator + transfer.amount.val

/-- The next withdrawal of the exit succeeds. -/
theorem Leaving.withdraw_succeeds (h : Leaving host start state creator (token :: tokens))
    (hready : start.storage.Ready) (hregistered : getProfile start.storage creator = some profile)
    (hhonouring : HonouringToken host token) (hauth : env.authorized creator = true) :
    ∃ receipt state', invoke env
        (.withdraw creator token (getBalance start.storage creator token)) state =
          .ok (receipt, state') ∧ OwnEffect host creator state receipt state' := by
  obtain ⟨hpos, heq⟩ := h.balance_eq token (List.mem_cons_self ..)
  have hstateReady : state.storage.Ready := by
    rwa [Storage.Ready, isPaused, h.instanceTier_eq]
  have hcreator : isCreator state.storage creator = true := by
    rw [isCreator, h.instanceTier_eq]
    exact KeyedStore.has_iff.mpr ⟨profile, hregistered⟩
  obtain ⟨remaining, settled, haccepted⟩ :=
    withdrawAccepted_of_le hhonouring h.reachable hcreator hpos heq.ge
  have haccepts := Accepts.withdraw hauth hstateReady haccepted
  refine ⟨_, _, invoke_eq_ok_iff.mpr haccepts,
    fun other hne ↦ getBalance_congr (haccepts.account_eq_of_ne rfl hne), ?_⟩
  intro transfer hmem
  obtain rfl := List.mem_singleton.mp hmem
  have hmoved := hhonouring.moves_exactly haccepted.moved creator
  have hself : creator ≠ host.currentContractAddress := (env.ne_of_authorized hauth).symm
  exact ⟨rfl, by simpa [Transfer.net, hself] using hmoved⟩

/-- The final call of the exit succeeds. -/
theorem Leaving.unregister_succeeds (h : Leaving host start state creator [])
    (hready : start.storage.Ready) (hregistered : getProfile start.storage creator = some profile)
    (hauth : env.authorized creator = true) :
    ∃ receipt state', invoke env (.unregister creator) state = .ok (receipt, state') ∧
      OwnEffect host creator state receipt state' := by
  have hprofile : getProfile state.storage creator = some profile := by
    rw [← hregistered, getProfile, h.instanceTier_eq, getProfile]
  have hstateReady : state.storage.Ready := by
    rwa [Storage.Ready, isPaused, h.instanceTier_eq]
  have haccepts := Accepts.unregister hauth hstateReady hprofile fun token _ ↦
    (h.balance_zero token List.not_mem_nil).le
  refine ⟨_, _, invoke_eq_ok_iff.mpr haccepts,
    fun other hne ↦ getBalance_congr (haccepts.account_eq_of_ne rfl hne), ?_⟩
  intro transfer hmem
  cases hmem

/-- A call of the exit pays out exactly what it takes from the recorded balance. -/
theorem paidOut_eq (hcall : call = .unregister creator ∨ ∃ token amount,
      call = .withdraw creator token amount)
    (hstep : Step host state (.accepted env call receipt) state') (token : Address) :
    (Label.accepted env call receipt).paidOut creator token =
      (getBalance state.storage creator token).val -
        (getBalance state'.storage creator token).val := by
  rcases hcall with rfl | ⟨withdrawn, amount, rfl⟩
  · have haccount := hstep.accepts.accountStep creator
    have hbalance : getBalance state'.storage creator token =
        getBalance state.storage creator token := haccount.balance_eq_of_token_ne nofun
    rw [hbalance, sub_self]
    obtain ⟨-, profile, -, -, rfl, -⟩ := hstep.accepts.of_unregister
    exact Label.paidOut_of_account rfl token
  · rw [hstep.accepts.getBalance_of_withdraw token, sub_sub_cancel]
    obtain ⟨authorized, remaining, settled, -, rfl, -⟩ := hstep.accepts.of_withdraw
    have hself : creator ≠ host.currentContractAddress := (env.ne_of_authorized authorized).symm
    rw [Label.paidOut_of_account rfl]
    by_cases htoken : token = withdrawn
    · simp [netInflow, Transfer.net, htoken, hself]
    · simp [netInflow, Transfer.net, htoken, Ne.symm htoken]

end OwnCalls

/-! ## Runs of the exit -/

/-- The creator is on the way out, or gone. -/
def ExitInvariant (host : Host Address World) (start : State Address Symbol World)
    (creator : Address) (profile : CreatorProfile Symbol)
    (config : State Address Symbol World × List (Call Address Symbol)) : Prop :=
  (∃ tokens, config.2 = exitCalls start.storage creator tokens ∧
    Leaving host start config.1 creator tokens) ∨
  (config.2 = [] ∧ HasLeft start.storage config.1.storage creator profile)

variable {config config' : State Address Symbol World × List (Call Address Symbol)}
  {labels : List (Label host Symbol)}

theorem ExitStep.invariant (hregistered : getProfile start.storage creator = some profile)
    (h : ExitInvariant host start creator profile config)
    (hstep : ExitStep host creator config label config') :
    ExitInvariant host start creator profile config' := by
  cases hstep with
  | traffic beside step =>
    rcases h with ⟨tokens, hpending, hleaving⟩ | ⟨hpending, hleft⟩
    · exact .inl ⟨tokens, hpending, hleaving.traffic step beside⟩
    · exact .inr ⟨hpending, hleft.traffic step beside⟩
  | own _ step =>
    rcases h with ⟨tokens, hpending, hleaving⟩ | ⟨hpending, -⟩
    · cases tokens with
      | nil =>
        obtain ⟨rfl, rfl⟩ := List.cons.inj hpending
        exact .inr ⟨rfl, hleaving.unregister hregistered step⟩
      | cons token tokens =>
        obtain ⟨rfl, rfl⟩ := List.cons.inj hpending
        exact .inl ⟨tokens, rfl, hleaving.withdraw step⟩
    · cases hpending

/-- A step of the exit pays out exactly what the recorded balance loses. -/
theorem ExitStep.paidOut_eq (h : ExitInvariant host start creator profile config)
    (hstep : ExitStep host creator config label config') (token : Address) :
    label.paidOut creator token = (getBalance config.1.storage creator token).val -
      (getBalance config'.1.storage creator token).val := by
  cases hstep with
  | traffic beside step =>
    rw [Label.paidOut_of_traffic token beside,
      getBalance_congr (step.frame_of_traffic beside).2, sub_self]
  | own _ step =>
    refine StellarTip.paidOut_eq ?_ step token
    rcases h with ⟨tokens, hpending, -⟩ | ⟨hpending, -⟩
    · cases tokens with
      | nil => exact .inl (List.cons.inj hpending).1
      | cons token tokens => exact .inr ⟨_, _, (List.cons.inj hpending).1⟩
    · cases hpending

/-- Along an exit the invariant holds, and what has been paid out is missing from the balances. -/
theorem exitInvariant_of_run (hregistered : getProfile start.storage creator = some profile)
    (hstart : ExitInvariant host start creator profile config)
    (run : Run (ExitStep host creator) config labels config') :
    ExitInvariant host start creator profile config' ∧
      ∀ token, (labels.map (Label.paidOut creator token)).sum =
        (getBalance config.1.storage creator token).val -
          (getBalance config'.1.storage creator token).val := by
  induction run with
  | nil => exact ⟨hstart, fun token ↦ by simp⟩
  | @snoc labels mid stop label _ last ih =>
    obtain ⟨hinvariant, hpaid⟩ := ih
    refine ⟨last.invariant hregistered hinvariant, fun token ↦ ?_⟩
    rw [List.map_append, List.sum_append, hpaid, List.map_singleton, List.sum_singleton,
      last.paidOut_eq hinvariant token, sub_add_sub_cancel]

/-- The tokens with a positive balance are listed, so walking through the list finds every balance. -/
theorem Leaving.of_listed (h : ReachableState host start)
    (hperm : tokens.Perm (getAllTokens start.storage creator)) :
    Leaving host start start creator
      (tokens.filter fun token ↦ 0 < getBalance start.storage creator token) where
  reachable := h
  instanceTier_eq := rfl
  once := (hperm.nodup_iff.mpr (nodup_getAllTokens _ _)).filter _
  balance_eq token hmem := ⟨by simpa using List.of_mem_filter hmem, rfl⟩
  balance_zero token hmem := by
    refine le_antisymm (not_lt.mp fun hpos ↦ hmem ?_) (getBalance_nonneg h creator token)
    have htracked := (mem_trackedTokens _).mpr (tokens_stored_of_pos h hpos)
    refine List.mem_filter.mpr ⟨hperm.mem_iff.mpr ?_, by simpa using hpos⟩
    exact (mem_getAllTokens _).mpr htracked

/-- A registered creator of a ready contract whose tokens honour their transfers can always leave. In
whatever order the listed tokens are walked through, and whatever the others do in between, each call
succeeds, asks for the balance recorded at that moment and touches no other balance. At the end every
former balance has been paid out and nothing of the creator is left but the tip records. -/
theorem full_exit (h : ReachableState host start) (hready : start.storage.Ready)
    (hregistered : getProfile start.storage creator = some profile)
    (hhonouring : ∀ token, 0 < getBalance start.storage creator token → HonouringToken host token)
    (hperm : tokens.Perm (getAllTokens start.storage creator))
    {pending : List (Call Address Symbol)}
    (run : Run (ExitStep host creator) (start, exitPlan start.storage creator tokens) labels
      (state, pending)) :
    (∀ call rest, pending = call :: rest →
      (∀ token amount, call = .withdraw creator token amount →
        amount = getBalance state.storage creator token) ∧
      ∀ env : Env host, env.authorized creator = true →
        ∃ receipt state', invoke env call state = .ok (receipt, state') ∧
          OwnEffect host creator state receipt state') ∧
    (pending = [] → HasLeft start.storage state.storage creator profile ∧
      ∀ token, (labels.map (Label.paidOut creator token)).sum =
        (getBalance start.storage creator token).val) := by
  have hstart : ExitInvariant host start creator profile
      (start, exitPlan start.storage creator tokens) := .inl ⟨_, rfl, Leaving.of_listed h hperm⟩
  obtain ⟨hinvariant, hpaid⟩ := exitInvariant_of_run hregistered hstart run
  rcases hinvariant with ⟨remaining, rfl, hleaving⟩ | ⟨rfl, hleft⟩
  · refine ⟨fun call rest hpending ↦ ?_, fun hnil ↦ ?_⟩
    · cases remaining with
      | nil =>
        rw [exitCalls_nil] at hpending
        obtain ⟨rfl, -⟩ := List.cons.inj hpending
        exact ⟨fun _ _ hcall ↦ (nomatch hcall), fun env hauth ↦
          hleaving.unregister_succeeds hready hregistered hauth⟩
      | cons token remaining =>
        rw [exitCalls_cons] at hpending
        obtain ⟨rfl, -⟩ := List.cons.inj hpending
        obtain ⟨hpos, heq⟩ := hleaving.balance_eq token (List.mem_cons_self ..)
        refine ⟨fun other amount hcall ↦ ?_, fun env hauth ↦
          hleaving.withdraw_succeeds hready hregistered (hhonouring token hpos) hauth⟩
        cases hcall
        exact heq.symm
    · exact absurd hnil (List.append_ne_nil_of_right_ne_nil _ (List.cons_ne_nil _ _))
  · refine ⟨fun _ _ hpending ↦ (nomatch hpending), fun _ ↦ ⟨hleft, fun token ↦ ?_⟩⟩
    rw [hpaid token, hleft.balance_zero token, I128.val_zero, sub_zero]

/-- Creator 3 leaves with the tokens in reverse order, and a tip to creator 4 comes in between. -/
theorem full_exit_of_sharedMarket :
    ∃ (labels : List (Label marketHost ℕ)) (state : State ℕ ℕ (TokenLedger ℕ)),
      Run (ExitStep marketHost 3) (sharedMarket, exitPlan sharedMarket.storage 3 [8, 7]) labels
          (state, []) ∧
        (labels.map (Label.paidOut 3 8)).sum = (getBalance sharedMarket.storage 3 8).val := by
  have hbeside (env : Env marketHost) (receipt : Receipt ℕ ℕ) :
      (Label.accepted env (.tip 5 4 7 (i128 10) []) receipt).IsTrafficBeside 3 := by
    change (4 : ℕ) ≠ 3
    decide
  have hrun : Run (ExitStep marketHost 3)
      (sharedMarket, exitPlan sharedMarket.storage 3 [8, 7]) _ (_, []) :=
    .cons (.own rfl (step_perform (signedBy marketHost 3 (u64 104)) (.withdraw 3 8 (i128 190)) _))
      (.cons (.traffic (hbeside _ _)
        (step_perform (signedBy marketHost 5 (u64 104)) (.tip 5 4 7 (i128 10) []) _))
        (.cons (.own rfl
          (step_perform (signedBy marketHost 3 (u64 105)) (.withdraw 3 7 (i128 95)) _))
          (.cons (.own rfl (step_perform (signedBy marketHost 3 (u64 106)) (.unregister 3) _))
            .nil)))
  exact ⟨_, _, hrun, ((full_exit sharedMarket_reachable ⟨by decide, by decide⟩ rfl
    (fun token _ ↦ honouringToken_ledgerHost 0 9 token) (List.Perm.swap 7 8 []) hrun).2 rfl).2 8⟩

end StellarTip
