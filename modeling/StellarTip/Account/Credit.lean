import StellarTip.Account.Simulation
import StellarTip.Contract.Refusal
import StellarTip.Contract.TokenLedger

/-!
# Credit is never stranded

`unregister` inspects the listed tokens of its caller, not the balances themselves. That is enough
because no operation on an account lets a positive balance escape the list: a tip lists the token
that it credits, and a withdrawal drops a token only when it empties the balance.
-/

namespace StellarTip

open Foundation TipContract

variable {Address Symbol World : Type} [LinearOrder Address] {host : Host Address World}

/-- Balances are not negative, and a positive balance belongs to a registered creator who has its
token listed. -/
structure Account.Covered (account : Account Address Symbol) : Prop where
  balance_nonneg : ∀ token, 0 ≤ account.balance token
  registered_of_pos : ∀ token, 0 < account.balance token → account.profile ≠ none
  tracked_of_pos : ∀ token, 0 < account.balance token → token ∈ account.tracked

namespace Account.Covered

variable {account account' : Account Address Symbol} {env : Env host} {feeBps : U32}
  {owner : Address} {call : Call Address Symbol} {receipt : Receipt Address Symbol}

theorem empty : (Account.empty : Account Address Symbol).Covered where
  balance_nonneg _ := le_rfl
  registered_of_pos _ h := absurd h (lt_irrefl 0)
  tracked_of_pos _ h := absurd h (lt_irrefl 0)

theorem credited (h : account.Covered) {newBalance : I128} {nextIndex : U64} {tip : Tip Address}
    (registered : account.profile ≠ none) (hnonneg : 0 ≤ newBalance) :
    (account.credited newBalance nextIndex tip).Covered where
  balance_nonneg token := by
    rw [balance_credited]
    split
    · exact hnonneg
    · exact h.balance_nonneg token
  registered_of_pos _ _ := registered
  tracked_of_pos token hpos := by
    rw [balance_credited] at hpos
    rw [tracked_credited, SortedSet.mem_insert]
    split at hpos
    · rename_i heq
      exact .inl heq
    · exact .inr (h.tracked_of_pos token hpos)

theorem debited (h : account.Covered) {token : Address} {remaining : I128}
    (registered : account.profile ≠ none) (hnonneg : 0 ≤ remaining)
    (hle : remaining ≤ account.balance token) : (account.debited token remaining).Covered where
  balance_nonneg other := by
    rw [balance_debited _ _ _ hnonneg]
    split
    · exact hnonneg
    · exact h.balance_nonneg other
  registered_of_pos _ _ := by rwa [profile_debited]
  tracked_of_pos other hpos := by
    rw [balance_debited _ _ _ hnonneg] at hpos
    rw [tracked_debited]
    split at hpos
    · rename_i heq
      rw [if_pos hpos, heq]
      exact h.tracked_of_pos token (hpos.trans_le hle)
    · rename_i hne
      have hmem := h.tracked_of_pos other hpos
      split
      · exact hmem
      · exact SortedSet.mem_remove.mpr ⟨hne, hmem⟩

theorem step (hfeeBps : feeBps ≤ MAX_FEE_BPS) (h : account.Covered)
    (hstep : Account.Step env feeBps owner account call receipt account') : account'.Covered := by
  cases hstep with
  | opened => exact ⟨h.balance_nonneg, fun _ _ ↦ Option.some_ne_none _, h.tracked_of_pos⟩
  | edited => exact ⟨h.balance_nonneg, fun _ _ ↦ Option.some_ne_none _, h.tracked_of_pos⟩
  | closed _ _ emptied =>
    have hzero (token : Address) : ¬0 < account.balance token := fun hpos ↦
      absurd hpos (not_lt.mpr (emptied token (h.tracked_of_pos token hpos)))
    exact ⟨h.balance_nonneg, fun token hpos ↦ absurd hpos (hzero token),
      fun token hpos ↦ absurd hpos (hzero token)⟩
  | @credited _ token amount fee newBalance _ _ _ registered positive fee_val newBalance_val =>
    have hfee := fee_bounds positive hfeeBps fee_val
    have hbalance := BoundedInt.le_def.mp (h.balance_nonneg token)
    apply h.credited registered
    rw [BoundedInt.le_def]
    rw [I128.val_zero] at hbalance ⊢
    omega
  | @debited token amount remaining _ registered positive sufficient remaining_val =>
    have hpos := BoundedInt.lt_def.mp positive
    rw [I128.val_zero] at hpos
    refine h.debited registered (remaining_nonneg sufficient remaining_val)
      (BoundedInt.le_def.mpr ?_)
    omega
  | other => exact h

end Account.Covered

variable [DecidableEq Symbol] {state : State Address Symbol World}

theorem covered_of_reachable (h : ReachableState host state) (owner : Address) :
    (state.storage.account owner).Covered :=
  h.account_invariant .empty fun _ _ _ _ _ _ hfeeBps hinv hstep ↦ hinv.step hfeeBps hstep

theorem getBalance_nonneg (h : ReachableState host state) (owner token : Address) :
    0 ≤ getBalance state.storage owner token :=
  (covered_of_reachable h owner).balance_nonneg token

/-- A positive balance has its token in the stored token set. -/
theorem tokens_stored_of_pos (h : ReachableState host state) {owner token : Address}
    (hpos : 0 < getBalance state.storage owner token) :
    ∃ tokens : SortedSet Address,
      state.storage.persistentTier.get (.creatorTokens owner) = some tokens ∧ token ∈ tokens := by
  have hmem : token ∈ trackedTokens state.storage owner :=
    (covered_of_reachable h owner).tracked_of_pos token hpos
  exact (mem_trackedTokens _).mp hmem

theorem has_tokens_of_pos (h : ReachableState host state) {owner token : Address}
    (hpos : 0 < getBalance state.storage owner token) :
    state.storage.persistentTier.has (.creatorTokens owner) = true := by
  obtain ⟨tokens, htokens, -⟩ := tokens_stored_of_pos h hpos
  exact KeyedStore.has_iff.mpr ⟨tokens, htokens⟩

section Unregister

variable {env : Env host} {caller : Address}

/-- An unregistration of an authorized creator succeeds exactly when no balance at all is left. -/
theorem unregister_succeeds_iff (h : ReachableState host state) (hready : state.storage.Ready)
    (hregistered : isCreator state.storage caller = true)
    (hauth : env.authorized caller = true) :
    (∃ receipt state', invoke env (.unregister caller) state = .ok (receipt, state')) ↔
      ∀ token, getBalance state.storage caller token = 0 := by
  constructor
  · rintro ⟨receipt, state', hok⟩ token
    refine le_antisymm (not_lt.mp fun hpos ↦ ?_) (getBalance_nonneg h caller token)
    have hmem := (covered_of_reachable h caller).tracked_of_pos token hpos
    obtain ⟨-, profile, -, emptied, -, -⟩ := (invoke_eq_ok_iff.mp hok).of_unregister
    exact absurd hpos (not_lt.mpr (emptied token hmem))
  · intro hzero
    obtain ⟨profile, hprofile⟩ := Option.isSome_iff_exists.mp hregistered
    exact ⟨_, _, invoke_eq_ok_iff.mpr
      (.unregister hauth hready hprofile fun token _ ↦ (hzero token).le)⟩

/-- Any balance that is left makes the unregistration fail with `BalanceNotEmpty`. -/
theorem unregister_fails_of_balance (h : ReachableState host state) (hready : state.storage.Ready)
    (hregistered : isCreator state.storage caller = true)
    (hauth : env.authorized caller = true) {token : Address}
    (hbalance : getBalance state.storage caller token ≠ 0) :
    invoke env (.unregister caller) state = .error (.tipError .balanceNotEmpty) := by
  obtain ⟨profile, hprofile⟩ := Option.isSome_iff_exists.mp hregistered
  rcases accepts_or_refuses env (.unregister caller) state with ⟨receipt, state', haccepts⟩ |
    ⟨failure, herror, hrefuses⟩
  · have hzero := (unregister_succeeds_iff h hready hregistered hauth).mp
      ⟨receipt, state', invoke_eq_ok_iff.mpr haccepts⟩
    exact absurd (hzero token) hbalance
  · cases hrefuses with
    | balanceNotEmpty => exact herror
    | unauthorized unsigned => exact absurd (hauth.symm.trans unsigned) (by decide)
    | uninitialized _ uninitialized => exact absurd uninitialized (Storage.Ready.admin_ne_none hready)
    | paused _ paused => exact absurd (hready.2.symm.trans paused) (by decide)
    | unregisterUnregistered unregistered => cases hprofile.symm.trans unregistered
    | setterUninitialized setter => cases setter
    | notAuthorized setter => cases setter
    | invalidSetting setter => cases setter

/-- Balances are never negative, a positive balance is covered by a profile and a listed token, and
so the inspection of the listed tokens guards every token there is. -/
theorem unregister_guards_every_token (h : ReachableState host state) :
    (∀ owner token, 0 ≤ getBalance state.storage owner token ∧
      (0 < getBalance state.storage owner token →
        (∃ profile, getProfile state.storage owner = some profile) ∧
          ∃ tokens : SortedSet Address,
            state.storage.persistentTier.get (.creatorTokens owner) = some tokens ∧
              token ∈ tokens)) ∧
      ∀ (env : Env host) caller, state.storage.Ready → isCreator state.storage caller = true →
        env.authorized caller = true →
          ((∃ receipt state', invoke env (.unregister caller) state = .ok (receipt, state')) ↔
            ∀ token, getBalance state.storage caller token = 0) ∧
          ((∃ token, getBalance state.storage caller token ≠ 0) →
            invoke env (.unregister caller) state = .error (.tipError .balanceNotEmpty) ∧
              (perform env (.unregister caller) state).2 = state) := by
  refine ⟨fun owner token ↦ ⟨getBalance_nonneg h owner token, fun hpos ↦ ⟨?_, ?_⟩⟩, ?_⟩
  · exact Option.ne_none_iff_exists'.mp
      ((covered_of_reachable h owner).registered_of_pos token hpos)
  · exact tokens_stored_of_pos h hpos
  · intro env caller hready hregistered hauth
    refine ⟨unregister_succeeds_iff h hready hregistered hauth, fun ⟨token, hbalance⟩ ↦ ?_⟩
    have herror := unregister_fails_of_balance h hready hregistered hauth hbalance
    exact ⟨herror, by rw [perform_of_error herror]⟩

/-- A creator with a tip in one token is kept from unregistering. -/
theorem unregister_guards_tipped_creator :
    (perform (signedBy marketHost 3 (u64 110)) (.unregister 3) tippedMarket).2 = tippedMarket :=
  (((unregister_guards_every_token tippedMarket_reachable).2
    (signedBy marketHost 3 (u64 110)) 3 ⟨by decide, by decide⟩ (by decide) (by decide)).2
      ⟨7, by decide⟩).2

end Unregister

end StellarTip
