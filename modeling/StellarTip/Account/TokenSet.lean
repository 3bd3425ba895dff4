import StellarTip.Account.Credit

/-!
# The token set and the stored balances

A listed token, a stored balance entry and a positive balance coincide as long as every tip leaves
something on the balance that it credits. A tip whose fee takes the whole amount, on an empty
balance, breaks this: it stores a zero balance and lists its token. Unregistration then drops the
list and keeps the zero entry.
-/

namespace StellarTip

open Foundation TipContract

variable {Address Symbol World : Type} [LinearOrder Address] {host : Host Address World}

/-- Listed, stored and positive are the same, and a stored token set is not empty. -/
structure Account.Exact (account : Account Address Symbol) : Prop where
  tracked_iff_stored : ∀ token, token ∈ account.tracked ↔ account.balances token ≠ none
  stored_iff_pos : ∀ token, account.balances token ≠ none ↔ 0 < account.balance token
  tokens_nonempty : ∀ tokens, account.tokens = some tokens → ∃ token, token ∈ tokens

/-- A token set from which a token is dropped is stored only when another token is left. -/
theorem Account.untracked_nonempty {account : Account Address Symbol}
    (h : ∀ tokens, account.tokens = some tokens → ∃ token, token ∈ tokens) {token : Address}
    {tokens : SortedSet Address} (htokens : account.untracked token = some tokens) :
    ∃ other, other ∈ tokens := by
  unfold Account.untracked at htokens
  split at htokens
  · split at htokens
    · cases htokens
    · rename_i hnonempty
      obtain rfl := Option.some.inj htokens
      rw [SortedSet.isEmpty_iff] at hnonempty
      exact not_forall_not.mp hnonempty
  · exact h tokens htokens

namespace Account.Exact

variable {account account' : Account Address Symbol} {env : Env host} {feeBps : U32}
  {owner : Address} {call : Call Address Symbol} {receipt : Receipt Address Symbol}

theorem empty : (Account.empty : Account Address Symbol).Exact where
  tracked_iff_stored token := by simp [Account.empty, Account.tracked]
  stored_iff_pos token := by simp [Account.empty, Account.balance]
  tokens_nonempty tokens h := by cases h

/-- An emptied account has no stored balance entry. -/
theorem balances_eq_none (h : account.Exact)
    (emptied : ∀ token ∈ account.tracked, account.balance token ≤ 0) (token : Address) :
    account.balances token = none := by
  by_contra hstored
  exact absurd ((h.stored_iff_pos token).mp hstored)
    (not_lt.mpr (emptied token ((h.tracked_iff_stored token).mpr hstored)))

theorem closed (h : account.Exact)
    (emptied : ∀ token ∈ account.tracked, account.balance token ≤ 0) : account.closed.Exact where
  tracked_iff_stored token := by
    simp [Account.closed, Account.tracked, h.balances_eq_none emptied token]
  stored_iff_pos := h.stored_iff_pos
  tokens_nonempty tokens htokens := by cases htokens

theorem credited (h : account.Exact) {newBalance : I128} {nextIndex : U64} {tip : Tip Address}
    (hpos : 0 < newBalance) : (account.credited newBalance nextIndex tip).Exact where
  tracked_iff_stored token := by
    rw [tracked_credited, SortedSet.mem_insert, h.tracked_iff_stored token, Account.credited]
    by_cases heq : token = tip.token <;> simp [heq]
  stored_iff_pos token := by
    rw [balance_credited, Account.credited]
    by_cases heq : token = tip.token
    · simp [heq, hpos]
    · simpa [heq] using h.stored_iff_pos token
  tokens_nonempty tokens htokens := by
    obtain rfl : account.tracked.insert tip.token = tokens := Option.some.inj htokens
    exact ⟨tip.token, SortedSet.mem_insert.mpr (.inl rfl)⟩

theorem debited (h : account.Exact) {token : Address} {remaining : I128}
    (hnonneg : 0 ≤ remaining) (htoken : 0 < account.balance token) :
    (account.debited token remaining).Exact where
  tracked_iff_stored other := by
    rw [tracked_debited, balances_debited]
    by_cases hpos : 0 < remaining
    · rw [if_pos hpos, h.tracked_iff_stored other]
      by_cases heq : other = token
      · simp [heq, hpos, (h.stored_iff_pos token).mpr htoken]
      · simp [heq]
    · rw [if_neg hpos, SortedSet.mem_remove, h.tracked_iff_stored other]
      by_cases heq : other = token <;> simp [heq, hpos]
  stored_iff_pos other := by
    rw [balance_debited _ _ _ hnonneg, balances_debited]
    by_cases heq : other = token
    · by_cases hpos : 0 < remaining <;> simp [heq, hpos]
    · simpa [heq] using h.stored_iff_pos other
  tokens_nonempty tokens htokens := by
    unfold Account.debited at htokens
    split at htokens
    · exact h.tokens_nonempty tokens htokens
    · exact untracked_nonempty h.tokens_nonempty htokens

theorem balance_nonneg (h : account.Exact) (token : Address) : 0 ≤ account.balance token := by
  by_cases hstored : account.balances token = none
  · rw [Account.balance, hstored]
    exact le_rfl
  · exact ((h.stored_iff_pos token).mp hstored).le

/-- A credit keeps the account exact exactly when it leaves a positive balance. -/
theorem credited_iff (h : account.Exact) {newBalance : I128} {nextIndex : U64}
    {tip : Tip Address} :
    (account.credited newBalance nextIndex tip).Exact ↔ 0 < newBalance := by
  refine ⟨fun hexact ↦ ?_, h.credited⟩
  have hpos := (hexact.stored_iff_pos tip.token).mp (by simp [Account.credited])
  rwa [balance_credited, if_pos rfl] at hpos

/-- What a tip leaves is positive unless the fee is 100% and the balance was empty. -/
theorem newBalance_pos_iff (h : account.Exact) (hfeeBps : feeBps ≤ MAX_FEE_BPS) {token : Address}
    {amount fee newBalance : I128} (positive : 0 < amount)
    (fee_val : fee.val = (amount.val * feeBps.val).tdiv MAX_FEE_BPS.val)
    (newBalance_val : newBalance.val = (account.balance token).val + (amount.val - fee.val)) :
    0 < newBalance ↔ feeBps < MAX_FEE_BPS ∨ 0 < account.balance token := by
  have hfee := fee_bounds positive hfeeBps fee_val
  have hbalance := BoundedInt.le_def.mp (h.balance_nonneg token)
  rw [← fee_lt_amount_iff positive fee_val, BoundedInt.lt_def, BoundedInt.lt_def,
    newBalance_val]
  rw [I128.val_zero] at hbalance ⊢
  omega

/-- Every step keeps the account exact, provided that a tip leaves a positive balance. -/
theorem step (hfeeBps : feeBps ≤ MAX_FEE_BPS) (h : account.Exact)
    (hstep : Account.Step env feeBps owner account call receipt account')
    (hcredit : ∀ sender token amount message, call = .tip sender owner token amount message →
      feeBps < MAX_FEE_BPS ∨ 0 < account.balance token) : account'.Exact := by
  cases hstep with
  | opened => exact ⟨h.tracked_iff_stored, h.stored_iff_pos, h.tokens_nonempty⟩
  | edited => exact ⟨h.tracked_iff_stored, h.stored_iff_pos, h.tokens_nonempty⟩
  | closed _ _ emptied => exact h.closed emptied
  | credited _ positive fee_val newBalance_val =>
    exact h.credited ((h.newBalance_pos_iff hfeeBps positive fee_val newBalance_val).mpr
      (hcredit _ _ _ _ rfl))
  | @debited token amount remaining _ _ positive sufficient remaining_val =>
    exact h.debited (remaining_nonneg sufficient remaining_val) (positive.trans_le sufficient)
  | other => exact h

end Account.Exact

variable [DecidableEq Symbol]

/-- For one creator, a key of the stored token set, a stored balance entry and a positive balance
are the same; a stored set is not empty; and the list of tokens is that of the positive balances,
each once. -/
structure TokenSetExact (storage : Storage Address Symbol) (owner : Address) : Prop where
  key_iff_stored : ∀ token,
    (∃ tokens : SortedSet Address,
      storage.persistentTier.get (.creatorTokens owner) = some tokens ∧ token ∈ tokens) ↔
    storage.persistentTier.has (.balance owner token) = true
  stored_iff_pos : ∀ token, storage.persistentTier.has (.balance owner token) = true ↔
    0 < getBalance storage owner token
  nonempty : ∀ tokens : SortedSet Address,
    storage.persistentTier.get (.creatorTokens owner) = some tokens → ∃ token, token ∈ tokens
  listed_iff_pos : ∀ token, token ∈ getAllTokens storage owner ↔
    0 < getBalance storage owner token
  listed_once : (getAllTokens storage owner).Nodup

omit [DecidableEq Symbol] in
theorem tokenSetExact_iff {storage : Storage Address Symbol} {owner : Address} :
    TokenSetExact storage owner ↔ (storage.account owner).Exact := by
  have hstored (token : Address) : storage.persistentTier.has (.balance owner token) = true ↔
      (storage.account owner).balances token ≠ none := Option.isSome_iff_ne_none
  constructor
  · intro h
    exact
      { tracked_iff_stored := fun token ↦ by
          rw [Storage.account_tracked, mem_trackedTokens, h.key_iff_stored, hstored]
        stored_iff_pos := fun token ↦ by
          rw [← hstored, h.stored_iff_pos, Storage.account_balance]
        tokens_nonempty := h.nonempty }
  · intro h
    exact
      { key_iff_stored := fun token ↦ by
          rw [← mem_trackedTokens, hstored]
          exact h.tracked_iff_stored token
        stored_iff_pos := fun token ↦ by
          rw [hstored]
          exact h.stored_iff_pos token
        nonempty := h.tokens_nonempty
        listed_iff_pos := fun token ↦ by
          rw [mem_getAllTokens]
          exact (h.tracked_iff_stored token).trans (h.stored_iff_pos token)
        listed_once := nodup_getAllTokens storage owner }

/-- A tip to `owner` meets a fee below 100% or a balance that is already positive. -/
def LeavesCredit (owner : Address) (state : State Address Symbol World) :
    Label host Symbol → Prop
  | .accepted _ (.tip _ creator token _ _) _ => creator = owner →
      getFeePercentage state.storage < MAX_FEE_BPS ∨ 0 < getBalance state.storage owner token
  | _ => True

variable {labels : List (Label host Symbol)} {state state' : State Address Symbol World}
  {world : World} {owner : Address}

/-- Along runs whose tips to a creator all leave credit, the token set of the creator is exact, and
an unregistration leaves none of the creator's balance entries behind. -/
theorem token_set_exact
    (run : Run (restrict (Step host) (LeavesCredit owner)) (deployed Symbol world) labels state) :
    TokenSetExact state.storage owner ∧
      ∀ (env : Env host) receipt state',
        Step host state (.accepted env (.unregister owner) receipt) state' →
          ∀ token, state'.storage.persistentTier.get (.balance owner token) = none := by
  have hexact : (state.storage.account owner).Exact := by
    refine account_invariant_of_restricted (P := Account.Exact) ?_ run (.of_deployed .nil) .empty
    intro before env call receipt account' hreach hallowed hbefore hstep
    apply hbefore.step (ConfigurationInvariant.of_reachable hreach).feeBps_le hstep
    rintro sender token amount message rfl
    exact hallowed rfl
  refine ⟨tokenSetExact_iff.mpr hexact, fun env receipt state' hstep token ↦ ?_⟩
  have haccount := hstep.accepts.accountStep owner
  change (state'.storage.account owner).balances token = none
  generalize state'.storage.account owner = account' at haccount
  cases haccount with
  | closed _ _ emptied => exact hexact.balances_eq_none emptied token
  | other hother => exact absurd rfl hother

/-- Two tokens tipped at a fee of 5%, one of them withdrawn whole. -/
def withdrawnMarket : List MarketCall :=
  [marketInit (u32 500), marketRegister 3 30, marketTip 3 7 (i128 100) (u64 103),
    marketTip 3 8 (i128 100) (u64 103), marketWithdraw 3 7 (i128 95)]

/-- The withdrawn token is off the list and the other one stays. -/
theorem token_set_exact_after_withdrawal :
    getAllTokens (replay marketStart withdrawnMarket).2.storage 3 = [8] ∧
      TokenSetExact (replay marketStart withdrawnMarket).2.storage 3 := by
  have hallowed : AllowedAlong (LeavesCredit 3) marketStart withdrawnMarket :=
    ⟨trivial, trivial, fun _ ↦ .inl (by decide), fun _ ↦ .inl (by decide), trivial, trivial⟩
  exact ⟨by decide, (token_set_exact (run_replay_of_allowed _ _ hallowed)).1⟩

/-- At a fee of 100%, a first tip lists a token without a positive balance, and the unregistration
that follows leaves the zero balance entry behind. -/
theorem token_set_inexact_at_full_fee :
    (¬∀ state : State ℕ ℕ (TokenLedger ℕ), ReachableState marketHost state →
      TokenSetExact state.storage 3) ∧
    ¬∀ (state state' : State ℕ ℕ (TokenLedger ℕ)) (env : Env marketHost) receipt,
      ReachableState marketHost state →
        Step marketHost state (.accepted env (.unregister 3) receipt) state' →
          ∀ token, state'.storage.persistentTier.get (.balance 3 token) = none := by
  have hreach : ReachableState marketHost (replay marketStart [marketInit (u32 10000),
      marketRegister 3 30, marketTip 3 7 (i128 100) (u64 103)]).2 := .of_deployed (run_replay _ _)
  constructor
  · intro h
    exact absurd ((h _ hreach).listed_iff_pos 7) (by decide)
  · intro h
    have hnone := h _ _ _ ⟨none, [.creatorUnregistered 3], []⟩ hreach
      (step_perform (signedBy marketHost 3 (u64 102)) (.unregister 3) _) 7
    exact absurd hnone (by decide)

/-- From a state with an exact token set, an accepted tip keeps it exact only under that condition. -/
theorem leavesCredit_of_exact {env : Env host} {sender token : Address} {amount : I128}
    {message : HostString} {receipt : Receipt Address Symbol} (hreach : ReachableState host state)
    (hbefore : TokenSetExact state.storage owner)
    (hstep : Step host state (.accepted env (.tip sender owner token amount message) receipt) state')
    (hafter : TokenSetExact state'.storage owner) :
    getFeePercentage state.storage < MAX_FEE_BPS ∨ 0 < getBalance state.storage owner token := by
  rw [tokenSetExact_iff] at hbefore hafter
  have haccount := hstep.accepts.accountStep owner
  generalize state'.storage.account owner = account' at haccount hafter
  cases haccount with
  | credited _ positive fee_val newBalance_val =>
    exact (hbefore.newBalance_pos_iff (ConfigurationInvariant.of_reachable hreach).feeBps_le
      positive fee_val newBalance_val).mp (hbefore.credited_iff.mp hafter)
  | other hother => exact absurd rfl hother

end StellarTip
