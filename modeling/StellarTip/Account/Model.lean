import StellarTip.Contract.Semantics

/-!
# The account of one creator

The contract is, for each address, a small account machine: a profile, the stored balances, the set
of tracked tokens, the tip counter and the tip records. Five operations act on an account. They are
stated here for one account alone, without storage keys and without the other creators, and
`Account.Step` says which call performs which operation.
-/

namespace StellarTip

open Foundation

variable {Address Symbol World : Type} [LinearOrder Address]

/-- Everything that is stored for one address, entry by entry. -/
@[ext]
structure Account (Address Symbol : Type) [LinearOrder Address] where
  profile : Option (CreatorProfile Symbol)
  balances : Address → Option I128
  tokens : Option (SortedSet Address)
  tipCount : Option U64
  tips : U64 → Option (Tip Address)

/-- The address whose account a call acts on. -/
def Call.account : Call Address Symbol → Option Address
  | .register caller .. | .updateProfile caller .. | .unregister caller | .withdraw caller .. =>
      some caller
  | .tip _ creator .. => some creator
  | _ => none

/-- The token that a call names. -/
def Call.token : Call Address Symbol → Option Address
  | .tip _ _ token _ _ | .withdraw _ token _ => some token
  | _ => none

namespace Account

def empty : Account Address Symbol := ⟨none, fun _ ↦ none, none, none, fun _ ↦ none⟩

variable (account : Account Address Symbol)

def balance (token : Address) : I128 := (account.balances token).getD 0

def count : U64 := account.tipCount.getD 0

def tracked : SortedSet Address := account.tokens.getD SortedSet.empty

def opened (profile : CreatorProfile Symbol) : Account Address Symbol :=
  { account with profile := some profile, tipCount := some 0 }

def edited (profile : CreatorProfile Symbol) : Account Address Symbol :=
  { account with profile := some profile }

/-- Closing an account keeps its balance entries and its tip records. -/
def closed : Account Address Symbol :=
  { account with profile := none, tokens := none, tipCount := none }

def credited (newBalance : I128) (nextIndex : U64) (tip : Tip Address) : Account Address Symbol :=
  { account with
    balances := fun token ↦ if token = tip.token then some newBalance else account.balances token
    tokens := some (account.tracked.insert tip.token)
    tipCount := some nextIndex
    tips := fun index ↦ if index = account.count then some tip else account.tips index }

def untracked (token : Address) : Option (SortedSet Address) :=
  if token ∈ account.tracked then
    if (account.tracked.remove token).isEmpty then none else some (account.tracked.remove token)
  else account.tokens

def debited (token : Address) (remaining : I128) : Account Address Symbol :=
  if 0 < remaining then
    { account with
      balances := fun other ↦ if other = token then some remaining else account.balances other }
  else
    { account with
      balances := fun other ↦ if other = token then none else account.balances other
      tokens := account.untracked token }

@[simp]
theorem balance_opened (profile : CreatorProfile Symbol) (token : Address) :
    (account.opened profile).balance token = account.balance token := rfl

@[simp]
theorem tracked_opened (profile : CreatorProfile Symbol) :
    (account.opened profile).tracked = account.tracked := rfl

@[simp]
theorem count_opened (profile : CreatorProfile Symbol) : (account.opened profile).count = 0 := rfl

@[simp]
theorem balance_edited (profile : CreatorProfile Symbol) (token : Address) :
    (account.edited profile).balance token = account.balance token := rfl

@[simp]
theorem tracked_edited (profile : CreatorProfile Symbol) :
    (account.edited profile).tracked = account.tracked := rfl

@[simp]
theorem count_edited (profile : CreatorProfile Symbol) :
    (account.edited profile).count = account.count := rfl

@[simp]
theorem balance_closed (token : Address) : account.closed.balance token = account.balance token :=
  rfl

@[simp]
theorem tracked_closed : account.closed.tracked = SortedSet.empty := rfl

@[simp]
theorem count_closed : account.closed.count = 0 := rfl

@[simp]
theorem balance_credited (newBalance : I128) (nextIndex : U64) (tip : Tip Address)
    (token : Address) :
    (account.credited newBalance nextIndex tip).balance token =
      if token = tip.token then newBalance else account.balance token := by
  unfold balance credited
  split <;> simp_all

@[simp]
theorem tracked_credited (newBalance : I128) (nextIndex : U64) (tip : Tip Address) :
    (account.credited newBalance nextIndex tip).tracked = account.tracked.insert tip.token := rfl

@[simp]
theorem count_credited (newBalance : I128) (nextIndex : U64) (tip : Tip Address) :
    (account.credited newBalance nextIndex tip).count = nextIndex := rfl

theorem balances_debited (token other : Address) (remaining : I128) :
    (account.debited token remaining).balances other =
      if other = token then if 0 < remaining then some remaining else none
      else account.balances other := by
  unfold debited
  split <;> rfl

theorem balance_debited (token other : Address) {remaining : I128} (h : 0 ≤ remaining) :
    (account.debited token remaining).balance other =
      if other = token then remaining else account.balance other := by
  unfold balance
  rw [balances_debited]
  split
  · split
    · rfl
    · rename_i hpos
      exact le_antisymm h (not_lt.mp hpos)
  · rfl

/-- Dropping the entry of an emptied token set leaves no tracked token. -/
theorem tracked_debited (token : Address) (remaining : I128) :
    (account.debited token remaining).tracked =
      if 0 < remaining then account.tracked else account.tracked.remove token := by
  unfold debited
  split
  · rfl
  · change (account.untracked token).getD SortedSet.empty = _
    unfold untracked
    split
    · split
      · rename_i hempty
        ext other
        simp only [SortedSet.isEmpty_iff.mp hempty other, iff_false]
        exact SortedSet.not_mem_empty other
      · rfl
    · rename_i hmem
      ext other
      rw [SortedSet.mem_remove]
      exact ⟨fun hother ↦ ⟨fun heq ↦ hmem (heq ▸ hother), hother⟩, And.right⟩

@[simp]
theorem profile_debited (token : Address) (remaining : I128) :
    (account.debited token remaining).profile = account.profile := by
  unfold debited
  split <;> rfl

@[simp]
theorem tipCount_debited (token : Address) (remaining : I128) :
    (account.debited token remaining).tipCount = account.tipCount := by
  unfold debited
  split <;> rfl

@[simp]
theorem count_debited (token : Address) (remaining : I128) :
    (account.debited token remaining).count = account.count := by
  unfold count
  rw [tipCount_debited]

@[simp]
theorem tips_debited (token : Address) (remaining : I128) :
    (account.debited token remaining).tips = account.tips := by
  unfold debited
  split <;> rfl

/-- A debit within the balance leaves no negative balance. -/
theorem remaining_nonneg {balance amount remaining : I128} (sufficient : amount ≤ balance)
    (remaining_val : remaining.val = balance.val - amount.val) : 0 ≤ remaining := by
  have hsufficient := BoundedInt.le_def.mp sufficient
  rw [BoundedInt.le_def, I128.val_zero, remaining_val]
  omega

/-- What an accepted call does to the account of `owner`, with the fee in force before the call. -/
inductive Step {host : Host Address World} (env : Env host) (feeBps : U32) (owner : Address)
    (account : Account Address Symbol) :
    Call Address Symbol → Receipt Address Symbol → Account Address Symbol → Prop
  | opened {username : Symbol} {displayName bio : HostString}
      (authorized : env.authorized owner = true)
      (unregistered : account.profile = none) :
      Step env feeBps owner account (.register owner username displayName bio)
        ⟨none, [.creatorRegistered owner username env.timestamp], []⟩
        (account.opened { username, displayName, bio, registeredAt := env.timestamp })
  | edited {displayName bio : HostString} {profile : CreatorProfile Symbol}
      (authorized : env.authorized owner = true)
      (registered : account.profile = some profile) :
      Step env feeBps owner account (.updateProfile owner displayName bio)
        ⟨none, [.profileUpdated owner profile.username displayName], []⟩
        (account.edited { profile with displayName, bio })
  | closed {profile : CreatorProfile Symbol}
      (authorized : env.authorized owner = true)
      (registered : account.profile = some profile)
      (emptied : ∀ token ∈ account.tracked, account.balance token ≤ 0) :
      Step env feeBps owner account (.unregister owner) ⟨none, [.creatorUnregistered owner], []⟩
        account.closed
  | credited {sender token : Address} {amount fee newBalance : I128} {message : HostString}
      {nextIndex : U64} {transfers : List (Transfer Address)}
      (registered : account.profile ≠ none)
      (positive : 0 < amount)
      (fee_val : fee.val = (amount.val * feeBps.val).tdiv MAX_FEE_BPS.val)
      (newBalance_val : newBalance.val = (account.balance token).val + (amount.val - fee.val))
      (nextIndex_val : nextIndex.val = account.count.val + 1) :
      Step env feeBps owner account (.tip sender owner token amount message)
        ⟨some account.count, [.tipSent sender owner token amount fee account.count], transfers⟩
        (account.credited newBalance nextIndex
          { sender, token, amount, message, timestamp := env.timestamp })
  | debited {token : Address} {amount remaining : I128}
      (authorized : env.authorized owner = true)
      (registered : account.profile ≠ none)
      (positive : 0 < amount)
      (sufficient : amount ≤ account.balance token)
      (remaining_val : remaining.val = (account.balance token).val - amount.val) :
      Step env feeBps owner account (.withdraw owner token amount)
        ⟨none, [.withdraw owner token amount],
          [⟨token, host.currentContractAddress, owner, amount⟩]⟩
        (account.debited token remaining)
  | other {call : Call Address Symbol} {receipt : Receipt Address Symbol}
      (other : call.account ≠ some owner) : Step env feeBps owner account call receipt account

namespace Step

variable {account} {account' : Account Address Symbol} {host : Host Address World} {env : Env host}
  {feeBps : U32} {owner : Address} {call : Call Address Symbol} {receipt : Receipt Address Symbol}

theorem eq_of_account_ne (h : Step env feeBps owner account call receipt account')
    (hne : call.account ≠ some owner) : account' = account := by
  cases h with
  | other => rfl
  | _ => exact absurd rfl hne

/-- A call moves the balance of no other token than the one it names. -/
theorem balance_eq_of_token_ne (h : Step env feeBps owner account call receipt account')
    {token : Address} (hne : call.token ≠ some token) :
    account'.balance token = account.balance token := by
  cases h with
  | @credited _ tipped =>
    have htoken : token ≠ tipped := fun heq ↦ hne (congrArg some heq.symm)
    rw [balance_credited, if_neg htoken]
  | @debited withdrawn =>
    have htoken : token ≠ withdrawn := fun heq ↦ hne (congrArg some heq.symm)
    rw [balance, balances_debited, if_neg htoken, balance]
  | _ => rfl

end Step

end Account

end StellarTip
