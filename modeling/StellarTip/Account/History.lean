import StellarTip.Account.Simulation
import StellarTip.Contract.TokenLedger

/-!
# The tip history of a creator

A tip is recorded under the current counter, which then advances. Below the counter the history has
no holes, in every reachable state. Unregistration removes the counter and keeps the records, and
registration starts the counter at zero again. Two things therefore depend on what was recorded
before: a record persists as long as no tip is written over it, and the counter delimits the
readable records as long as no creator with tips unregisters.
-/

namespace StellarTip

open Foundation TipContract

variable {Address Symbol World : Type} [LinearOrder Address] {host : Host Address World}

/-- Every index below the counter has a record, and an unregistered account counts none. -/
structure Account.Filled (account : Account Address Symbol) : Prop where
  recorded : ∀ index, index < account.count → account.tips index ≠ none
  count_unregistered : account.profile = none → account.count = 0

theorem U64.not_lt_zero (index : U64) : ¬index < 0 := not_lt.mpr (BoundedInt.le_def.mpr index.lo_le)

namespace Account.Filled

variable {account account' : Account Address Symbol} {env : Env host} {feeBps : U32}
  {owner : Address} {call : Call Address Symbol} {receipt : Receipt Address Symbol}

theorem empty : (Account.empty : Account Address Symbol).Filled where
  recorded index h := absurd h (U64.not_lt_zero index)
  count_unregistered _ := rfl

theorem credited (h : account.Filled) {newBalance : I128} {nextIndex : U64} {tip : Tip Address}
    (registered : account.profile ≠ none) (hnext : nextIndex.val = account.count.val + 1) :
    (account.credited newBalance nextIndex tip).Filled where
  recorded index hindex := by
    change (if index = account.count then some tip else account.tips index) ≠ none
    split
    · exact Option.some_ne_none _
    · rename_i hne
      rw [count_credited, BoundedInt.lt_def, hnext] at hindex
      have hval : index.val ≠ account.count.val := fun heq ↦ hne (BoundedInt.ext heq)
      exact h.recorded index (BoundedInt.lt_def.mpr (by omega))
  count_unregistered hnone := absurd hnone registered

theorem step (h : account.Filled)
    (hstep : Account.Step env feeBps owner account call receipt account') : account'.Filled := by
  cases hstep with
  | opened =>
    exact ⟨fun index hindex ↦ absurd hindex (U64.not_lt_zero index), fun hnone ↦ by cases hnone⟩
  | edited => exact ⟨h.recorded, fun hnone ↦ by cases hnone⟩
  | closed => exact ⟨fun index hindex ↦ absurd hindex (U64.not_lt_zero index), fun _ ↦ rfl⟩
  | credited registered _ _ _ nextIndex_val => exact h.credited registered nextIndex_val
  | debited =>
    refine ⟨fun index hindex ↦ ?_, fun hnone ↦ ?_⟩
    · rw [count_debited] at hindex
      rw [tips_debited]
      exact h.recorded index hindex
    · rw [profile_debited] at hnone
      rw [count_debited]
      exact h.count_unregistered hnone
  | other => exact h

end Account.Filled

variable [DecidableEq Symbol] {state state' start stop : State Address Symbol World}
  {labels : List (Label host Symbol)} {owner : Address} {world : World}

theorem filled_of_reachable (h : ReachableState host state) (owner : Address) :
    (state.storage.account owner).Filled :=
  h.account_invariant .empty fun _ _ _ _ _ _ _ hinv hstep ↦ hinv.step hstep

/-- A tip to `owner` finds its slot empty, or holding the very record that it writes. -/
def FreeSlot (owner : Address) (state : State Address Symbol World) : Label host Symbol → Prop
  | .accepted env (.tip sender creator token amount message) _ => creator = owner →
      getTip state.storage owner (getTipCount state.storage owner) = none ∨
        getTip state.storage owner (getTipCount state.storage owner) =
          some { sender, token, amount, message, timestamp := env.timestamp }
  | _ => True

omit [DecidableEq Symbol] in
/-- A step of the account keeps a record unless a tip overwrites it with another one. -/
theorem Account.Step.tips_eq_some {env : Env host} {feeBps : U32}
    {account account' : Account Address Symbol} {call : Call Address Symbol}
    {receipt : Receipt Address Symbol}
    (hstep : Account.Step env feeBps owner account call receipt account')
    (hfree : ∀ sender token amount message, call = .tip sender owner token amount message →
      account.tips account.count = none ∨
        account.tips account.count =
          some { sender, token, amount, message, timestamp := env.timestamp })
    {index : U64} {record : Tip Address} (h : account.tips index = some record) :
    account'.tips index = some record := by
  cases hstep with
  | opened => exact h
  | edited => exact h
  | closed => exact h
  | @credited sender token amount _ _ message nextIndex =>
    change (if index = account.count then some _ else account.tips index) = some record
    split
    · rename_i heq
      rw [heq] at h
      rcases hfree sender token amount message rfl with hnone | hsame
      · rw [hnone] at h
        cases h
      · exact hsame.symm.trans h
    · exact h
  | debited => rwa [tips_debited]
  | other => exact h

/-- Along runs whose tips to a creator all find a free slot, every record of the creator stays. -/
theorem tip_history_permanent (hstart : ReachableState host start)
    (run : Run (restrict (Step host) (FreeSlot owner)) start labels stop) {index : U64}
    {record : Tip Address} (h : getTip start.storage owner index = some record) :
    getTip stop.storage owner index = some record := by
  refine account_invariant_of_restricted (P := fun account ↦ account.tips index = some record)
    ?_ run hstart h
  intro before env call receipt account' _ hallowed hbefore hstep
  refine hstep.tips_eq_some ?_ hbefore
  rintro sender token amount message rfl
  exact hallowed rfl

/-- Only such a tip keeps every record. -/
theorem freeSlot_of_permanent {env : Env host} {sender token : Address} {amount : I128}
    {message : HostString} {receipt : Receipt Address Symbol}
    (hstep : Step host state (.accepted env (.tip sender owner token amount message) receipt) state')
    (hkept : ∀ index record, getTip state.storage owner index = some record →
      getTip state'.storage owner index = some record) :
    FreeSlot owner state (.accepted env (.tip sender owner token amount message) receipt) := by
  rintro -
  have haccount := hstep.accepts.accountStep owner
  simp only [← Storage.account_tips, ← Storage.account_count] at hkept ⊢
  generalize state'.storage.account owner = account' at haccount hkept
  generalize hbefore : state.storage.account owner = account at *
  cases haccount with
  | credited =>
    cases hslot : account.tips account.count with
    | none => exact .inl rfl
    | some record =>
      have hrecord := hkept account.count record hslot
      simp only [Account.credited, if_true] at hrecord
      exact .inr hrecord.symm
  | other hother => exact absurd rfl hother

/-- The tipped creator withdraws, unregisters and registers again. -/
def reregisteredMarket : List MarketCall :=
  [marketWithdraw 3 7 (i128 95), marketUnregister 3, marketRegister 3 31]

/-- The record survives the withdrawal, the unregistration and the new registration. -/
theorem tip_history_permanent_reregistered :
    getTip (replay tippedMarket reregisteredMarket).2.storage 3 (u64 0) =
      some ⟨5, 7, i128 100, [], u64 103⟩ := by
  have hallowed : AllowedAlong (FreeSlot 3) tippedMarket reregisteredMarket :=
    ⟨trivial, trivial, trivial, trivial⟩
  exact tip_history_permanent tippedMarket_reachable (run_replay_of_allowed _ _ hallowed)
    (by decide)

/-- The first tip after the new registration overwrites the record. -/
theorem tip_history_overwritten :
    ¬∀ (start stop : State ℕ ℕ (TokenLedger ℕ)) (labels : List (Label marketHost ℕ)) index record,
      ReachableState marketHost start → Run (Step marketHost) start labels stop →
        getTip start.storage 3 index = some record → getTip stop.storage 3 index = some record := by
  intro h
  have hkept := h tippedMarket _ _ (u64 0) ⟨5, 7, i128 100, [], u64 103⟩ tippedMarket_reachable
    (run_replay (reregisteredMarket ++ [marketTip 3 7 (i128 200) (u64 105)]) tippedMarket)
    (by decide)
  exact absurd hkept (by decide)

/-- Nothing is recorded from the counter on. -/
def Account.Bounded (account : Account Address Symbol) : Prop :=
  ∀ index, account.count ≤ index → account.tips index = none

/-- Only a creator without tips unregisters. -/
def KeepsCount (owner : Address) (state : State Address Symbol World) : Label host Symbol → Prop
  | .accepted _ (.unregister caller) _ => caller = owner → getTipCount state.storage owner = 0
  | _ => True

namespace Account.Bounded

variable {account account' : Account Address Symbol} {env : Env host} {feeBps : U32}
  {call : Call Address Symbol} {receipt : Receipt Address Symbol}

omit [DecidableEq Symbol] in
theorem step (h : account.Bounded) (hfilled : account.Filled)
    (hstep : Account.Step env feeBps owner account call receipt account')
    (hkeeps : call = .unregister owner → account.count = 0) : account'.Bounded := by
  cases hstep with
  | opened _ unregistered =>
    intro index _
    apply h index
    rw [hfilled.count_unregistered unregistered]
    exact BoundedInt.le_def.mpr index.lo_le
  | edited => exact h
  | closed =>
    intro index _
    apply h index
    rw [hkeeps rfl]
    exact BoundedInt.le_def.mpr index.lo_le
  | @credited _ _ _ _ _ _ nextIndex _ _ _ _ _ nextIndex_val =>
    intro index hindex
    rw [count_credited, BoundedInt.le_def, nextIndex_val] at hindex
    change (if index = account.count then some _ else account.tips index) = none
    rw [if_neg fun heq ↦ by rw [heq] at hindex; omega]
    exact h index (BoundedInt.le_def.mpr (by omega))
  | debited =>
    intro index hindex
    rw [count_debited] at hindex
    rw [tips_debited]
    exact h index hindex
  | other => exact h

omit [DecidableEq Symbol] in
theorem tips_ne_none_iff (h : account.Bounded) (hfilled : account.Filled) (index : U64) :
    account.tips index ≠ none ↔ index < account.count :=
  ⟨fun hrecord ↦ not_le.mp fun hle ↦ hrecord (h index hle), hfilled.recorded index⟩

end Account.Bounded

omit [DecidableEq Symbol] in
/-- A page of one record reads what the single read reads. -/
theorem getTips_one {storage : Storage Address Symbol} (hbounded : (storage.account owner).Bounded)
    {index : U64} (hindex : index.val < 18446744073709551615) :
    getTips storage owner index 1 =
      .ok (getTip storage owner index).toList := by
  have hnonneg : 0 ≤ index.val + 1 := by
    have := index.lo_le
    omega
  obtain ⟨sum, hsum, hval⟩ : ∃ sum : U64,
      index.checkedAdd 1 = some sum ∧ sum.val = index.val + 1 :=
    BoundedInt.exists_ofInt? hnonneg (Int.add_one_le_of_lt hindex)
  rw [getTips_of_checkedAdd storage hsum]
  rcases le_or_gt (getTipCount storage owner) index with hle | hlt
  · have hnone : getTip storage owner index = none := hbounded index hle
    rw [BoundedInt.range_eq_nil ((min_le_right _ _).trans hle), hnone]
    rfl
  · have hmin : min sum (getTipCount storage owner) = sum := by
      apply min_eq_left
      have hval := BoundedInt.lt_def.mp hlt
      rw [BoundedInt.le_def]
      omega
    rw [hmin, BoundedInt.range_eq_singleton hval]
    cases hget : getTip storage owner index <;> simp [hget]

/-- Along runs in which a creator unregisters only without tips, the counter of the creator
delimits the readable history. -/
theorem tip_count_delimits
    (run : Run (restrict (Step host) (KeepsCount owner)) (deployed Symbol world) labels state) :
    (∀ index, (∃ record, getTip state.storage owner index = some record) ↔
      index < getTipCount state.storage owner) ∧
    (getProfile state.storage owner = none → ∀ index, getTip state.storage owner index = none) ∧
    ∀ index : U64, index.val < 18446744073709551615 →
      getTips state.storage owner index 1 =
        .ok (getTip state.storage owner index).toList := by
  have hfilled := filled_of_reachable (.of_deployed run.unrestrict) owner
  have hbounded : (state.storage.account owner).Bounded := by
    refine account_invariant_of_restricted (P := Account.Bounded) ?_ run (.of_deployed .nil)
      fun _ _ ↦ rfl
    intro before env call receipt account' hreach hallowed hbefore hstep
    apply hbefore.step (filled_of_reachable hreach owner) hstep
    rintro rfl
    exact hallowed rfl
  refine ⟨fun index ↦ ?_, fun hnone index ↦ hbounded index ?_, fun index ↦ getTips_one hbounded⟩
  · rw [← Option.ne_none_iff_exists']
    exact hbounded.tips_ne_none_iff hfilled index
  · rw [hfilled.count_unregistered hnone]
    exact BoundedInt.le_def.mpr index.lo_le

/-- A creator without tips unregisters, and gets a tip after the next registration. -/
def releasedMarketCalls : List MarketCall :=
  [marketInit (u32 500), marketRegister 3 30, marketUnregister 3, marketRegister 3 31,
    marketTip 3 7 (i128 100) (u64 103)]

/-- The page at the counter before that tip holds the one record. -/
theorem tip_count_delimits_after_release :
    getTips (replay marketStart releasedMarketCalls).2.storage 3 0 1 =
      .ok (getTip (replay marketStart releasedMarketCalls).2.storage 3 0).toList := by
  have hallowed : AllowedAlong (KeepsCount 3) marketStart releasedMarketCalls :=
    ⟨trivial, trivial, fun _ ↦ by decide, trivial, trivial, trivial⟩
  exact (tip_count_delimits (run_replay_of_allowed _ _ hallowed)).2.2 0 (by decide)

/-- After the unregistration of a creator with a tip, the record is still read and none is counted. -/
theorem tip_count_exceeded_after_unregister :
    ¬∀ state : State ℕ ℕ (TokenLedger ℕ), ReachableState marketHost state →
      ∀ index, (∃ record, getTip state.storage 3 index = some record) ↔
        index < getTipCount state.storage 3 := by
  intro h
  have hreach := tippedMarket_reachable.run
    (run_replay [marketWithdraw 3 7 (i128 95), marketUnregister 3] tippedMarket)
  exact absurd ((h _ hreach (u64 0)).mp ⟨⟨5, 7, i128 100, [], u64 103⟩, by decide⟩) (by decide)

/-- An unregistration keeps the history delimited only when nothing was counted. -/
theorem keepsCount_of_delimited {env : Env host} {receipt : Receipt Address Symbol}
    (hreach : ReachableState host state)
    (hstep : Step host state (.accepted env (.unregister owner) receipt) state')
    (hafter : ∀ index, (∃ record, getTip state'.storage owner index = some record) ↔
      index < getTipCount state'.storage owner) :
    getTipCount state.storage owner = 0 := by
  have hfilled := filled_of_reachable hreach owner
  have haccount := hstep.accepts.accountStep owner
  simp only [← Storage.account_tips, ← Storage.account_count] at hafter ⊢
  generalize state'.storage.account owner = account' at haccount hafter
  cases haccount with
  | closed =>
    by_contra hne
    have hpos : 0 < (state.storage.account owner).count :=
      lt_of_le_of_ne (BoundedInt.le_def.mpr (BoundedInt.lo_le _)) (Ne.symm hne)
    exact absurd ((hafter 0).mp (Option.ne_none_iff_exists'.mp (hfilled.recorded 0 hpos)))
      (U64.not_lt_zero 0)
  | other hother => exact absurd rfl hother

end StellarTip
