import StellarTip.Account.Simulation
import StellarTip.Contract.TokenLedger

/-!
# The stored history as a list

The history of a creator is stored in three places: a counter, one record for each index, and the
registration time in the profile. An observer who keeps the list of the tips accepted since the
latest registration needs none of them. The stored history refines that list, whatever an earlier
registration left behind above the counter, and a client that reads it page by page reads the list.
-/

namespace StellarTip

open Foundation TipContract

variable {Address Symbol World : Type} [LinearOrder Address] {host : Host Address World}

/-- An accepted tip, as the call presents it, and the index that the call returns. -/
structure AcceptedTip (Address : Type) where
  tip : Tip Address
  returned : Option U64

/-- The list of the tips to `creator` after one more step. A registration starts it again. -/
def Label.record (creator : Address) (log : List (AcceptedTip Address)) :
    Label host Symbol → List (AcceptedTip Address)
  | .accepted _ (.register caller _ _ _) _ => if caller = creator then [] else log
  | .accepted env (.tip sender tipped token amount message) receipt =>
      if tipped = creator then
        log ++ [⟨{ sender, token, amount, message, timestamp := env.timestamp }, receipt.returned⟩]
      else log
  | _ => log

/-- The tips to `creator` accepted in a run since its latest registration. -/
def acceptedTips (creator : Address) (labels : List (Label host Symbol)) :
    List (AcceptedTip Address) :=
  labels.foldl (Label.record creator) []

theorem acceptedTips_append_singleton (creator : Address) (labels : List (Label host Symbol))
    (label : Label host Symbol) :
    acceptedTips creator (labels ++ [label]) = label.record creator (acceptedTips creator labels) := by
  rw [acceptedTips, List.foldl_append]
  rfl

/-- A call on another account leaves the list alone. -/
theorem record_of_account_ne {creator : Address} {env : Env host} {call : Call Address Symbol}
    {receipt : Receipt Address Symbol} (hne : call.account ≠ some creator)
    (log : List (AcceptedTip Address)) :
    (Label.accepted env call receipt).record creator log = log := by
  cases call with
  | register caller => exact if_neg fun heq ↦ hne (congrArg some heq)
  | tip sender tipped => exact if_neg fun heq ↦ hne (congrArg some heq)
  | _ => rfl

/-- The account of a registered creator stores `log`, whose timestamps, and before them the
registration time, occur in this order among the timestamps of the calls. -/
structure Logged (times : List U64) (log : List (AcceptedTip Address))
    (account : Account Address Symbol) (profile : CreatorProfile Symbol) : Prop where
  count : account.count.val = log.length
  stored : ∀ (index : U64) accepted, log[index.val.toNat]? = some accepted →
    account.tips index = some accepted.tip ∧ accepted.returned = some index
  chronicle : (profile.registeredAt :: log.map fun accepted ↦ accepted.tip.timestamp).Sublist times

namespace Logged

variable {times : List U64} {log : List (AcceptedTip Address)}
  {account account' : Account Address Symbol} {profile profile' : CreatorProfile Symbol}
  {env : Env host} {feeBps : U32} {creator : Address} {call : Call Address Symbol}
  {receipt : Receipt Address Symbol}

theorem later (h : Logged times log account profile) (times' : List U64) :
    Logged (times ++ times') log account profile :=
  { h with chronicle := h.chronicle.trans (List.sublist_append_left _ _) }

/-- A tip is stored at the end of the list, under the index that the call returns. -/
theorem credited (h : Logged times log account profile) {newBalance : I128} {nextIndex : U64}
    (tip : Tip Address) (hnext : nextIndex.val = account.count.val + 1) :
    Logged (times ++ [tip.timestamp]) (log ++ [⟨tip, some account.count⟩])
      (account.credited newBalance nextIndex tip) profile := by
  have hcount := h.count
  constructor
  · rw [Account.count_credited, hnext, hcount, List.length_append, List.length_singleton]
    rfl
  · intro index accepted hlookup
    have hnonneg := index.lo_le
    change (if index = account.count then some tip else account.tips index) = some accepted.tip ∧ _
    rcases lt_trichotomy index.val account.count.val with hlt | heq | hgt
    · rw [List.getElem?_append_left (by omega)] at hlookup
      rw [if_neg fun heq ↦ by rw [heq] at hlt; omega]
      exact h.stored index accepted hlookup
    · have hlast : index.val.toNat = log.length := by omega
      obtain rfl := BoundedInt.ext heq
      rw [hlast, List.getElem?_concat_length] at hlookup
      cases hlookup
      exact ⟨if_pos rfl, rfl⟩
    · rw [List.getElem?_eq_none (by simp; omega)] at hlookup
      cases hlookup
  · rw [List.map_append, ← List.cons_append]
    exact h.chronicle.append (List.Sublist.refl _)

/-- Every accepted call keeps the account and the list together. -/
theorem step (h : ∀ profile, account.profile = some profile → Logged times log account profile)
    (hstep : Account.Step env feeBps creator account call receipt account')
    (hprofile : account'.profile = some profile) :
    Logged (times ++ [env.timestamp]) ((Label.accepted env call receipt).record creator log)
      account' profile := by
  cases hstep with
  | opened =>
    cases hprofile
    rw [Label.record, if_pos rfl]
    exact
      { count := rfl
        stored := fun _ _ hlookup ↦ by cases hlookup
        chronicle := List.sublist_append_right _ _ }
  | @edited _ _ before _ registered =>
    cases hprofile
    have hbefore := (h before registered).later [env.timestamp]
    exact ⟨hbefore.count, hbefore.stored, hbefore.chronicle⟩
  | closed => cases hprofile
  | @credited sender token amount _ _ message _ _ _ _ _ _ nextIndex_val =>
    rw [Label.record, if_pos rfl]
    exact (h profile hprofile).credited
      { sender, token, amount, message, timestamp := env.timestamp } nextIndex_val
  | debited =>
    rw [Account.profile_debited] at hprofile
    have hbefore := (h profile hprofile).later [env.timestamp]
    exact
      { count := by rw [Account.count_debited]; exact hbefore.count
        stored := by rw [Account.tips_debited]; exact hbefore.stored
        chronicle := hbefore.chronicle }
  | other hother =>
    rw [record_of_account_ne hother]
    exact (h profile hprofile).later _

/-- Below the counter, a read of the account is a lookup in the list. -/
theorem tips_eq_getElem? (h : Logged times log account profile) {index : U64}
    (hindex : index < account.count) :
    account.tips index = (log.map AcceptedTip.tip)[index.val.toNat]? := by
  have hlt := BoundedInt.lt_def.mp hindex
  have hnonneg := index.lo_le
  have hcount := h.count
  have hlookup : log[index.val.toNat]? = some _ := List.getElem?_eq_getElem (by omega)
  rw [List.getElem?_map, hlookup]
  exact (h.stored index _ hlookup).1

end Logged

variable [DecidableEq Symbol] {state state' : State Address Symbol World}
  {labels : List (Label host Symbol)} {world : World} {creator : Address}
  {profile : CreatorProfile Symbol}

/-- Along every run, the account of a registered creator stores the list of its accepted tips. -/
theorem logged_of_run (run : Run (Step host) (deployed Symbol world) labels state)
    (hprofile : getProfile state.storage creator = some profile) :
    Logged (timestamps labels) (acceptedTips creator labels) (state.storage.account creator)
      profile := by
  induction run generalizing profile with
  | nil => cases hprofile
  | @snoc labels before after label init last ih =>
    rw [acceptedTips_append_singleton, timestamps, List.filterMap_append]
    cases last with
    | accepted ok =>
      exact Logged.step (fun _ ↦ ih) ((invoke_eq_ok_iff.mp ok).accountStep creator) hprofile
    | rejected => exact (ih hprofile).later _
    | outside => exact (ih hprofile).later _

/-- A client that reads `pages` pages of `limit` records, each from where the last one ended. -/
def readPages (storage : Storage Address Symbol) (creator : Address) (limit : U64) :
    ℕ → U64 → Except Failure (List (Tip Address))
  | 0, _ => .ok []
  | pages + 1, start => do
      let page ← getTips storage creator start limit
      match start.checkedAdd limit with
      | none => .error .overflow
      | some next => do
          let rest ← readPages storage creator limit pages next
          return page ++ rest

namespace Logged

variable {times : List U64} {log : List (AcceptedTip Address)} {storage : Storage Address Symbol}

omit [DecidableEq Symbol] in
/-- One page is one slice of the list. -/
theorem getTips_eq_slice (h : Logged times log (storage.account creator) profile)
    {start limit next : U64} (hnext : start.checkedAdd limit = some next) :
    getTips storage creator start limit =
      .ok (((log.map AcceptedTip.tip).drop start.val.toNat).take limit.val.toNat) := by
  have hval := BoundedInt.checkedAdd_eq_some_iff.mp hnext
  have hstart := start.lo_le
  have hlimit := limit.lo_le
  have hcount : (getTipCount storage creator).val = log.length := h.count
  rw [getTips_of_checkedAdd storage hnext]
  apply congrArg Except.ok
  calc
    _ = ((log.map AcceptedTip.tip).drop start.val.toNat).take
        ((min next (getTipCount storage creator)).val - start.val).toNat := by
      apply BoundedInt.filterMap_range_eq_slice
      intro index hindex
      exact h.tips_eq_getElem? (hindex.trans_le (min_le_right _ _))
    _ = _ := by
      -- Both lengths stop at the end of the list.
      rw [List.take_eq_take_iff, BoundedInt.val_min, List.length_drop, List.length_map]
      omega

omit [DecidableEq Symbol] in
/-- Consecutive pages are consecutive slices. -/
theorem readPages_eq_slice (h : Logged times log (storage.account creator) profile) (limit : U64)
    (pages : ℕ) (start : U64)
    (hfits : start.val + pages * limit.val ≤ 18446744073709551615) :
    readPages storage creator limit pages start =
      .ok (((log.map AcceptedTip.tip).drop start.val.toNat).take (pages * limit.val.toNat)) := by
  induction pages generalizing start with
  | zero => simp [readPages]
  | succ pages ih =>
    have hstart := start.lo_le
    have hlimit := limit.lo_le
    have hpages : (0 : ℤ) ≤ pages * limit.val := mul_nonneg (Int.natCast_nonneg _) hlimit
    rw [Nat.cast_succ, add_one_mul] at hfits
    obtain ⟨next, hnext, hval⟩ : ∃ next : U64,
        start.checkedAdd limit = some next ∧ next.val = start.val + limit.val :=
      BoundedInt.exists_ofInt? (by omega) (by omega)
    have hsum : next.val.toNat = start.val.toNat + limit.val.toNat := by omega
    have hrest := ih next (by omega)
    rw [readPages, h.getTips_eq_slice hnext, hnext]
    change (do
      let rest ← readPages storage creator limit pages next
      return _ ++ rest) = _
    rw [hrest, hsum, add_one_mul, Nat.add_comm (pages * _), List.take_add, List.drop_drop]
    rfl

end Logged

/-- In every run with non-decreasing ledger timestamps, the stored history of a registered creator
is the list of the tips accepted since its latest registration: the counter is its length, the
`k`-th call returned `k` and is read back under `k`, the timestamps are in order and none precedes
the registration, and pages that cover the list concatenate to it. -/
theorem stored_log_refines_accepted_tips
    (run : Run (Step host) (deployed Symbol world) labels state)
    (htimes : (timestamps labels).Pairwise (· ≤ ·))
    (hprofile : getProfile state.storage creator = some profile) :
    (getTipCount state.storage creator).val = (acceptedTips creator labels).length ∧
    (∀ (k : ℕ) accepted, (acceptedTips creator labels)[k]? = some accepted →
      ∃ index : U64, index.val = k ∧ accepted.returned = some index ∧
        getTip state.storage creator index = some accepted.tip) ∧
    (acceptedTips creator labels).Pairwise
      (fun earlier later ↦ earlier.tip.timestamp ≤ later.tip.timestamp) ∧
    (∀ accepted ∈ acceptedTips creator labels, profile.registeredAt ≤ accepted.tip.timestamp) ∧
    ∀ (limit : U64) (pages : ℕ), 0 < limit →
      (acceptedTips creator labels).length ≤ pages * limit.val →
      pages * limit.val ≤ 18446744073709551615 →
        readPages state.storage creator limit pages 0 =
          .ok ((acceptedTips creator labels).map AcceptedTip.tip) := by
  have hlogged := logged_of_run run hprofile
  obtain ⟨hregistered, hordered⟩ := List.pairwise_cons.mp (htimes.sublist hlogged.chronicle)
  refine ⟨hlogged.count, fun k accepted hlookup ↦ ?_, List.pairwise_map.mp hordered,
    fun accepted hmem ↦ hregistered _ (List.mem_map_of_mem hmem),
    fun limit pages _ hcover hfits ↦ ?_⟩
  · obtain ⟨hk, -⟩ := List.getElem?_eq_some_iff.mp hlookup
    have hcount := hlogged.count
    have hbound := (state.storage.account creator).count.le_hi
    obtain ⟨index, -, hval⟩ : ∃ index : U64,
        BoundedInt.ofInt? (k : ℤ) = some index ∧ index.val = k :=
      BoundedInt.exists_ofInt? (by omega) (by omega)
    have hposition : index.val.toNat = k := by omega
    rw [← hposition] at hlookup
    obtain ⟨hstored, hreturned⟩ := hlogged.stored index accepted hlookup
    exact ⟨index, hval, hreturned, hstored⟩
  · have hslice := hlogged.readPages_eq_slice limit pages 0 (by simpa using hfits)
    have hlimit := limit.lo_le
    have hcover' : (acceptedTips creator labels).length ≤ pages * limit.val.toNat := by
      zify
      rwa [Int.toNat_of_nonneg hlimit]
    rw [hslice]
    exact congrArg Except.ok (List.take_of_length_le (by simpa using hcover'))

/-- The creator of `tippedMarket` registers again and gets two more tips. -/
def laterMarketCalls : List MarketCall :=
  [marketWithdraw 3 7 (i128 95), (signedBy marketHost 3 (u64 105), .unregister 3),
    (signedBy marketHost 3 (u64 106), .register 3 31 [] []), marketTip 3 7 (i128 200) (u64 107),
    marketTip 3 8 (i128 300) (u64 107)]

set_option maxRecDepth 1024 in
/-- Pages of one record read the two tips after the new registration, and not the first one. -/
theorem stored_log_of_reregistered_creator :
    readPages (replay marketStart (tippedMarketCalls ++ laterMarketCalls)).2.storage 3 (u64 1) 2 0 =
      .ok [⟨5, 7, i128 200, [], u64 107⟩, ⟨5, 8, i128 300, [], u64 107⟩] := by
  have hprofile : getProfile (replay marketStart (tippedMarketCalls ++ laterMarketCalls)).2.storage
      3 = some ⟨31, [], [], u64 106⟩ := by decide
  obtain ⟨-, -, -, -, hpages⟩ := stored_log_refines_accepted_tips
    (run_replay (tippedMarketCalls ++ laterMarketCalls) marketStart) (by decide) hprofile
  exact hpages (u64 1) 2 (by decide) (by decide) (by decide)

end StellarTip
