import StellarTip.Account.Census
import StellarTip.Observer.Indexer
import StellarTip.Observer.Retry
import StellarTip.Observer.Wire

/-!
# Auditing an event log

An auditor reads an event log from the start and keeps books: the indexer, the limits, the number of
creators, the holder of each username and the tokens seen. It refuses an event that the books rule
out. The books agree with the storage along every run, so the log of every run passes, whatever the
tokens do.
-/

namespace StellarTip

open Foundation TipContract

variable {Address Symbol World : Type} [LinearOrder Address] [DecidableEq Symbol]

/-- The limits of the configuration; no event reports the ones passed to `init`. -/
structure Limits where
  maxCreators : U32
  maxTipsPerCreator : U32
  minTipAmount : I128

/-- What an auditor keeps of the events read so far. -/
structure Books (Address Symbol : Type) where
  index : Index Address Symbol
  limits : Limits
  creators : ℕ
  holder : Symbol → Option Address
  tokens : List Address

namespace Books

variable (contract zeroAccount : Address) (initial : Limits) (books : Books Address Symbol)

def opening : Books Address Symbol := ⟨Index.empty, ⟨0, 0, 0⟩, 0, fun _ ↦ none, []⟩

/-- After `init` and not paused. -/
def isOpen : Bool := books.index.admin.isSome && !books.index.paused.getD false

def feeBps : U32 := books.index.feeBps.getD 0

/-- Whether the books allow an event, apart from who signed for it. -/
def allows : Event Address Symbol → Bool
  | .init _ feeRecipient feeBps =>
      books.index.admin = none ∧ feeBps ≤ MAX_FEE_BPS ∧ 0 ≤ initial.minTipAmount ∧
        feeRecipient ≠ contract
  | .adminChanged caller newAdmin =>
      books.index.admin = some caller ∧ newAdmin ≠ caller ∧ newAdmin ≠ zeroAccount
  | .paused caller | .unpaused caller | .maxCreatorsChanged caller _ | .maxTipsChanged caller _ =>
      books.index.admin = some caller
  | .feeChanged caller feeBps => books.index.admin = some caller ∧ feeBps ≤ MAX_FEE_BPS
  | .feeRecipientChanged caller feeRecipient =>
      books.index.admin = some caller ∧ feeRecipient ≠ contract
  | .minTipChanged caller minTipAmount => books.index.admin = some caller ∧ 0 ≤ minTipAmount
  | .creatorRegistered caller username _ =>
      books.isOpen ∧ books.index.username caller = none ∧ books.holder username = none ∧
        (0 < books.limits.maxCreators → books.creators < books.limits.maxCreators.val) ∧
        books.creators < 4294967295
  | .profileUpdated caller username displayName =>
      books.isOpen ∧ books.index.username caller = some username ∧
        displayName.length ≤ MAX_DISPLAY_NAME_LEN
  | .creatorUnregistered caller =>
      books.isOpen ∧ books.index.username caller ≠ none ∧
        ∀ token ∈ books.tokens, books.index.credit caller token ≤ 0
  | .tipSent _ creator token amount fee index =>
      books.isOpen ∧ books.index.username creator ≠ none ∧
        0 < amount ∧ books.limits.minTipAmount ≤ amount ∧
        (0 < books.limits.maxTipsPerCreator → index.val < books.limits.maxTipsPerCreator.val) ∧
        index.val = books.index.tipCount creator ∧ index.val < 18446744073709551615 ∧
        amount.val * books.feeBps.val ≤ 170141183460469231731687303715884105727 ∧
        fee.val = (amount.val * books.feeBps.val).tdiv MAX_FEE_BPS.val ∧
        books.index.credit creator token + (amount.val - fee.val) ≤
          170141183460469231731687303715884105727
  | .withdraw caller token amount =>
      books.isOpen ∧ books.index.username caller ≠ none ∧ 0 < amount ∧
        amount.val ≤ books.index.credit caller token

/-- The books after an event. An `INIT` sets the initial limits. -/
def apply (event : Event Address Symbol) : Books Address Symbol where
  index := books.index.apply event
  limits :=
    match event with
    | .init _ _ _ => initial
    | .maxCreatorsChanged _ maxCreators => { books.limits with maxCreators }
    | .maxTipsChanged _ maxTipsPerCreator => { books.limits with maxTipsPerCreator }
    | .minTipChanged _ minTipAmount => { books.limits with minTipAmount }
    | _ => books.limits
  creators :=
    match event with
    | .creatorRegistered _ _ _ => books.creators + 1
    | .creatorUnregistered _ => books.creators - 1
    | _ => books.creators
  holder username :=
    match event with
    | .creatorRegistered caller taken _ =>
        if username = taken then some caller else books.holder username
    | .creatorUnregistered caller =>
        if books.index.username caller = some username then none else books.holder username
    | _ => books.holder username
  tokens :=
    match event with
    | .tipSent _ _ token _ _ _ | .withdraw _ token _ => token :: books.tokens
    | _ => books.tokens

/-- One event: nothing is signed by the contract itself, and the books must allow the rest. -/
def check (event : Event Address Symbol) : Option (Books Address Symbol) :=
  if event.subject ≠ contract ∧ books.allows contract zeroAccount initial event then
    some (books.apply initial event)
  else none

/-- A stretch of a log. -/
def read (log : List (Event Address Symbol)) : Option (Books Address Symbol) :=
  log.foldlM (check contract zeroAccount initial) books

end Books

/-- Reads a log from the start, given the limits that `init` was called with. -/
def audit (contract zeroAccount : Address) (initial : Limits) (log : List (Event Address Symbol)) :
    Option (Books Address Symbol) :=
  Books.opening.read contract zeroAccount initial log

variable {contract zeroAccount : Address} {initial : Limits} {books books' : Books Address Symbol}
  {event : Event Address Symbol} {log : List (Event Address Symbol)}

theorem Books.check_eq_some_iff :
    books.check contract zeroAccount initial event = some books' ↔
      event.subject ≠ contract ∧ books.allows contract zeroAccount initial event = true ∧
        books.apply initial event = books' := by
  rw [check, Option.ite_none_right_eq_some, Option.some.injEq, and_assoc]

theorem Books.read_append (first second : List (Event Address Symbol)) :
    books.read contract zeroAccount initial (first ++ second) =
      (books.read contract zeroAccount initial first).bind
        fun mid ↦ mid.read contract zeroAccount initial second :=
  List.foldlM_append

theorem Books.read_cons :
    books.read contract zeroAccount initial (event :: log) =
      (books.check contract zeroAccount initial event).bind
        fun next ↦ next.read contract zeroAccount initial log :=
  List.foldlM_cons

theorem Books.read_singleton :
    books.read contract zeroAccount initial [event] =
      books.check contract zeroAccount initial event :=
  List.foldlM_cons.trans (bind_pure _)

/-! ## Books and storage -/

def Storage.limits (storage : Storage Address Symbol) : Limits :=
  ⟨getMaxCreators storage, getMaxTipsPerCreator storage, getMinTipAmount storage⟩

/-- The books agree with the storage. -/
structure Balanced (books : Books Address Symbol) (storage : Storage Address Symbol) : Prop where
  indexed : Indexed books.index storage
  limits : books.limits = storage.limits
  creators : (getCreatorCount storage).val = books.creators
  holder : ∀ username, books.holder username = getCreatorFromUsername storage username
  seen : ∀ creator token, books.index.credit creator token ≠ 0 → token ∈ books.tokens

namespace Balanced

variable {host : Host Address World} {env : Env host} {call : Call Address Symbol}
  {state state' : State Address Symbol World} {receipt : Receipt Address Symbol}
  {storage : Storage Address Symbol} {labels : List (Label host Symbol)} {world : World}

omit [DecidableEq Symbol] in
theorem opening : Balanced Books.opening (Storage.empty : Storage Address Symbol) where
  indexed :=
    { admin := rfl
      paused := rfl
      feeBps := rfl
      feeRecipient := rfl
      accounts := fun _ ↦ ⟨fun _ ↦ rfl, rfl, fun hnone ↦ absurd rfl hnone⟩ }
  limits := rfl
  creators := rfl
  holder _ := rfl
  seen _ _ h := absurd rfl h

omit [DecidableEq Symbol] in
/-- The username that the books have for a registered address. -/
theorem username_eq (h : Balanced books storage) {owner : Address} {profile : CreatorProfile Symbol}
    (hprofile : getProfile storage owner = some profile) :
    books.index.username owner = some profile.username := by
  rw [(h.indexed.accounts owner).username, Storage.account_profile, hprofile]
  rfl

/-- A token in which the books come to have any credit has been seen. -/
theorem seen_apply (h : Balanced books storage) {creator token : Address}
    (hne : (books.index.apply event).credit creator token ≠ 0) :
    token ∈ (books.apply initial event).tokens := by
  by_cases hcredit : books.index.credit creator token = 0
  · rw [Index.credit_apply, hcredit] at hne
    cases event with
    | tipSent sender tipped paid amount fee index =>
      have hpaid : paid = token := by
        by_contra hpaid
        simp [Event.credited, Event.debited, hpaid] at hne
      exact List.mem_cons.mpr (.inl hpaid.symm)
    | withdraw caller paid amount =>
      have hpaid : paid = token := by
        by_contra hpaid
        simp [Event.credited, Event.debited, hpaid] at hne
      exact List.mem_cons.mpr (.inl hpaid.symm)
    | _ => simp [Event.credited, Event.debited] at hne
  · have hseen := h.seen creator token hcredit
    cases event <;> first | exact hseen | exact List.mem_cons_of_mem _ hseen

/-- The event of an accepted call keeps the books in agreement with the storage. -/
theorem step (h : Balanced books state.storage) (hreach : ReachableState host state)
    (haccepts : Accepts env state call receipt state') (hevents : receipt.events = [event])
    (hinitial : ∀ caller feeRecipient feeBps maxCreators maxTipsPerCreator minTipAmount,
      call = .init caller feeRecipient feeBps maxCreators maxTipsPerCreator minTipAmount →
        initial = ⟨maxCreators, maxTipsPerCreator, minTipAmount⟩) :
    Balanced (books.apply initial event) state'.storage := by
  have hindexed : Indexed (books.index.apply event) state'.storage := by
    have hstep := h.indexed.step (.accepted (invoke_eq_ok_iff.mpr haccepts))
    rwa [Label.events, hevents] at hstep
  have husername (owner : Address) (profile : CreatorProfile Symbol) :
      getProfile state.storage owner = some profile →
        books.index.username owner = some profile.username := h.username_eq
  have hseen (creator token : Address) : (books.index.apply event).credit creator token ≠ 0 →
      token ∈ (books.apply initial event).tokens := h.seen_apply
  have hlimits (hkept : ∀ key, call.configures host key = none) :
      state'.storage.limits = state.storage.limits := by
    have hget (key : DataKey Address Symbol) (hkey : key.IsConfig) :
        state'.storage.instanceTier.get key = state.storage.instanceTier.get key := by
      rw [haccepts.get_config hkey, hkept]
      rfl
    simp only [Storage.limits, getMaxCreators, getMaxTipsPerCreator, getMinTipAmount]
    rw [hget .maxCreators trivial, hget .maxTipsPerCreator trivial, hget .minTipAmount trivial]
  obtain ⟨-, hbefore, hcount, hholder, -⟩ := h
  cases haccepts with
  | init _ fresh =>
    obtain rfl := List.singleton_inj.mp hevents
    obtain rfl := hinitial _ _ _ _ _ _ rfl
    have hempty := storage_eq_empty hreach fresh
    rw [hempty] at hcount hholder
    refine ⟨hindexed, ?_, ?_, fun username ↦ ?_, hseen⟩
    · simp [Books.apply, Storage.limits, getMaxCreators, getMaxTipsPerCreator, getMinTipAmount,
        Storage.afterInit]
    · change _ = (books.creators : ℤ)
      rw [hempty, ← hcount]
      simp [getCreatorCount, Storage.afterInit, Storage.empty]
    · rw [hempty]
      simpa [Books.apply, getCreatorFromUsername, Storage.afterInit] using hholder username
  | configure setter =>
    obtain rfl := List.singleton_inj.mp hevents
    refine ⟨hindexed, ?_, ?_, ?_, hseen⟩ <;> cases call <;> cases setter <;>
      simp_all [Books.apply, Storage.limits, getMaxCreators, getMaxTipsPerCreator,
        getMinTipAmount, getCreatorCount, getCreatorFromUsername]
  | register _ _ _ _ _ _ _ nextCount_val =>
    obtain rfl := List.singleton_inj.mp hevents
    refine ⟨hindexed, hbefore.trans (hlimits fun _ ↦ rfl).symm, ?_, fun username ↦ ?_, hseen⟩
    · rw [getCreatorCount_afterRegister, nextCount_val, hcount]
      rfl
    · simp [Books.apply, getCreatorFromUsername, hholder]
  | updateProfile =>
    obtain rfl := List.singleton_inj.mp hevents
    refine ⟨hindexed, hbefore.trans (hlimits fun _ ↦ rfl).symm, ?_, fun username ↦ ?_, hseen⟩
    · simpa [Books.apply, getCreatorCount] using hcount
    · simpa [Books.apply, getCreatorFromUsername] using hholder username
  | unregister _ _ registered =>
    obtain rfl := List.singleton_inj.mp hevents
    have hcensus := ExactCensus.of_reachable hreach
    have hpos := hcensus.count_pos (by rw [registered]; exact Option.some_ne_none _)
    refine ⟨hindexed, hbefore.trans (hlimits fun _ ↦ rfl).symm, ?_, fun username ↦ ?_, hseen⟩
    · rw [getCreatorCount_afterUnregister _ hpos, hcount]
      rw [BoundedInt.lt_def, hcount, U32.val_zero] at hpos
      change (books.creators : ℤ) - 1 = ((books.creators - 1 : ℕ) : ℤ)
      omega
    · simp [Books.apply, getCreatorFromUsername, hholder, husername _ _ registered, eq_comm]
  | tip =>
    obtain rfl := List.singleton_inj.mp hevents
    exact ⟨hindexed, hbefore, hcount, hholder, hseen⟩
  | withdraw =>
    obtain rfl := List.singleton_inj.mp hevents
    refine ⟨hindexed, hbefore.trans (hlimits fun _ ↦ rfl).symm, ?_, fun username ↦ ?_, hseen⟩
    · simpa [Books.apply, getCreatorCount] using hcount
    · simpa [Books.apply, getCreatorFromUsername] using hholder username

omit [DecidableEq Symbol] in
theorem isOpen_iff (h : Balanced books storage) : books.isOpen = true ↔ storage.Ready := by
  rw [Books.isOpen, Bool.and_eq_true, Bool.not_eq_true', h.indexed.admin, h.indexed.paused]
  rfl

omit [DecidableEq Symbol] in
theorem username_ne_none_iff (h : Balanced books storage) {owner : Address} :
    books.index.username owner ≠ none ↔ isCreator storage owner = true := by
  rw [(h.indexed.accounts owner).username, isCreator_iff, ne_eq, Option.map_eq_none_iff]

omit [DecidableEq Symbol] in
theorem feeBps_eq (h : Balanced books storage) : books.feeBps = getFeePercentage storage := by
  rw [Books.feeBps, h.indexed.feeBps]
  rfl

/-- The books allow the event of every accepted call. -/
theorem allows (h : Balanced books state.storage) (hreach : ReachableState host state)
    (haccepts : Accepts env state call receipt state') (hevents : receipt.events = [event])
    (hinitial : ∀ caller feeRecipient feeBps maxCreators maxTipsPerCreator minTipAmount,
      call = .init caller feeRecipient feeBps maxCreators maxTipsPerCreator minTipAmount →
        initial = ⟨maxCreators, maxTipsPerCreator, minTipAmount⟩) :
    books.allows host.currentContractAddress (host.addressFromString ZERO_ADDRESS) initial event =
      true := by
  cases haccepts with
  | init _ fresh feeBps_le minTip_nonneg recipient_ne =>
    obtain rfl := List.singleton_inj.mp hevents
    obtain rfl := hinitial _ _ _ _ _ _ rfl
    exact decide_eq_true ⟨h.indexed.admin.trans fresh, feeBps_le, minTip_nonneg, recipient_ne⟩
  | configure setter _ admin valid =>
    obtain rfl := List.singleton_inj.mp hevents
    have hadmin := h.indexed.admin.trans admin
    cases call <;> cases setter <;> simp_all [Books.allows]
  | @register _ _ _ _ nextCount _ ready _ _ unregistered username_free below_cap nextCount_val =>
    obtain rfl := List.singleton_inj.mp hevents
    have hcount := h.creators
    refine decide_eq_true ⟨h.isOpen_iff.mpr ready, ?_, (h.holder _).trans username_free,
      fun hpos ↦ ?_, ?_⟩
    · rw [(h.indexed.accounts _).username, Storage.account_profile, unregistered]
      rfl
    · rw [h.limits] at hpos ⊢
      have hlt := BoundedInt.lt_def.mp (not_le.mp fun hle ↦ below_cap ⟨hpos, hle⟩)
      rwa [hcount] at hlt
    · have hmax := nextCount.le_hi
      omega
  | updateProfile _ ready displayName_le _ registered =>
    obtain rfl := List.singleton_inj.mp hevents
    exact decide_eq_true ⟨h.isOpen_iff.mpr ready, h.username_eq registered, displayName_le⟩
  | unregister _ ready registered emptied =>
    obtain rfl := List.singleton_inj.mp hevents
    refine decide_eq_true ⟨h.isOpen_iff.mpr ready, ?_, fun token _ ↦ ?_⟩
    · rw [h.username_eq registered]
      exact Option.some_ne_none _
    · rw [(h.indexed.accounts _).credit, Storage.account_balance]
      exact BoundedInt.le_def.mp (not_lt.mp fun hpos ↦ not_lt.mpr
        (emptied token ((covered_of_reachable hreach _).tracked_of_pos token hpos)) hpos)
  | @tip _ _ _ _ _ newBalance _ nextIndex _ _ _ ready accepted =>
    obtain rfl := List.singleton_inj.mp hevents
    obtain ⟨product, hproduct⟩ := accepted.product_fits
    have hnext := accepted.nextIndex_val
    have hnext_le := nextIndex.le_hi
    refine decide_eq_true ⟨h.isOpen_iff.mpr ready, h.username_ne_none_iff.mpr accepted.registered,
      accepted.positive, ?_, fun hpos ↦ ?_, ?_, by omega, ?_, ?_, ?_⟩
    · rw [h.limits]
      rcases lt_or_ge 0 (getMinTipAmount state.storage) with hmin | hmin
      · exact accepted.minimum hmin
      · exact hmin.trans accepted.positive.le
    · rw [h.limits] at hpos ⊢
      exact BoundedInt.lt_def.mp (accepted.below_cap hpos)
    · exact ((h.indexed.accounts _).tipCount ((isCreator_iff _ _).mp accepted.registered)).symm
    · rw [h.feeBps_eq, ← hproduct]
      exact product.le_hi
    · rw [h.feeBps_eq]
      exact accepted.fee_val
    · rw [(h.indexed.accounts _).credit, Storage.account_balance, ← accepted.newBalance_val]
      exact newBalance.le_hi
  | withdraw _ ready accepted =>
    obtain rfl := List.singleton_inj.mp hevents
    refine decide_eq_true ⟨h.isOpen_iff.mpr ready, h.username_ne_none_iff.mpr accepted.registered,
      accepted.positive, ?_⟩
    rw [(h.indexed.accounts _).credit, Storage.account_balance]
    exact accepted.sufficient

end Balanced

section Passing

variable {host : Host Address World} {state : State Address Symbol World}
  {labels : List (Label host Symbol)} {world : World}

end Passing

end StellarTip
