import StellarTip.Account.Capacity
import StellarTip.Account.Determination

/-!
# How the storage grows

After `init` the instance holds eight global entries and two for each registered creator, exactly. The
persistent entries are at most two for each registered creator and two for each tip ever accepted; tip
records outlive their creators.
-/

namespace StellarTip

open Foundation TipContract

variable {Address Symbol World : Type} [LinearOrder Address]

namespace Storage

variable (storage : Storage Address Symbol)

def instanceKeys : Set (DataKey Address Symbol) := {key | storage.instanceTier.get key ≠ none}

def persistentKeys : Set (DataKey Address Symbol) := {key | storage.persistentTier.get key ≠ none}

end Storage

variable [DecidableEq Symbol] {host : Host Address World} {env : Env host}
  {state state' : State Address Symbol World} {call : Call Address Symbol}
  {receipt : Receipt Address Symbol} {label : Label host Symbol} {labels : List (Label host Symbol)}
  {world : World}

/-- The keys that `init` writes. -/
def globalKeys (Address Symbol : Type) [LinearOrder Address] [DecidableEq Symbol] :
    Finset (DataKey Address Symbol) :=
  {.admin, .paused, .feeBps, .feeRecipient, .maxCreators, .maxTipsPerCreator, .minTipAmount,
    .creatorCount}

theorem mem_globalKeys {key : DataKey Address Symbol} :
    key ∈ globalKeys Address Symbol ↔ key.IsGlobal := by
  cases key <;> simp [globalKeys, DataKey.IsGlobal, DataKey.IsConfig]

theorem card_globalKeys : (globalKeys Address Symbol).card = 8 := rfl

/-- The key of the reverse entry of a registered address. -/
def Storage.usernameKey (storage : Storage Address Symbol) (address : Address) :
    DataKey Address Symbol :=
  (getProfile storage address).elim .creatorCount fun profile ↦ .usernameToAddress profile.username

omit [DecidableEq Symbol] in
theorem Storage.usernameKey_eq {storage : Storage Address Symbol} {address : Address}
    (hmem : address ∈ registeredCreators storage) :
    ∃ profile, getProfile storage address = some profile ∧
      storage.usernameKey address = .usernameToAddress profile.username := by
  obtain ⟨profile, hprofile⟩ := Option.ne_none_iff_exists'.mp hmem
  exact ⟨profile, hprofile, by rw [usernameKey, hprofile]; rfl⟩

omit [DecidableEq Symbol] in
theorem UsernameInvariant.injOn_usernameKey {storage : Storage Address Symbol}
    (h : UsernameInvariant storage) :
    Set.InjOn storage.usernameKey (registeredCreators storage) := by
  intro address hmem other hother heq
  obtain ⟨profile, hprofile, hkey⟩ := Storage.usernameKey_eq hmem
  obtain ⟨profile', hprofile', hkey'⟩ := Storage.usernameKey_eq hother
  rw [hkey, hkey'] at heq
  exact h.username_unique hprofile hprofile' (DataKey.usernameToAddress.inj heq)

omit [DecidableEq Symbol] in
/-- The reverse entries that are stored are those of the registered addresses. -/
theorem UsernameInvariant.mem_image_usernameKey {storage : Storage Address Symbol}
    (h : UsernameInvariant storage) {username : Symbol} :
    .usernameToAddress username ∈ storage.usernameKey '' registeredCreators storage ↔
      getCreatorFromUsername storage username ≠ none := by
  rw [Option.ne_none_iff_exists']
  constructor
  · rintro ⟨address, hmem, heq⟩
    obtain ⟨profile, hprofile, hkey⟩ := Storage.usernameKey_eq hmem
    rw [hkey] at heq
    exact ⟨address, (h username address).mpr ⟨profile, hprofile, DataKey.usernameToAddress.inj heq⟩⟩
  · rintro ⟨address, haddress⟩
    obtain ⟨profile, hprofile, rfl⟩ := (h username address).mp haddress
    have hmem : address ∈ registeredCreators storage := by
      rw [mem_registeredCreators, hprofile]
      exact Option.some_ne_none _
    exact ⟨address, hmem, by rw [Storage.usernameKey, hprofile]; rfl⟩

/-- After `init`, the instance holds the global entries and two entries for each creator. -/
theorem instanceKeys_eq (h : ReachableState host state) (hadmin : getAdmin state.storage ≠ none) :
    state.storage.instanceKeys = ↑(globalKeys Address Symbol) ∪
      (DataKey.profile '' registeredCreators state.storage ∪
        state.storage.usernameKey '' registeredCreators state.storage) := by
  have hkind {key : DataKey Address Symbol}
      (hmem : key ∈ state.storage.usernameKey '' registeredCreators state.storage) :
      ∃ username, key = .usernameToAddress username := by
    obtain ⟨address, hregistered, rfl⟩ := hmem
    obtain ⟨profile, -, hkey⟩ := Storage.usernameKey_eq hregistered
    exact ⟨_, hkey⟩
  ext key
  rw [Set.mem_union, Set.mem_union, Finset.mem_coe, mem_globalKeys]
  change state.storage.instanceTier.get key ≠ none ↔ _
  constructor
  · intro hstored
    cases key with
    | profile address => exact .inr (.inl ⟨address, hstored, rfl⟩)
    | usernameToAddress username =>
      exact .inr (.inr ((UsernameInvariant.of_reachable h).mem_image_usernameKey.mpr hstored))
    | balance | tipCount | tip | creatorTokens =>
      exact absurd ((PlacementInvariant.of_reachable h).instanceTier_none _ id) hstored
    | _ => exact .inl trivial
  · rintro (hglobal | ⟨address, hmem, rfl⟩ | hmem)
    · exact Option.isSome_iff_ne_none.mp (global_stored h hadmin hglobal)
    · exact hmem
    · obtain ⟨username, rfl⟩ := hkind hmem
      exact (UsernameInvariant.of_reachable h).mem_image_usernameKey.mp hmem

/-- The number of entries of the instance follows from the creator count. -/
theorem ncard_instanceKeys (h : ReachableState host state) (hadmin : getAdmin state.storage ≠ none) :
    state.storage.instanceKeys.Finite ∧
      (state.storage.instanceKeys.ncard : ℤ) = 8 + 2 * (getCreatorCount state.storage).val := by
  have hcensus := ExactCensus.of_reachable h
  have hprofiles : (DataKey.profile '' registeredCreators state.storage :
      Set (DataKey Address Symbol)).Finite := hcensus.finite.image _
  have husernames := hcensus.finite.image state.storage.usernameKey
  have hkinds : Disjoint (DataKey.profile '' registeredCreators state.storage)
      (state.storage.usernameKey '' registeredCreators state.storage) := by
    rw [Set.disjoint_left]
    rintro _ ⟨address, -, rfl⟩ ⟨other, hmem, heq⟩
    obtain ⟨profile, -, hkey⟩ := Storage.usernameKey_eq hmem
    rw [hkey] at heq
    cases heq
  have hglobal : Disjoint (↑(globalKeys Address Symbol) : Set (DataKey Address Symbol))
      (DataKey.profile '' registeredCreators state.storage ∪
        state.storage.usernameKey '' registeredCreators state.storage) := by
    rw [Set.disjoint_left]
    rintro key hkey (⟨address, -, rfl⟩ | ⟨other, hmem, rfl⟩)
    · exact (mem_globalKeys.mp hkey).elim
    · obtain ⟨profile, -, hname⟩ := Storage.usernameKey_eq hmem
      rw [hname] at hkey
      exact (mem_globalKeys.mp hkey).elim
  rw [instanceKeys_eq h hadmin]
  refine ⟨(Finset.finite_toSet _).union (hprofiles.union husernames), ?_⟩
  rw [Set.ncard_union_eq hglobal (Finset.finite_toSet _) (hprofiles.union husernames),
    Set.ncard_union_eq hkinds hprofiles husernames, Set.ncard_coe_finset, card_globalKeys,
    Set.ncard_image_of_injective _ fun _ _ heq ↦ DataKey.profile.inj heq,
    (UsernameInvariant.of_reachable h).injOn_usernameKey.ncard_image, hcensus.count_val]
  push_cast
  omega

/-- The keys of what tips leave behind. -/
def DataKey.IsRecord : DataKey Address Symbol → Prop
  | .balance .. | .tip .. => True
  | _ => False

def Storage.recordKeys (storage : Storage Address Symbol) : Set (DataKey Address Symbol) :=
  {key | key.IsRecord ∧ storage.persistentTier.get key ≠ none}

/-- The number of `TIP` events. -/
def tipNumber (log : List (Event Address Symbol)) : ℕ :=
  log.countP fun event ↦ match event with
    | .tipSent .. => true
    | _ => false

/-- A tip leaves a balance and a record; no other call leaves anything. -/
theorem Accepts.recordKeys_subset (h : Accepts env state call receipt state') :
    (∃ balance record, tipNumber receipt.events = 1 ∧
      state'.storage.recordKeys ⊆ insert balance (insert record state.storage.recordKeys)) ∨
    state'.storage.recordKeys ⊆ state.storage.recordKeys := by
  cases h with
  | init | configure | updateProfile => exact .inr fun key hkey ↦ hkey
  | register =>
    right
    rintro key ⟨hrecord, hstored⟩
    refine ⟨hrecord, ?_⟩
    cases key <;> first | exact hrecord.elim | simpa using hstored
  | unregister =>
    right
    rintro key ⟨hrecord, hstored⟩
    refine ⟨hrecord, ?_⟩
    cases key <;> first | exact hrecord.elim | simpa using hstored
  | @tip sender creator token =>
    left
    refine ⟨.balance creator token, .tip creator (getTipCount state.storage creator), rfl, ?_⟩
    rintro key ⟨hrecord, hstored⟩
    rw [Set.mem_insert_iff, Set.mem_insert_iff]
    by_contra hother
    simp only [not_or] at hother
    apply hother.2.2
    refine ⟨hrecord, ?_⟩
    cases key <;> first | exact hrecord.elim | simpa [hother] using hstored
  | @withdraw caller token _ _ _ _ _ accepted =>
    right
    rintro key ⟨hrecord, hstored⟩
    refine ⟨hrecord, ?_⟩
    by_cases hkey : key = .balance caller token
    · subst hkey
      intro hnone
      have hzero : getBalance state.storage caller token = 0 := by rw [getBalance, hnone]; rfl
      have hle := accepted.sufficient
      rw [hzero] at hle
      exact absurd accepted.positive (not_lt.mpr hle)
    · rwa [Storage.get_persistentTier_afterWithdraw _ _ _ _ hkey] at hstored
      rintro rfl
      exact hrecord

theorem recordKeys_of_run (run : Run (Step host) (deployed Symbol world) labels state) :
    state.storage.recordKeys.Finite ∧
      state.storage.recordKeys.ncard ≤ 2 * tipNumber (eventLog labels) := by
  induction run with
  | nil =>
    have hempty : (deployed Symbol world).storage.recordKeys = (∅ : Set (DataKey Address Symbol)) :=
      Set.eq_empty_of_forall_notMem fun key hkey ↦ hkey.2 rfl
    rw [hempty]
    exact ⟨Set.finite_empty, by simp⟩
  | @snoc labels before after label init last ih =>
    obtain ⟨hfinite, hbound⟩ := ih
    have hlog : tipNumber (eventLog (labels ++ [label])) =
        tipNumber (eventLog labels) + tipNumber label.events := by
      simp [eventLog, tipNumber]
    rw [hlog]
    rcases last.accepts_or_storage_eq with ⟨env, call, receipt, rfl, haccepts⟩ | ⟨-, heq⟩
    · rcases haccepts.recordKeys_subset with ⟨balance, record, hone, hsubset⟩ | hsubset
      · have hinsert := (hfinite.insert record).insert balance
        refine ⟨hinsert.subset hsubset, ?_⟩
        calc
          after.storage.recordKeys.ncard
          _ ≤ (insert balance (insert record before.storage.recordKeys)).ncard :=
            Set.ncard_le_ncard hsubset hinsert
          _ ≤ before.storage.recordKeys.ncard + 1 + 1 :=
            (Set.ncard_insert_le _ _).trans (Nat.succ_le_succ (Set.ncard_insert_le _ _))
          _ ≤ _ := by
            rw [Label.events, hone]
            omega
      · exact ⟨hfinite.subset hsubset, (Set.ncard_le_ncard hsubset hfinite).trans (by omega)⟩
    · rw [heq]
      exact ⟨hfinite, hbound.trans (by omega)⟩

/-- Only registered creators have a token set. -/
theorem registered_of_tokens (h : ReachableState host state) {owner : Address}
    (htokens : state.storage.persistentTier.get (.creatorTokens owner) ≠ none) :
    owner ∈ registeredCreators state.storage := by
  refine h.account_invariant (P := fun account ↦ account.tokens ≠ none → account.profile ≠ none)
    (fun hnone ↦ absurd rfl hnone) (fun _ _ _ _ _ _ _ hinv hstep ↦ ?_) htokens
  cases hstep with
  | opened | edited => exact fun _ ↦ Option.some_ne_none _
  | closed => exact fun hnone ↦ absurd rfl hnone
  | credited registered => exact fun _ ↦ registered
  | debited _ registered =>
    rw [Account.profile_debited]
    exact fun _ ↦ registered
  | other => exact hinv

/-- A persistent entry is a counter or a token set of a creator, or was left by a tip. -/
theorem persistentKeys_subset (h : ReachableState host state) :
    state.storage.persistentKeys ⊆ DataKey.tipCount '' registeredCreators state.storage ∪
      (DataKey.creatorTokens '' registeredCreators state.storage ∪ state.storage.recordKeys) := by
  intro key hstored
  have hplaced := (PlacementInvariant.of_reachable h).persistentTier_none key
  cases key with
  | tipCount owner =>
    refine .inl ⟨owner, ?_, rfl⟩
    have hcounted : state.storage.persistentTier.has (.tipCount owner) = true :=
      Option.isSome_iff_ne_none.mpr hstored
    exact (isCreator_iff _ _).mp ((isCreator_iff_tipCount_stored h).mpr hcounted)
  | creatorTokens owner => exact .inr (.inl ⟨owner, registered_of_tokens h hstored, rfl⟩)
  | balance | tip => exact .inr (.inr ⟨trivial, hstored⟩)
  | _ => exact absurd (hplaced trivial) hstored

theorem persistentKeys_of_run (run : Run (Step host) (deployed Symbol world) labels state) :
    state.storage.persistentKeys.Finite ∧ (state.storage.persistentKeys.ncard : ℤ) ≤
      2 * (getCreatorCount state.storage).val + 2 * tipNumber (eventLog labels) := by
  have hreach : ReachableState host state := .of_deployed run
  have hcensus := ExactCensus.of_reachable hreach
  obtain ⟨hrecords, hbound⟩ := recordKeys_of_run run
  have hcounters : (DataKey.tipCount '' registeredCreators state.storage :
      Set (DataKey Address Symbol)).Finite := hcensus.finite.image _
  have htokens : (DataKey.creatorTokens '' registeredCreators state.storage :
      Set (DataKey Address Symbol)).Finite := hcensus.finite.image _
  have hall := hcounters.union (htokens.union hrecords)
  refine ⟨hall.subset (persistentKeys_subset hreach), ?_⟩
  have hle : state.storage.persistentKeys.ncard ≤
      (registeredCreators state.storage).ncard +
        ((registeredCreators state.storage).ncard + state.storage.recordKeys.ncard) :=
    calc
      state.storage.persistentKeys.ncard
      _ ≤ _ := Set.ncard_le_ncard (persistentKeys_subset hreach) hall
      _ ≤ _ := Set.ncard_union_le _ _
      _ ≤ _ := Nat.add_le_add_left (Set.ncard_union_le _ _) _
      _ ≤ _ := Nat.add_le_add (Set.ncard_image_le hcensus.finite)
        (Nat.add_le_add_right (Set.ncard_image_le hcensus.finite) _)
  have hcount := hcensus.count_val
  omega

/-- Along every run: before `init` nothing is stored; from then on the instance holds eight entries
and two for each registered creator, and the persistent entries are at most two for each registered
creator and two for each tip ever accepted. -/
theorem storage_growth (run : Run (Step host) (deployed Symbol world) labels state) :
    (state.storage.instanceKeys.Finite ∧ (state.storage.instanceKeys.ncard : ℤ) =
      if getAdmin state.storage = none then 0 else 8 + 2 * (getCreatorCount state.storage).val) ∧
    state.storage.persistentKeys.Finite ∧ (state.storage.persistentKeys.ncard : ℤ) ≤
      2 * (getCreatorCount state.storage).val + 2 * tipNumber (eventLog labels) := by
  have hreach : ReachableState host state := .of_deployed run
  refine ⟨?_, persistentKeys_of_run run⟩
  split
  · rename_i hadmin
    have hempty : state.storage.instanceKeys = ∅ := by
      rw [storage_eq_empty hreach hadmin]
      exact Set.eq_empty_of_forall_notMem fun key hkey ↦ hkey rfl
    rw [hempty]
    exact ⟨Set.finite_empty, by simp⟩
  · rename_i hadmin
    exact ncard_instanceKeys hreach hadmin

set_option maxRecDepth 1024 in
/-- The busy market is left with one creator after three tips. -/
theorem storage_growth_of_busyMarket :
    ((replay marketStart busyMarketCalls).2.storage.instanceKeys.ncard : ℤ) = 8 + 2 * 1 ∧
      ((replay marketStart busyMarketCalls).2.storage.persistentKeys.ncard : ℤ) ≤ 2 * 1 + 2 * 3 := by
  have hadmin : getAdmin (replay marketStart busyMarketCalls).2.storage ≠ none := by decide
  have hcount : (getCreatorCount (replay marketStart busyMarketCalls).2.storage).val = 1 := rfl
  have htips : tipNumber (eventLog (replay marketStart busyMarketCalls).1) = 3 := rfl
  obtain ⟨⟨-, hinstance⟩, -, hpersistent⟩ := storage_growth (run_replay busyMarketCalls marketStart)
  rw [if_neg hadmin, hcount] at hinstance
  rw [hcount, htips] at hpersistent
  exact ⟨hinstance, hpersistent⟩

end StellarTip
