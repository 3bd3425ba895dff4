import StellarTip.Contract.Views

/-!
# Storage effects of the entry points

The storage that a successful call leaves, as a function of the storage before it, under a name for
each entry point. The eight admin setters write one configuration entry each and need no name. The
lemmas give the two tiers after each effect, so that reads after it are computed by the store's
laws.
-/

namespace StellarTip

open Foundation

variable {Address Symbol : Type} [LinearOrder Address]

namespace Storage

open TipContract

/-- Initialized and not paused. -/
def Ready (storage : Storage Address Symbol) : Prop :=
  storage.instanceTier.has .admin = true ∧ isPaused storage = false

theorem Ready.admin_ne_none {storage : Storage Address Symbol} (h : storage.Ready) :
    getAdmin storage ≠ none := by
  obtain ⟨admin, hadmin⟩ := KeyedStore.has_iff.mp h.1
  rw [getAdmin, hadmin]
  exact Option.some_ne_none _

variable [DecidableEq Symbol] (storage : Storage Address Symbol)

def afterInit (caller feeRecipient : Address) (feeBps maxCreators maxTipsPerCreator : U32)
    (minTipAmount : I128) : Storage Address Symbol :=
  (((((((storage.setInstance .admin caller).setInstance .feeRecipient feeRecipient).setInstance
    .feeBps feeBps).setInstance .paused false).setInstance .maxCreators maxCreators).setInstance
    .maxTipsPerCreator maxTipsPerCreator).setInstance .minTipAmount minTipAmount).setInstance
    .creatorCount (0 : U32)

def afterRegister (caller : Address) (profile : CreatorProfile Symbol) (nextCount : U32) :
    Storage Address Symbol :=
  (((storage.setInstance (.profile caller) profile).setInstance
    (.usernameToAddress profile.username) caller).setPersistent
    (.tipCount caller) (0 : U64)).setInstance .creatorCount nextCount

def afterUpdateProfile (caller : Address) (profile : CreatorProfile Symbol) :
    Storage Address Symbol :=
  storage.setInstance (.profile caller) profile

/-- The decrement of the creator count leaves a zero count as it is. -/
def countDecremented : Storage Address Symbol :=
  match (getCreatorCount storage).checkedSub 1 with
  | some count => storage.setInstance .creatorCount count
  | none => storage

def afterUnregister (caller : Address) (profile : CreatorProfile Symbol) :
    Storage Address Symbol :=
  ((((storage.removePersistent (.creatorTokens caller)).removePersistent
    (.tipCount caller)).removeInstance (.usernameToAddress profile.username)).removeInstance
    (.profile caller)).countDecremented

def tracked (creator token : Address) : Storage Address Symbol :=
  storage.setPersistent (.creatorTokens creator) ((trackedTokens storage creator).insert token)

def afterTip (creator : Address) (index nextIndex : U64) (newBalance : I128)
    (tip : Tip Address) : Storage Address Symbol :=
  (((storage.setPersistent (.balance creator tip.token) newBalance).tracked
    creator tip.token).setPersistent (.tip creator index) tip).setPersistent
    (.tipCount creator) nextIndex

def untracked (caller token : Address) : Storage Address Symbol :=
  if token ∈ trackedTokens storage caller then
    if ((trackedTokens storage caller).remove token).isEmpty then
      storage.removePersistent (.creatorTokens caller)
    else
      storage.setPersistent (.creatorTokens caller) ((trackedTokens storage caller).remove token)
  else storage

def afterWithdraw (caller token : Address) (remaining : I128) : Storage Address Symbol :=
  if 0 < remaining then storage.setPersistent (.balance caller token) remaining
  else (storage.removePersistent (.balance caller token)).untracked caller token

@[simp]
theorem persistentTier_afterInit (caller feeRecipient : Address)
    (feeBps maxCreators maxTipsPerCreator : U32) (minTipAmount : I128) :
    (storage.afterInit caller feeRecipient feeBps maxCreators maxTipsPerCreator
      minTipAmount).persistentTier = storage.persistentTier := rfl

/-- A configuration write leaves the entries outside the configuration alone. -/
theorem get_setInstance_of_isConfig {key other : DataKey Address Symbol} (hkey : key.IsConfig)
    (hother : ¬other.IsConfig) (value : key.Value) :
    (storage.setInstance key value).instanceTier.get other = storage.instanceTier.get other := by
  have hne : other ≠ key := by
    rintro rfl
    exact hother hkey
  exact KeyedStore.get_set_of_ne _ hne value

theorem getProfile_setInstance {key : DataKey Address Symbol} (hkey : key.IsConfig)
    (value : key.Value) (address : Address) :
    getProfile (storage.setInstance key value) address = getProfile storage address := by
  have hprofile : ¬(DataKey.profile address : DataKey Address Symbol).IsConfig := not_false
  exact storage.get_setInstance_of_isConfig hkey hprofile value

theorem getCreatorFromUsername_setInstance {key : DataKey Address Symbol} (hkey : key.IsConfig)
    (value : key.Value) (username : Symbol) :
    getCreatorFromUsername (storage.setInstance key value) username =
      getCreatorFromUsername storage username := by
  have husername : ¬(DataKey.usernameToAddress username : DataKey Address Symbol).IsConfig :=
    not_false
  exact storage.get_setInstance_of_isConfig hkey husername value

@[simp]
theorem persistentTier_afterRegister (caller : Address) (profile : CreatorProfile Symbol)
    (nextCount : U32) :
    (storage.afterRegister caller profile nextCount).persistentTier =
      storage.persistentTier.set (.tipCount caller) (0 : U64) := rfl

@[simp]
theorem instanceTier_afterRegister (caller : Address) (profile : CreatorProfile Symbol)
    (nextCount : U32) :
    (storage.afterRegister caller profile nextCount).instanceTier =
      ((storage.instanceTier.set (.profile caller) profile).set
        (.usernameToAddress profile.username) caller).set .creatorCount nextCount := rfl

@[simp]
theorem persistentTier_afterUpdateProfile (caller : Address) (profile : CreatorProfile Symbol) :
    (storage.afterUpdateProfile caller profile).persistentTier = storage.persistentTier := rfl

@[simp]
theorem instanceTier_afterUpdateProfile (caller : Address) (profile : CreatorProfile Symbol) :
    (storage.afterUpdateProfile caller profile).instanceTier =
      storage.instanceTier.set (.profile caller) profile := rfl

@[simp]
theorem persistentTier_countDecremented :
    storage.countDecremented.persistentTier = storage.persistentTier := by
  unfold countDecremented
  split <;> rfl

@[simp]
theorem get_instanceTier_countDecremented {key : DataKey Address Symbol} (h : key ≠ .creatorCount) :
    storage.countDecremented.instanceTier.get key = storage.instanceTier.get key := by
  unfold countDecremented
  split
  · exact KeyedStore.get_set_of_ne _ h _
  · rfl

@[simp]
theorem persistentTier_afterUnregister (caller : Address) (profile : CreatorProfile Symbol) :
    (storage.afterUnregister caller profile).persistentTier =
      (storage.persistentTier.remove (.creatorTokens caller)).remove (.tipCount caller) := by
  rw [afterUnregister, persistentTier_countDecremented]
  rfl

@[simp]
theorem get_instanceTier_afterUnregister (caller : Address) (profile : CreatorProfile Symbol)
    {key : DataKey Address Symbol} (h : key ≠ .creatorCount) :
    (storage.afterUnregister caller profile).instanceTier.get key =
      ((storage.instanceTier.remove (.usernameToAddress profile.username)).remove
        (.profile caller)).get key :=
  get_instanceTier_countDecremented _ h

@[simp]
theorem instanceTier_afterTip (creator : Address) (index nextIndex : U64) (newBalance : I128)
    (tip : Tip Address) :
    (storage.afterTip creator index nextIndex newBalance tip).instanceTier =
      storage.instanceTier := rfl

@[simp]
theorem persistentTier_afterTip (creator : Address) (index nextIndex : U64) (newBalance : I128)
    (tip : Tip Address) :
    (storage.afterTip creator index nextIndex newBalance tip).persistentTier =
      (((storage.persistentTier.set (.balance creator tip.token) newBalance).set
        (.creatorTokens creator) ((trackedTokens storage creator).insert tip.token)).set
        (.tip creator index) tip).set (.tipCount creator) nextIndex := by
  have htokens : trackedTokens (storage.setPersistent (.balance creator tip.token) newBalance)
      creator = trackedTokens storage creator := by
    simp [trackedTokens]
  simp [afterTip, tracked, htokens]

@[simp]
theorem instanceTier_untracked (caller token : Address) :
    (storage.untracked caller token).instanceTier = storage.instanceTier := by
  unfold untracked
  split
  · split <;> rfl
  · rfl

@[simp]
theorem get_persistentTier_untracked (caller token : Address) {key : DataKey Address Symbol}
    (h : key ≠ .creatorTokens caller) :
    (storage.untracked caller token).persistentTier.get key = storage.persistentTier.get key := by
  unfold untracked
  split
  · split
    · exact KeyedStore.get_remove_of_ne _ h
    · exact KeyedStore.get_set_of_ne _ h _
  · rfl

@[simp]
theorem instanceTier_afterWithdraw (caller token : Address) (remaining : I128) :
    (storage.afterWithdraw caller token remaining).instanceTier = storage.instanceTier := by
  unfold afterWithdraw
  split
  · rfl
  · rw [instanceTier_untracked, instanceTier_removePersistent]

/-- A withdrawal reads and writes nothing but the balance and the token set of its caller. -/
theorem get_persistentTier_afterWithdraw (caller token : Address) (remaining : I128)
    {key : DataKey Address Symbol} (hbalance : key ≠ .balance caller token)
    (htokens : key ≠ .creatorTokens caller) :
    (storage.afterWithdraw caller token remaining).persistentTier.get key =
      storage.persistentTier.get key := by
  unfold afterWithdraw
  split
  · exact KeyedStore.get_set_of_ne _ hbalance _
  · rw [get_persistentTier_untracked _ caller token htokens]
    exact KeyedStore.get_remove_of_ne _ hbalance

/-- A partial withdrawal leaves nothing behind that a later one of the same token would not overwrite:
the entry is rewritten, or removed together with the token. -/
theorem afterWithdraw_afterWithdraw (caller token : Address) {remaining : I128}
    (hleft : 0 < remaining) (final : I128) :
    (storage.afterWithdraw caller token remaining).afterWithdraw caller token final =
      storage.afterWithdraw caller token final := by
  have hrewritten : storage.afterWithdraw caller token remaining =
      storage.setPersistent (.balance caller token) remaining := if_pos hleft
  rw [hrewritten]
  unfold afterWithdraw
  split
  · simp only [setPersistent, KeyedStore.set_set]
  · simp only [setPersistent, removePersistent, KeyedStore.remove_set]

theorem tracked_of_mem {storage : Storage Address Symbol} {creator token : Address}
    (h : token ∈ trackedTokens storage creator) : storage.tracked creator token = storage := by
  obtain ⟨tokens, hget, hmem⟩ := (mem_trackedTokens storage).mp h
  apply Storage.ext
  · rfl
  · simp only [tracked, trackedTokens_of_get hget, persistentTier_setPersistent,
      SortedSet.insert_of_mem hmem, KeyedStore.set_eq_self hget]

end Storage

end StellarTip
