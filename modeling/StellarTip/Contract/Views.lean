import StellarTip.Contract.Host

/-!
# View functions

The read-only functions of `impl TipContract`, as functions of storage, together with what a profile,
a reverse entry and a balance read after a write or a removal of an entry of the same family. An entry
under a key of another constructor is never affected, which the store's own laws already say.
-/

namespace StellarTip

open Foundation

variable {Address Symbol : Type} [LinearOrder Address]

namespace TipContract

variable (storage : Storage Address Symbol)

def getProfile (address : Address) : Option (CreatorProfile Symbol) :=
  storage.instanceTier.get (.profile address)

def getCreatorFromUsername (username : Symbol) : Option Address :=
  storage.instanceTier.get (.usernameToAddress username)

def getBalance (creator token : Address) : I128 :=
  (storage.persistentTier.get (.balance creator token)).getD 0

def getTipCount (creator : Address) : U64 :=
  (storage.persistentTier.get (.tipCount creator)).getD 0

def getTip (creator : Address) (index : U64) : Option (Tip Address) :=
  storage.persistentTier.get (.tip creator index)

/-- The end of the window is computed with an overflow-checked addition; records that are missing
in the window are dropped. -/
def getTips (creator : Address) (start limit : U64) : Except Failure (List (Tip Address)) :=
  let count : U64 := (storage.persistentTier.get (.tipCount creator)).getD 0
  match start.checkedAdd limit with
  | none => .error .overflow
  | some sum =>
      .ok ((BoundedInt.range start (min sum count)).foldl (fun results index ↦
        match storage.persistentTier.get (.tip creator index) with
        | some tip => results ++ [tip]
        | none => results) [])

def getProfileByUsername (username : Symbol) : Option (CreatorProfile Symbol) :=
  match storage.instanceTier.get (.usernameToAddress username) with
  | some address => storage.instanceTier.get (.profile address)
  | none => none

def isCreator (address : Address) : Bool := storage.instanceTier.has (.profile address)

def isUsernameTaken (username : Symbol) : Bool :=
  storage.instanceTier.has (.usernameToAddress username)

def getAllTokens (creator : Address) : List Address :=
  match storage.persistentTier.get (.creatorTokens creator) with
  | some tokens => tokens.keys
  | none => []

def getContractVersion : U32 := CONTRACT_VERSION

def getAdmin : Option Address := storage.instanceTier.get .admin

def isPaused : Bool := (storage.instanceTier.get .paused).getD false

def getFeePercentage : U32 := (storage.instanceTier.get .feeBps).getD 0

def getFeeRecipient : Option Address := storage.instanceTier.get .feeRecipient

def getMaxCreators : U32 := (storage.instanceTier.get .maxCreators).getD 0

def getMaxTipsPerCreator : U32 := (storage.instanceTier.get .maxTipsPerCreator).getD 0

def getMinTipAmount : I128 := (storage.instanceTier.get .minTipAmount).getD 0

def getCreatorCount : U32 := (storage.instanceTier.get .creatorCount).getD 0

/-- The loop of `getTips` keeps the stored records of the window, in order. -/
theorem getTips_of_checkedAdd {creator : Address} {start limit sum : U64}
    (h : start.checkedAdd limit = some sum) :
    getTips storage creator start limit =
      .ok ((BoundedInt.range start (min sum (getTipCount storage creator))).filterMap
        (getTip storage creator)) := by
  have hloop (window : List U64) (results : List (Tip Address)) :
      window.foldl (fun results index ↦
        match storage.persistentTier.get (.tip creator index) with
        | some tip => results ++ [tip]
        | none => results) results = results ++ window.filterMap (getTip storage creator) := by
    induction window generalizing results with
    | nil => simp
    | cons index window ih =>
      rw [List.foldl_cons, ih, List.filterMap_cons]
      unfold getTip
      cases storage.persistentTier.get (.tip creator index) <;> simp
  unfold getTips
  rw [h]
  simp only [hloop, List.nil_append]
  rfl

theorem getProfileByUsername_eq_bind (username : Symbol) :
    getProfileByUsername storage username =
      (getCreatorFromUsername storage username).bind (getProfile storage) := by
  unfold getProfileByUsername getCreatorFromUsername
  cases storage.instanceTier.get (.usernameToAddress username) <;> rfl

/-- The tracked tokens of a creator; an absent entry tracks none. -/
def trackedTokens (creator : Address) : SortedSet Address :=
  (storage.persistentTier.get (.creatorTokens creator)).getD SortedSet.empty

variable {storage} in
theorem trackedTokens_of_get {creator : Address} {tokens : SortedSet Address}
    (h : storage.persistentTier.get (.creatorTokens creator) = some tokens) :
    trackedTokens storage creator = tokens := by
  rw [trackedTokens, h]
  rfl

theorem mem_trackedTokens {creator token : Address} :
    token ∈ trackedTokens storage creator ↔
      ∃ tokens : SortedSet Address,
        storage.persistentTier.get (.creatorTokens creator) = some tokens ∧ token ∈ tokens := by
  unfold trackedTokens
  cases storage.persistentTier.get (.creatorTokens creator) <;> simp

theorem mem_getAllTokens {creator token : Address} :
    token ∈ getAllTokens storage creator ↔ token ∈ trackedTokens storage creator := by
  unfold getAllTokens trackedTokens
  cases storage.persistentTier.get (.creatorTokens creator) with
  | none => simp
  | some tokens => rfl

theorem nodup_getAllTokens (creator : Address) : (getAllTokens storage creator).Nodup := by
  unfold getAllTokens
  cases storage.persistentTier.get (.creatorTokens creator) with
  | none => exact List.nodup_nil
  | some tokens => exact tokens.nodup_keys

end TipContract

namespace Store

variable [DecidableEq Symbol] (store : Store Address Symbol)

@[simp]
theorem get_set_profile (address other : Address) (value : CreatorProfile Symbol) :
    (store.set (.profile address) value).get (.profile other) =
      if other = address then some value else store.get (.profile other) := by
  by_cases h : other = address
  · subst h
    simp
  · simp [h]

@[simp]
theorem get_remove_profile (address other : Address) :
    (store.remove (.profile address)).get (.profile other) =
      if other = address then none else store.get (.profile other) := by
  by_cases h : other = address
  · subst h
    simp
  · simp [h]

@[simp]
theorem get_set_usernameToAddress (username other : Symbol) (value : Address) :
    (store.set (.usernameToAddress username) value).get (.usernameToAddress other) =
      if other = username then some value else store.get (.usernameToAddress other) := by
  by_cases h : other = username
  · subst h
    simp
  · simp [h]

@[simp]
theorem get_remove_usernameToAddress (username other : Symbol) :
    (store.remove (.usernameToAddress username)).get (.usernameToAddress other) =
      if other = username then none else store.get (.usernameToAddress other) := by
  by_cases h : other = username
  · subst h
    simp
  · simp [h]

@[simp]
theorem get_set_balance (creator token other otherToken : Address) (value : I128) :
    (store.set (.balance creator token) value).get (.balance other otherToken) =
      if other = creator ∧ otherToken = token then some value
      else store.get (.balance other otherToken) := by
  by_cases h : other = creator ∧ otherToken = token
  · obtain ⟨rfl, rfl⟩ := h
    simp
  · rw [if_neg h, KeyedStore.get_set_of_ne]
    simpa using h

@[simp]
theorem get_remove_balance (creator token other otherToken : Address) :
    (store.remove (.balance creator token)).get (.balance other otherToken) =
      if other = creator ∧ otherToken = token then none
      else store.get (.balance other otherToken) := by
  by_cases h : other = creator ∧ otherToken = token
  · obtain ⟨rfl, rfl⟩ := h
    simp
  · rw [if_neg h, KeyedStore.get_remove_of_ne]
    simpa using h

end Store

end StellarTip
