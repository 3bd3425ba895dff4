import StellarTip.Account.Determination
import StellarTip.Account.TokenSet
import StellarTip.Contract.TokenLedger
import StellarTip.Foundation.Coupling

/-!
# The views tell everything that matters

A client that reads every view of the contract knows all that any later call can bring to light. The
storage holds a little more: a zero balance that a fee of 100% left behind reads like one that was
never written. No call can tell the two apart, so whatever happens to one of two contracts with the
same views happens to the other.
-/

namespace StellarTip

open Foundation TipContract

variable {Address Symbol World : Type}

/-- The view functions with their arguments. -/
inductive View (Address Symbol : Type) where
  | profile (address : Address)
  | creatorFromUsername (username : Symbol)
  | balance (creator token : Address)
  | tipCount (creator : Address)
  | tip (creator : Address) (index : U64)
  | tips (creator : Address) (start limit : U64)
  | profileByUsername (username : Symbol)
  | isCreator (address : Address)
  | isUsernameTaken (username : Symbol)
  | allTokens (creator : Address)
  | contractVersion
  | admin
  | isPaused
  | feePercentage
  | feeRecipient
  | maxCreators
  | maxTipsPerCreator
  | minTipAmount
  | creatorCount

namespace View

/-- What a view returns. -/
abbrev Result : View Address Symbol → Type
  | profile _ | profileByUsername _ => Option (CreatorProfile Symbol)
  | creatorFromUsername _ | admin | feeRecipient => Option Address
  | balance .. | minTipAmount => I128
  | tipCount _ => U64
  | tip .. => Option (Tip Address)
  | tips .. => Except Failure (List (Tip Address))
  | isCreator _ | isUsernameTaken _ | isPaused => Bool
  | allTokens _ => List Address
  | contractVersion | feePercentage | maxCreators | maxTipsPerCreator | creatorCount => U32

variable [LinearOrder Address]

def read (storage : Storage Address Symbol) : (view : View Address Symbol) → view.Result
  | profile address => getProfile storage address
  | creatorFromUsername username => getCreatorFromUsername storage username
  | balance creator token => getBalance storage creator token
  | tipCount creator => getTipCount storage creator
  | tip creator index => getTip storage creator index
  | tips creator start limit => getTips storage creator start limit
  | profileByUsername username => getProfileByUsername storage username
  | isCreator address => TipContract.isCreator storage address
  | isUsernameTaken username => TipContract.isUsernameTaken storage username
  | allTokens creator => getAllTokens storage creator
  | contractVersion => getContractVersion
  | admin => getAdmin storage
  | isPaused => TipContract.isPaused storage
  | feePercentage => getFeePercentage storage
  | feeRecipient => getFeeRecipient storage
  | maxCreators => getMaxCreators storage
  | maxTipsPerCreator => getMaxTipsPerCreator storage
  | minTipAmount => getMinTipAmount storage
  | creatorCount => getCreatorCount storage

end View

variable [LinearOrder Address]

/-- Every view reads the same. -/
def SameViews (storage storage' : Storage Address Symbol) : Prop :=
  ∀ view : View Address Symbol, view.read storage = view.read storage'

/-- What the contract makes of an entry: an absent balance is a zero balance. -/
def DataKey.reading : (key : DataKey Address Symbol) → Option key.Value → Option key.Value
  | .balance _ _, value => some (value.getD (0 : I128))
  | _, value => value

/-- Two storages that differ at most in balance entries that read zero. -/
structure Storage.Alike (storage storage' : Storage Address Symbol) : Prop where
  instanceTier_eq : storage.instanceTier = storage'.instanceTier
  reading_eq : ∀ key : DataKey Address Symbol,
    key.reading (storage.persistentTier.get key) = key.reading (storage'.persistentTier.get key)

namespace Storage.Alike

variable {storage storage' : Storage Address Symbol}

theorem getBalance_eq (h : storage.Alike storage') (creator token : Address) :
    getBalance storage creator token = getBalance storage' creator token :=
  Option.some.inj (h.reading_eq (.balance creator token))

/-- The entries other than balances are the same. -/
theorem get_eq (h : storage.Alike storage') (key : DataKey Address Symbol)
    (hkey : key.reading = id) :
    storage.persistentTier.get key = storage'.persistentTier.get key := by
  have hread := h.reading_eq key
  simp only [hkey, id] at hread
  exact hread

theorem has_eq (h : storage.Alike storage') (key : DataKey Address Symbol)
    (hkey : key.reading = id) :
    storage.persistentTier.has key = storage'.persistentTier.has key := by
  rw [KeyedStore.has, KeyedStore.has, h.get_eq key hkey]

theorem trackedTokens_eq (h : storage.Alike storage') (creator : Address) :
    trackedTokens storage creator = trackedTokens storage' creator := by
  rw [trackedTokens, trackedTokens, h.get_eq (.creatorTokens creator) rfl]

variable [DecidableEq Symbol]

theorem setInstance (h : storage.Alike storage') (key : DataKey Address Symbol) (value : key.Value) :
    (storage.setInstance key value).Alike (storage'.setInstance key value) where
  instanceTier_eq := by simp only [Storage.instanceTier_setInstance, h.instanceTier_eq]
  reading_eq := h.reading_eq

theorem removeInstance (h : storage.Alike storage') (key : DataKey Address Symbol) :
    (storage.removeInstance key).Alike (storage'.removeInstance key) where
  instanceTier_eq := by simp only [Storage.instanceTier_removeInstance, h.instanceTier_eq]
  reading_eq := h.reading_eq

theorem setPersistent (h : storage.Alike storage') (key : DataKey Address Symbol)
    (value : key.Value) :
    (storage.setPersistent key value).Alike (storage'.setPersistent key value) where
  instanceTier_eq := h.instanceTier_eq
  reading_eq other := by
    by_cases heq : other = key
    · subst heq
      simp only [Storage.persistentTier_setPersistent, KeyedStore.get_set_self]
    · simpa only [Storage.persistentTier_setPersistent, KeyedStore.get_set_of_ne _ heq]
        using h.reading_eq other

theorem removePersistent (h : storage.Alike storage') (key : DataKey Address Symbol) :
    (storage.removePersistent key).Alike (storage'.removePersistent key) where
  instanceTier_eq := h.instanceTier_eq
  reading_eq other := by
    by_cases heq : other = key
    · subst heq
      simp only [Storage.persistentTier_removePersistent, KeyedStore.get_remove_self]
    · simpa only [Storage.persistentTier_removePersistent, KeyedStore.get_remove_of_ne _ heq]
        using h.reading_eq other

theorem tracked (h : storage.Alike storage') (creator token : Address) :
    (storage.tracked creator token).Alike (storage'.tracked creator token) := by
  rw [Storage.tracked, Storage.tracked, h.trackedTokens_eq creator]
  exact h.setPersistent _ _

theorem untracked (h : storage.Alike storage') (caller token : Address) :
    (storage.untracked caller token).Alike (storage'.untracked caller token) := by
  rw [Storage.untracked, Storage.untracked, h.trackedTokens_eq caller]
  split
  · split
    · exact h.removePersistent _
    · exact h.setPersistent _ _
  · exact h

theorem afterWithdraw (h : storage.Alike storage') (caller token : Address) (remaining : I128) :
    (storage.afterWithdraw caller token remaining).Alike
      (storage'.afterWithdraw caller token remaining) := by
  unfold Storage.afterWithdraw
  split
  · exact h.setPersistent _ _
  · exact (h.removePersistent _).untracked caller token

end Storage.Alike

/-- Two frames that differ at most in balance entries that read zero. -/
structure Frame.Alike (frame frame' : Frame Address Symbol World) : Prop where
  storage : frame.storage.Alike frame'.storage
  world_eq : frame.world = frame'.world
  events_eq : frame.events = frame'.events
  transfers_eq : frame.transfers = frame'.transfers

/-! ## The contract is blind to the difference -/

/-- The outcome does not depend on which of two alike frames the run starts from. -/
abbrev Blind {α : Type} (m : Contract Address Symbol World α) : Prop := Respects Frame.Alike m

namespace Blind

variable {host : Host Address World} {env : Env host} {α : Type}

theorem requireAuth (address : Address) :
    Blind (requireAuth env address : Contract Address Symbol World Unit) := .rejectIf _ _

theorem panicIf (condition : Prop) [Decidable condition] (error : TipError) :
    Blind (panicIf condition error : Contract Address Symbol World Unit) := .rejectIf _ _

theorem unwrapOrPanic (value : Option α) (error : TipError) :
    Blind (unwrapOrPanic value error : Contract Address Symbol World α) := .demand _ _

theorem arithmetic (value : Option α) :
    Blind (arithmetic value : Contract Address Symbol World α) := .demand _ _

theorem instanceGet (key : DataKey Address Symbol) :
    Blind (instanceGet key : Contract Address Symbol World _) :=
  .query fun _ _ h ↦ by rw [h.storage.instanceTier_eq]

theorem instanceHas (key : DataKey Address Symbol) :
    Blind (instanceHas key : Contract Address Symbol World _) :=
  .query fun _ _ h ↦ by rw [h.storage.instanceTier_eq]

theorem persistentGet {key : DataKey Address Symbol} (hkey : key.reading = id) :
    Blind (persistentGet key : Contract Address Symbol World _) :=
  .query fun _ _ h ↦ h.storage.get_eq key hkey

theorem extendInstanceTtl : Blind (extendInstanceTtl : Contract Address Symbol World Unit) := .pure ()

theorem extendPersistentTtl {key : DataKey Address Symbol} (hkey : key.reading = id) :
    Blind (extendPersistentTtl key : Contract Address Symbol World Unit) := by
  exact .bind (.query fun _ _ h ↦ h.storage.has_eq key hkey) fun _ ↦ .rejectIf _ _

theorem publish [DecidableEq Symbol] (event : Event Address Symbol) :
    Blind (publish event : Contract Address Symbol World Unit) :=
  .update fun _ _ h ↦ { h with events_eq := by rw [h.events_eq] }

theorem tokenTransfer (transfer : Transfer Address) :
    Blind (tokenTransfer host transfer : Contract Address Symbol World Unit) := by
  intro frame frame' h
  cases hmoved : host.transfer frame.world transfer.token transfer.sender transfer.recipient
      transfer.amount with
  | error error =>
    have hmoved' := hmoved
    rw [h.world_eq] at hmoved'
    exact .of_error (run_tokenTransfer_eq_error.mpr ⟨error, hmoved, rfl⟩)
      (run_tokenTransfer_eq_error.mpr ⟨error, hmoved', rfl⟩)
  | ok settled =>
    have hmoved' := hmoved
    rw [h.world_eq] at hmoved'
    exact .of_ok () () (run_tokenTransfer_eq_ok.mpr ⟨settled, hmoved, rfl⟩)
      (run_tokenTransfer_eq_ok.mpr ⟨settled, hmoved', rfl⟩)
      ⟨rfl, h.storage, rfl, h.events_eq, by rw [h.transfers_eq]⟩

theorem checkInitializedAndNotPaused :
    Blind (checkInitializedAndNotPaused : Contract Address Symbol World Unit) :=
  .bind (instanceHas _) fun _ ↦ .bind (panicIf _ _) fun _ ↦ .bind (instanceGet _) fun _ ↦
    .bind (panicIf _ _) fun _ ↦ extendInstanceTtl

theorem validateInput (displayName bio : HostString) :
    Blind (validateInput displayName bio : Contract Address Symbol World Unit) :=
  .bind (panicIf _ _) fun _ ↦ panicIf _ _

theorem forwardFee (token : Address) (optFeeRecipient : Option Address) (fee : I128) :
    Blind (forwardFee host token optFeeRecipient fee : Contract Address Symbol World Unit) :=
  .ite (.bind (unwrapOrPanic _ _) fun _ ↦ tokenTransfer _) (.pure ())

variable [DecidableEq Symbol]

theorem instanceSet (key : DataKey Address Symbol) (value : key.Value) :
    Blind (instanceSet key value : Contract Address Symbol World Unit) :=
  .update fun _ _ h ↦ { h with storage := h.storage.setInstance key value }

theorem instanceRemove (key : DataKey Address Symbol) :
    Blind (instanceRemove key : Contract Address Symbol World Unit) :=
  .update fun _ _ h ↦ { h with storage := h.storage.removeInstance key }

theorem persistentSet (key : DataKey Address Symbol) (value : key.Value) :
    Blind (persistentSet key value : Contract Address Symbol World Unit) :=
  .update fun _ _ h ↦ { h with storage := h.storage.setPersistent key value }

theorem persistentRemove (key : DataKey Address Symbol) :
    Blind (persistentRemove key : Contract Address Symbol World Unit) :=
  .update fun _ _ h ↦ { h with storage := h.storage.removePersistent key }

theorem init (caller feeRecipient : Address) (feeBps maxCreators maxTipsPerCreator : U32)
    (minTipAmount : I128) :
    Blind (TipContract.init env caller feeRecipient feeBps maxCreators maxTipsPerCreator minTipAmount :
      Contract Address Symbol World Unit) :=
  .bind (requireAuth _) fun _ ↦ .bind (instanceHas _) fun _ ↦ .bind (panicIf _ _) fun _ ↦
    .bind (panicIf _ _) fun _ ↦ .bind (panicIf _ _) fun _ ↦ .bind (panicIf _ _) fun _ ↦
    .bind (instanceSet _ _) fun _ ↦ .bind (instanceSet _ _) fun _ ↦ .bind (instanceSet _ _) fun _ ↦
    .bind (instanceSet _ _) fun _ ↦ .bind (instanceSet _ _) fun _ ↦ .bind (instanceSet _ _) fun _ ↦
    .bind (instanceSet _ _) fun _ ↦ .bind (instanceSet _ _) fun _ ↦ .bind extendInstanceTtl fun _ ↦
    publish _

theorem setByAdmin (caller : Address) (invalid : Prop) [Decidable invalid]
    (key : DataKey Address Symbol) (value : key.Value) (event : Event Address Symbol) :
    Blind (setByAdmin env caller invalid key value event : Contract Address Symbol World Unit) :=
  .bind (requireAuth _) fun _ ↦ .bind (instanceGet _) fun _ ↦ .bind (unwrapOrPanic _ _) fun _ ↦
    .bind (panicIf _ _) fun _ ↦ .bind (panicIf _ _) fun _ ↦ .bind (instanceSet _ _) fun _ ↦
    .bind extendInstanceTtl fun _ ↦ publish _

theorem register (caller : Address) (username : Symbol) (displayName bio : HostString) :
    Blind (register env caller username displayName bio : Contract Address Symbol World Unit) :=
  .bind (requireAuth _) fun _ ↦ .bind checkInitializedAndNotPaused fun _ ↦
    .bind (validateInput _ _) fun _ ↦ .bind (instanceHas _) fun _ ↦ .bind (panicIf _ _) fun _ ↦
    .bind (instanceHas _) fun _ ↦ .bind (panicIf _ _) fun _ ↦ .bind (instanceGet _) fun _ ↦
    .bind (instanceGet _) fun _ ↦ .bind (panicIf _ _) fun _ ↦ .bind (instanceSet _ _) fun _ ↦
    .bind (instanceSet _ _) fun _ ↦ .bind (persistentSet _ _) fun _ ↦
    .bind (extendPersistentTtl rfl) fun _ ↦ .bind (arithmetic _) fun _ ↦
    .bind (instanceSet _ _) fun _ ↦ publish _

theorem updateProfile (caller : Address) (displayName bio : HostString) :
    Blind (updateProfile env caller displayName bio : Contract Address Symbol World Unit) :=
  .bind (requireAuth _) fun _ ↦ .bind checkInitializedAndNotPaused fun _ ↦
    .bind (validateInput _ _) fun _ ↦ .bind (instanceGet _) fun _ ↦ .bind (unwrapOrPanic _ _) fun _ ↦
    .bind (instanceSet _ _) fun _ ↦ .bind extendInstanceTtl fun _ ↦ publish _

/-- The loop of `unregister` asks for positive balances only. -/
theorem clearTokens (caller : Address) :
    Blind (clearTokens caller : Contract Address Symbol World Unit) := by
  refine .bind (persistentGet rfl) fun tokens ↦ ?_
  cases tokens with
  | none => exact .pure ()
  | some tokens =>
    refine .bind (.forM (fun token frame frame' h ↦ ?_) tokens.keys) fun _ ↦ persistentRemove _
    have hbalance := h.storage.getBalance_eq caller token
    by_cases hemptied : getBalance frame.storage caller token ≤ 0
    · exact .of_ok () () (run_balanceCheck_eq_ok.mpr ⟨hemptied, rfl⟩)
        (run_balanceCheck_eq_ok.mpr ⟨hbalance ▸ hemptied, rfl⟩) ⟨rfl, h⟩
    · exact .of_error (run_balanceCheck_eq_error.mpr ⟨hemptied, rfl⟩)
        (run_balanceCheck_eq_error.mpr ⟨hbalance ▸ hemptied, rfl⟩)

theorem decrementCreatorCount :
    Blind (decrementCreatorCount : Contract Address Symbol World Unit) :=
  .bind (instanceGet _) fun _ ↦ .ite (.bind (arithmetic _) fun _ ↦ instanceSet _ _) (.pure ())

theorem unregister (caller : Address) :
    Blind (unregister env caller : Contract Address Symbol World Unit) :=
  .bind (requireAuth _) fun _ ↦ .bind checkInitializedAndNotPaused fun _ ↦
    .bind (instanceGet _) fun _ ↦ .bind (unwrapOrPanic _ _) fun _ ↦ .bind (clearTokens _) fun _ ↦
    .bind (persistentRemove _) fun _ ↦ .bind (instanceRemove _) fun _ ↦
    .bind (instanceRemove _) fun _ ↦ .bind decrementCreatorCount fun _ ↦ publish _

theorem creditBalance (creator token : Address) (creatorAmount : I128) :
    Blind (creditBalance creator token creatorAmount : Contract Address Symbol World Unit) := by
  intro frame frame' h
  have hbalance := h.storage.getBalance_eq creator token
  by_cases hfits : ∃ newBalance : I128,
      newBalance.val = (getBalance frame.storage creator token).val + creatorAmount.val
  · obtain ⟨newBalance, hval⟩ := hfits
    exact .of_ok () () (run_creditBalance_eq_ok.mpr ⟨newBalance, hval, rfl⟩)
      (run_creditBalance_eq_ok.mpr ⟨newBalance, hbalance ▸ hval, rfl⟩)
      ⟨rfl, { h with storage := h.storage.setPersistent _ _ }⟩
  · exact .of_error (run_creditBalance_eq_error.mpr ⟨hfits, rfl⟩)
      (run_creditBalance_eq_error.mpr ⟨hbalance ▸ hfits, rfl⟩)

theorem trackToken (creator token : Address) :
    Blind (trackToken creator token : Contract Address Symbol World Unit) := by
  intro frame frame' h
  exact .of_ok () () (run_trackToken_eq_ok.mpr rfl) (run_trackToken_eq_ok.mpr rfl)
    ⟨rfl, { h with storage := h.storage.tracked creator token }⟩

theorem recordTip (creator : Address) (index : U64) (tip : Tip Address) :
    Blind (recordTip creator index tip : Contract Address Symbol World Unit) :=
  .bind (persistentSet _ _) fun _ ↦ .bind (extendPersistentTtl rfl) fun _ ↦
    .bind (arithmetic _) fun _ ↦ .bind (persistentSet _ _) fun _ ↦ extendPersistentTtl rfl

theorem tip (sender creator token : Address) (amount : I128) (message : HostString) :
    Blind (tip env sender creator token amount message : Contract Address Symbol World U64) :=
  .bind (requireAuth _) fun _ ↦ .bind checkInitializedAndNotPaused fun _ ↦
    .bind (panicIf _ _) fun _ ↦ .bind (instanceGet _) fun _ ↦ .bind (panicIf _ _) fun _ ↦
    .bind (instanceHas _) fun _ ↦ .bind (panicIf _ _) fun _ ↦ .bind (instanceGet _) fun _ ↦
    .bind (persistentGet rfl) fun _ ↦ .bind (panicIf _ _) fun _ ↦ .bind (instanceGet _) fun _ ↦
    .bind (arithmetic _) fun _ ↦ .bind (arithmetic _) fun _ ↦ .bind (arithmetic _) fun _ ↦
    .bind (instanceGet _) fun _ ↦ .bind (panicIf _ _) fun _ ↦ .bind (tokenTransfer _) fun _ ↦
    .bind (forwardFee _ _ _) fun _ ↦ .bind (creditBalance _ _ _) fun _ ↦
    .bind (trackToken _ _) fun _ ↦ .bind (recordTip _ _ _) fun _ ↦ .bind (publish _) fun _ ↦
    .pure _

theorem settleBalance (caller token : Address) (remaining : I128) :
    Blind (settleBalance caller token remaining : Contract Address Symbol World Unit) := by
  intro frame frame' h
  have htokens := h.storage.has_eq (.creatorTokens caller) rfl
  by_cases hstored : 0 < remaining → frame.storage.persistentTier.has (.creatorTokens caller) = true
  · exact .of_ok () () (run_settleBalance_eq_ok.mpr ⟨hstored, rfl⟩)
      (run_settleBalance_eq_ok.mpr ⟨htokens ▸ hstored, rfl⟩)
      ⟨rfl, { h with storage := h.storage.afterWithdraw _ _ _ }⟩
  · obtain ⟨hleft, hmissing⟩ := Classical.not_imp.mp hstored
    rw [Bool.not_eq_true] at hmissing
    exact .of_error (run_settleBalance_eq_error.mpr ⟨hleft, hmissing, rfl⟩)
      (run_settleBalance_eq_error.mpr ⟨hleft, htokens ▸ hmissing, rfl⟩)

theorem withdraw (caller token : Address) (amount : I128) :
    Blind (withdraw env caller token amount : Contract Address Symbol World Unit) := by
  refine .bind (requireAuth _) fun _ ↦ .bind checkInitializedAndNotPaused fun _ ↦
    .bind (instanceHas _) fun _ ↦ .bind (panicIf _ _) fun _ ↦ .bind (panicIf _ _) fun _ ↦ ?_
  intro frame frame' h
  refine .query ?_
  have hbalance : (frame.storage.persistentTier.get (.balance caller token)).getD (0 : I128) =
      (frame'.storage.persistentTier.get (.balance caller token)).getD (0 : I128) :=
    h.storage.getBalance_eq caller token
  dsimp only
  rw [hbalance]
  refine (?_ : Respects Frame.Alike _) h
  exact .bind (panicIf _ _) fun _ ↦ .bind (tokenTransfer _) fun _ ↦ .bind (arithmetic _) fun _ ↦
    .bind (settleBalance _ _ _) fun _ ↦ publish _

/-- No call can tell alike frames apart. -/
theorem body (env : Env host) (call : Call Address Symbol) :
    Blind (call.body env : Contract Address Symbol World _) := by
  cases call with
  | init => exact .bind (init _ _ _ _ _ _) fun _ ↦ .pure none
  | register => exact .bind (register _ _ _ _) fun _ ↦ .pure none
  | updateProfile => exact .bind (updateProfile _ _ _) fun _ ↦ .pure none
  | unregister => exact .bind (unregister _) fun _ ↦ .pure none
  | tip => exact .bind (tip _ _ _ _ _) fun _ ↦ .pure _
  | withdraw => exact .bind (withdraw _ _ _) fun _ ↦ .pure none
  | setAdmin | pause | unpause | setFeePercentage | setFeeRecipient | setMaxCreators
  | setMaxTipsPerCreator | setMinTipAmount =>
    exact .bind (setByAdmin _ _ _ _ _) fun _ ↦ .pure none

end Blind

variable {storage storage' : Storage Address Symbol} {host : Host Address World}
  {state state' stop : State Address Symbol World} {labels : List (Label host Symbol)}

/-- Alike storages have the same views. -/
theorem Storage.Alike.sameViews (h : storage.Alike storage') : SameViews storage storage' := by
  obtain ⟨instanceTier, persistentTier⟩ := storage
  obtain ⟨instanceTier', persistentTier'⟩ := storage'
  obtain rfl : instanceTier = instanceTier' := h.instanceTier_eq
  intro view
  cases view with
  | balance creator token => exact h.getBalance_eq creator token
  | tipCount creator => exact congrArg (Option.getD · (0 : U64)) (h.get_eq (.tipCount creator) rfl)
  | tip creator index => exact h.get_eq (.tip creator index) rfl
  | tips creator start limit =>
    have hcount := h.get_eq (.tipCount creator) rfl
    have htip (index : U64) := h.get_eq (.tip creator index) rfl
    simp only [View.read, getTips, hcount, htip]
  | allTokens creator =>
    simp only [View.read, getAllTokens, h.get_eq (.creatorTokens creator) rfl]
  | _ => rfl

variable [DecidableEq Symbol]

/-- A stored token set lists a token. -/
theorem exists_mem_of_creatorTokens (h : ReachableState host state) {owner : Address}
    {tokens : SortedSet Address}
    (hget : state.storage.persistentTier.get (.creatorTokens owner) = some tokens) :
    ∃ token, token ∈ tokens := by
  have hinv : ∀ tokens, (state.storage.account owner).tokens = some tokens →
      ∃ token, token ∈ tokens := by
    refine h.account_invariant (P := fun account ↦ ∀ tokens, account.tokens = some tokens →
      ∃ token, token ∈ tokens) (fun _ htokens ↦ by cases htokens) ?_
    intro env feeBps account call receipt account' _ hnonempty hstep tokens htokens
    cases hstep with
    | opened | edited | other => exact hnonempty tokens htokens
    | closed => cases htokens
    | @credited _ token =>
      obtain rfl := Option.some.inj htokens
      exact ⟨token, SortedSet.mem_insert.mpr (.inl rfl)⟩
    | debited =>
      unfold Account.debited at htokens
      split at htokens
      · exact hnonempty tokens htokens
      · exact Account.untracked_nonempty hnonempty htokens
  exact hinv tokens hget

namespace SameViews

/-- The configuration entries are there or not, together. -/
theorem config_eq (h : ReachableState host state) (h' : ReachableState host state')
    (hviews : SameViews state.storage state'.storage) {key : DataKey Address Symbol}
    (hkey : key.IsConfig) :
    state.storage.instanceTier.get key = state'.storage.instanceTier.get key := by
  have hsame : getAdmin state.storage = getAdmin state'.storage := hviews .admin
  by_cases hadmin : getAdmin state.storage = none
  · rw [storage_eq_empty h hadmin, storage_eq_empty h' (hsame ▸ hadmin)]
  · have hglobal : key.IsGlobal := by cases key <;> first | exact hkey | exact hkey.elim
    have hhas := global_stored h hadmin hglobal
    have hhas' := global_stored h' (hsame ▸ hadmin) hglobal
    cases key with
    | admin => exact hsame
    | feeRecipient => exact hviews .feeRecipient
    | paused => exact KeyedStore.get_eq_of_getD_eq hhas hhas' (hviews .isPaused)
    | feeBps => exact KeyedStore.get_eq_of_getD_eq hhas hhas' (hviews .feePercentage)
    | maxCreators => exact KeyedStore.get_eq_of_getD_eq hhas hhas' (hviews .maxCreators)
    | maxTipsPerCreator => exact KeyedStore.get_eq_of_getD_eq hhas hhas' (hviews .maxTipsPerCreator)
    | minTipAmount => exact KeyedStore.get_eq_of_getD_eq hhas hhas' (hviews .minTipAmount)
    | _ => exact hkey.elim

/-- A tip counter is stored exactly for the registered. -/
theorem tipCount_eq (h : ReachableState host state) (h' : ReachableState host state')
    (hviews : SameViews state.storage state'.storage) (owner : Address) :
    state.storage.persistentTier.get (.tipCount owner) =
      state'.storage.persistentTier.get (.tipCount owner) := by
  have hsame : isCreator state.storage owner = isCreator state'.storage owner :=
    hviews (.isCreator owner)
  have hstored : isCreator state.storage owner = true ↔ _ := isCreator_iff_tipCount_stored h
  have hstored' : isCreator state'.storage owner = true ↔ _ := isCreator_iff_tipCount_stored h'
  by_cases hregistered : isCreator state.storage owner = true
  · exact KeyedStore.get_eq_of_getD_eq (hstored.mp hregistered) (hstored'.mp (hsame ▸ hregistered))
      (hviews (.tipCount owner))
  · rw [KeyedStore.not_has_iff.mp (hstored.not.mp hregistered),
      KeyedStore.not_has_iff.mp (hstored'.not.mp (hsame ▸ hregistered))]

/-- No stored token set reads like an absent one. -/
theorem creatorTokens_eq (h : ReachableState host state) (h' : ReachableState host state')
    (hviews : SameViews state.storage state'.storage) (owner : Address) :
    state.storage.persistentTier.get (.creatorTokens owner) =
      state'.storage.persistentTier.get (.creatorTokens owner) := by
  have hlisted (token : Address) :
      token ∈ trackedTokens state.storage owner ↔ token ∈ trackedTokens state'.storage owner := by
    have hsame : getAllTokens state.storage owner = getAllTokens state'.storage owner :=
      hviews (.allTokens owner)
    rw [← mem_getAllTokens, hsame, mem_getAllTokens]
  have htracked := SortedSet.ext hlisted
  cases hget : state.storage.persistentTier.get (.creatorTokens owner) with
  | none =>
    cases hget' : state'.storage.persistentTier.get (.creatorTokens owner) with
    | none => rfl
    | some tokens =>
      obtain ⟨token, hmem⟩ := exists_mem_of_creatorTokens h' hget'
      rw [trackedTokens, hget, trackedTokens_of_get hget'] at htracked
      rw [← htracked] at hmem
      exact absurd hmem (SortedSet.not_mem_empty token)
  | some tokens =>
    cases hget' : state'.storage.persistentTier.get (.creatorTokens owner) with
    | none =>
      obtain ⟨token, hmem⟩ := exists_mem_of_creatorTokens h hget
      rw [trackedTokens_of_get hget, trackedTokens, hget'] at htracked
      rw [htracked] at hmem
      exact absurd hmem (SortedSet.not_mem_empty token)
    | some tokens' =>
      rw [trackedTokens_of_get hget, trackedTokens_of_get hget'] at htracked
      exact congrArg some htracked

/-- In reachable contracts the views determine all but the entries that read zero. -/
theorem alike (h : ReachableState host state) (h' : ReachableState host state')
    (hviews : SameViews state.storage state'.storage) : state.storage.Alike state'.storage := by
  constructor
  · exact instanceTier_eq_of_profiles h h' (fun _ hkey ↦ hviews.config_eq h h' hkey) fun owner ↦
      hviews (.profile owner)
  · intro key
    by_cases hkey : key.IsInstance
    · rw [(PlacementInvariant.of_reachable h).persistentTier_none key hkey,
        (PlacementInvariant.of_reachable h').persistentTier_none key hkey]
    · cases key with
      | balance owner token => exact congrArg some (hviews (.balance owner token))
      | tip owner index => exact hviews (.tip owner index)
      | tipCount owner => exact hviews.tipCount_eq h h' owner
      | creatorTokens owner => exact hviews.creatorTokens_eq h h' owner
      | _ => exact absurd trivial hkey

end SameViews

/-! ## Full abstraction -/

/-- Two states with alike storages in the same token world. -/
structure State.Alike (state state' : State Address Symbol World) : Prop where
  storage : state.storage.Alike state'.storage
  world_eq : state.world = state'.world

/-- An invocation of alike states hands back the same receipt or fails with the same failure. -/
theorem State.Alike.invoke (h : state.Alike state') (env : Env host) (call : Call Address Symbol) :
    Coupled (fun receipt next receipt' next' ↦ receipt = receipt' ∧ next.Alike next')
      (invoke env call state) (invoke env call state') := by
  have hbody := Blind.body env call (⟨h.storage, h.world_eq, rfl, rfl⟩ :
    Frame.Alike ⟨state.storage, state.world, [], []⟩ ⟨state'.storage, state'.world, [], []⟩)
  unfold StellarTip.invoke
  generalize (call.body env).run ⟨state.storage, state.world, [], []⟩ = outcome at hbody
  generalize (call.body env).run ⟨state'.storage, state'.world, [], []⟩ = outcome' at hbody
  cases hbody with
  | ok related =>
    obtain ⟨rfl, hfinal⟩ := related
    refine .ok ⟨?_, hfinal.storage, hfinal.world_eq⟩
    rw [hfinal.events_eq, hfinal.transfers_eq]
  | error => exact .error _

/-- What one of two alike states can do, the other can. -/
theorem Step.alike {label : Label host Symbol} {before after before' : State Address Symbol World}
    (h : before.Alike before') (hstep : Step host before label after) :
    ∃ after', Step host before' label after' ∧ after.Alike after' := by
  cases hstep with
  | @accepted env call receipt _ _ ok =>
    have hinvoke := h.invoke env call
    rw [ok] at hinvoke
    generalize hok' : invoke env call before' = outcome at hinvoke
    cases hinvoke with
    | ok related =>
      obtain ⟨rfl, hnext⟩ := related
      exact ⟨_, .accepted hok', hnext⟩
  | @rejected env call failure _ error =>
    exact ⟨before', .rejected ((h.invoke env call).eq_error_iff.mp error), h⟩
  | @outside _ world moved =>
    exact ⟨{ before' with world }, .outside (h.world_eq ▸ moved), h.storage, rfl⟩

/-- **The views are fully abstract.** Of two reachable contracts with the same views in the same token
world, everything that can happen to one can happen to the other: the same calls are accepted, with
the same receipts, and refused, with the same failures, and the views stay the same on the way. -/
theorem views_fully_abstract (h : ReachableState host state) (h' : ReachableState host state')
    (hworld : state.world = state'.world) (hviews : SameViews state.storage state'.storage)
    (run : Run (Step host) state labels stop) :
    ∃ stop', Run (Step host) state' labels stop' ∧ SameViews stop.storage stop'.storage ∧
      stop.world = stop'.world := by
  obtain ⟨stop', run', hstop⟩ := run.follow (fun _ _ _ _ halike hstep ↦ hstep.alike halike)
    ⟨hviews.alike h h', hworld⟩
  exact ⟨stop', run', hstop.storage.sameViews, hstop.world_eq⟩

/-- A host whose tokens grant every transfer. -/
def grantingHost : Host ℕ Unit where
  currentContractAddress := 0
  addressFromString _ := 9
  transfer _ _ _ _ _ := .ok ()
  balance _ _ _ := 0
  outside _ _ := True

abbrev GrantedCall := Env grantingHost × Call ℕ ℕ

/-- The fee is 100%. -/
def fullFeeInit : GrantedCall := (signedBy grantingHost 1 (u64 100), .init 1 2 (u32 10000) 0 0 0)

def grantedRegister (timestamp : U64) : GrantedCall :=
  (signedBy grantingHost 3 timestamp, .register 3 30 [] [])

def grantedTip (token : ℕ) (amount : I128) (timestamp : U64) : GrantedCall :=
  (signedBy grantingHost 5 timestamp, .tip 5 3 token amount [])

def fullFeeStart : Storage ℕ ℕ := (replay (deployed ℕ ()) [fullFeeInit]).2.storage

def grantedProfile (timestamp : U64) : CreatorProfile ℕ := ⟨30, [], [], timestamp⟩

def grantedRecord (token : ℕ) (amount : I128) (timestamp : U64) : Tip ℕ :=
  ⟨5, token, amount, [], timestamp⟩

/-- A creator who was tipped in token 8, left, came back and was tipped in token 7. -/
def returnedCreator : State ℕ ℕ Unit :=
  (replay (deployed ℕ ()) [fullFeeInit, grantedRegister (u64 101), grantedTip 8 (i128 100) (u64 102),
    (signedBy grantingHost 3 (u64 103), .unregister 3), grantedRegister (u64 104),
    grantedTip 7 (i128 50) (u64 105)]).2

/-- A creator who registered when the other came back. -/
def newCreator : State ℕ ℕ Unit :=
  (replay (deployed ℕ ()) [fullFeeInit, grantedRegister (u64 104), grantedTip 7 (i128 50) (u64 105)]).2

theorem returnedCreator_reachable : ReachableState grantingHost returnedCreator :=
  .of_deployed (run_replay _ _)

theorem newCreator_reachable : ReachableState grantingHost newCreator :=
  .of_deployed (run_replay _ _)

theorem returnedCreator_alike : returnedCreator.storage.Alike newCreator.storage := by
  have hreturned : returnedCreator.storage =
      ((((fullFeeStart.afterRegister 3 (grantedProfile (u64 101)) 1).afterTip 3 0 1 0
        (grantedRecord 8 (i128 100) (u64 102))).afterUnregister 3
          (grantedProfile (u64 101))).afterRegister 3 (grantedProfile (u64 104)) 1).afterTip 3 0 1 0
            (grantedRecord 7 (i128 50) (u64 105)) := rfl
  have hnew : newCreator.storage =
      (fullFeeStart.afterRegister 3 (grantedProfile (u64 104)) 1).afterTip 3 0 1 0
        (grantedRecord 7 (i128 50) (u64 105)) := rfl
  have hnone : fullFeeStart.persistentTier.get (.creatorTokens 3) = none := rfl
  constructor
  · rw [hreturned, hnew]
    ext1 key
    by_cases hprofile : key = .profile 3
    · subst hprofile
      simp
    by_cases husername : key = .usernameToAddress 30
    · subst husername
      simp [grantedProfile]
    by_cases hcount : key = .creatorCount
    · subst hcount
      simp
    simp [hprofile, husername, hcount, grantedProfile]
  · intro key
    rw [hreturned, hnew]
    by_cases hhidden : key = .balance 3 8
    · subst hhidden
      simp only [DataKey.reading]
      decide
    by_cases hbalance : key = .balance 3 7
    · subst hbalance
      simp [grantedRecord]
    by_cases htokens : key = .creatorTokens 3
    · subst htokens
      simp [trackedTokens, grantedRecord, hnone]
    by_cases hcount : key = .tipCount 3
    · subst hcount
      simp
    by_cases htip : key = .tip 3 0
    · subst htip
      simp
    simp [hhidden, hbalance, htokens, hcount, htip, grantedRecord]

/-- The stored entries of the two creators differ, and no call ever shows it. -/
theorem views_fully_abstract_for_returnedCreator :
    returnedCreator.storage.persistentTier.get (.balance 3 8) ≠
      newCreator.storage.persistentTier.get (.balance 3 8) ∧
    ∃ stop', Run (Step grantingHost) newCreator
        (replay returnedCreator [grantedTip 8 (i128 60) (u64 106),
          (signedBy grantingHost 3 (u64 107), .unregister 3)]).1 stop' ∧
      SameViews (replay returnedCreator [grantedTip 8 (i128 60) (u64 106),
        (signedBy grantingHost 3 (u64 107), .unregister 3)]).2.storage stop'.storage := by
  obtain ⟨stop', run', hviews, -⟩ := views_fully_abstract returnedCreator_reachable
    newCreator_reachable rfl returnedCreator_alike.sameViews
    (run_replay [grantedTip 8 (i128 60) (u64 106), (signedBy grantingHost 3 (u64 107), .unregister 3)]
      returnedCreator)
  exact ⟨by decide, stop', run', hviews⟩

end StellarTip
