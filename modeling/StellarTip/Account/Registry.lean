import StellarTip.Account.Simulation
import StellarTip.Contract.TokenLedger

/-!
# The username registry

Two maps are kept in opposite directions: a profile carries its username, and a reverse entry leads
from the username back to the address. Registration writes both, unregistration removes both, and
nothing else writes a username, so the reverse entries are exactly the usernames of the profiles.
-/

namespace StellarTip

open Foundation TipContract

variable {Address Symbol World : Type} [LinearOrder Address] [DecidableEq Symbol]
  {host : Host Address World}

/-- A username leads to an address exactly when the profile of the address carries it. -/
def UsernameInvariant (storage : Storage Address Symbol) : Prop :=
  ∀ username address, getCreatorFromUsername storage username = some address ↔
    ∃ profile, getProfile storage address = some profile ∧ profile.username = username

namespace UsernameInvariant

variable {storage storage' : Storage Address Symbol} {env : Env host}
  {state state' : State Address Symbol World} {call : Call Address Symbol}
  {receipt : Receipt Address Symbol}

omit [DecidableEq Symbol] in
theorem empty : UsernameInvariant (Storage.empty : Storage Address Symbol) := by
  intro username address
  simp [getCreatorFromUsername, getProfile, Storage.empty]

omit [DecidableEq Symbol] in
theorem congr (h : UsernameInvariant storage)
    (hprofile : ∀ address, getProfile storage' address = getProfile storage address)
    (husername : ∀ username, getCreatorFromUsername storage' username =
      getCreatorFromUsername storage username) : UsernameInvariant storage' := by
  intro username address
  rw [hprofile, husername]
  exact h username address

theorem afterRegister (h : UsernameInvariant storage) {caller : Address}
    {profile : CreatorProfile Symbol} {nextCount : U32}
    (unregistered : getProfile storage caller = none)
    (username_free : getCreatorFromUsername storage profile.username = none) :
    UsernameInvariant (storage.afterRegister caller profile nextCount) := by
  intro username address
  have hprofile : getProfile (storage.afterRegister caller profile nextCount) address =
      if address = caller then some profile else getProfile storage address := by
    simp [getProfile]
  have husername : getCreatorFromUsername (storage.afterRegister caller profile nextCount) username =
      if username = profile.username then some caller
      else getCreatorFromUsername storage username := by
    simp [getCreatorFromUsername]
  rw [hprofile, husername]
  by_cases hname : username = profile.username
  · rw [if_pos hname]
    by_cases haddress : address = caller
    · rw [if_pos haddress]
      exact ⟨fun _ ↦ ⟨profile, rfl, hname.symm⟩, fun _ ↦ by rw [haddress]⟩
    · rw [if_neg haddress, ← h username address, hname, username_free]
      exact ⟨fun heq ↦ absurd (Option.some.inj heq).symm haddress, fun heq ↦ (by cases heq)⟩
  · rw [if_neg hname]
    by_cases haddress : address = caller
    · rw [if_pos haddress, h username address, haddress, unregistered]
      constructor
      · rintro ⟨_, hnone, _⟩
        cases hnone
      · rintro ⟨other, hother, heq⟩
        obtain rfl : profile = other := Option.some.inj hother
        exact absurd heq.symm hname
    · rw [if_neg haddress]
      exact h username address

theorem afterUpdateProfile (h : UsernameInvariant storage) {caller : Address}
    {profile : CreatorProfile Symbol} {displayName bio : HostString}
    (registered : getProfile storage caller = some profile) :
    UsernameInvariant (storage.afterUpdateProfile caller { profile with displayName, bio }) := by
  intro username address
  have hprofile : getProfile
      (storage.afterUpdateProfile caller { profile with displayName, bio }) address =
      if address = caller then some { profile with displayName, bio }
      else getProfile storage address := by
    simp [getProfile]
  have husername : getCreatorFromUsername
      (storage.afterUpdateProfile caller { profile with displayName, bio }) username =
      getCreatorFromUsername storage username := by
    simp [getCreatorFromUsername]
  rw [hprofile, husername, h username address]
  by_cases haddress : address = caller
  · rw [if_pos haddress, haddress, registered]
    simp
  · rw [if_neg haddress]

theorem afterUnregister (h : UsernameInvariant storage) {caller : Address}
    {profile : CreatorProfile Symbol} (registered : getProfile storage caller = some profile) :
    UsernameInvariant (storage.afterUnregister caller profile) := by
  intro username address
  have hprofile : getProfile (storage.afterUnregister caller profile) address =
      if address = caller then none else getProfile storage address := by
    simp [getProfile]
  have husername : getCreatorFromUsername (storage.afterUnregister caller profile) username =
      if username = profile.username then none else getCreatorFromUsername storage username := by
    simp [getCreatorFromUsername]
  have hcaller : getCreatorFromUsername storage profile.username = some caller :=
    (h _ _).mpr ⟨profile, registered, rfl⟩
  rw [hprofile, husername]
  by_cases haddress : address = caller
  · rw [if_pos haddress]
    by_cases hname : username = profile.username
    · rw [if_pos hname]
      simp
    · rw [if_neg hname, h username address, haddress, registered]
      constructor
      · rintro ⟨other, hother, heq⟩
        obtain rfl : profile = other := Option.some.inj hother
        exact absurd heq.symm hname
      · rintro ⟨_, hnone, _⟩
        cases hnone
  · rw [if_neg haddress, ← h username address]
    by_cases hname : username = profile.username
    · rw [if_pos hname, hname, hcaller]
      exact ⟨fun heq ↦ (by cases heq), fun heq ↦ absurd (Option.some.inj heq).symm haddress⟩
    · rw [if_neg hname]

theorem accepts (h : Accepts env state call receipt state')
    (hinv : UsernameInvariant state.storage) : UsernameInvariant state'.storage := by
  cases h with
  | init =>
    exact hinv.congr (fun _ ↦ by simp [getProfile, Storage.afterInit])
      (fun _ ↦ by simp [getCreatorFromUsername, Storage.afterInit])
  | @configure call change =>
    exact hinv.congr
      (fun _ ↦ Storage.getProfile_setInstance _ change.isConfig _ _)
      (fun _ ↦ Storage.getCreatorFromUsername_setInstance _ change.isConfig _ _)
  | register _ _ _ _ unregistered username_free =>
    exact hinv.afterRegister unregistered username_free
  | updateProfile _ _ _ _ registered => exact hinv.afterUpdateProfile registered
  | unregister _ _ registered => exact hinv.afterUnregister registered
  | tip => exact hinv.congr (fun _ ↦ rfl) (fun _ ↦ rfl)
  | withdraw =>
    exact hinv.congr (fun _ ↦ by simp [getProfile]) (fun _ ↦ by simp [getCreatorFromUsername])

theorem of_reachable (h : ReachableState host state) : UsernameInvariant state.storage :=
  h.storage_invariant empty fun _ _ _ _ _ _ hinv haccepts ↦ accepts haccepts hinv

end UsernameInvariant

omit [DecidableEq Symbol] in
/-- An account is registered exactly while its tip counter is stored. -/
theorem Account.Step.tipCount_stored {env : Env host} {feeBps : U32} {owner : Address}
    {account account' : Account Address Symbol} {call : Call Address Symbol}
    {receipt : Receipt Address Symbol} (h : Account.Step env feeBps owner account call receipt account')
    (hinv : account.profile ≠ none ↔ account.tipCount ≠ none) :
    account'.profile ≠ none ↔ account'.tipCount ≠ none := by
  cases h with
  | opened => simp [Account.opened]
  | edited _ registered => simpa [Account.edited, registered] using hinv
  | closed => simp [Account.closed]
  | credited registered => simpa [Account.credited] using registered
  | debited => simpa using hinv
  | other => exact hinv

theorem isCreator_iff_tipCount_stored {state : State Address Symbol World} {owner : Address}
    (h : ReachableState host state) :
    isCreator state.storage owner = true ↔
      state.storage.persistentTier.has (.tipCount owner) = true := by
  have hinv : (state.storage.account owner).profile ≠ none ↔
      (state.storage.account owner).tipCount ≠ none :=
    h.account_invariant (P := fun account ↦ account.profile ≠ none ↔ account.tipCount ≠ none)
      (by simp [Account.empty]) (fun _ _ _ _ _ _ _ hinv hstep ↦ hstep.tipCount_stored hinv)
  rw [isCreator_iff, hinv]
  exact Option.isSome_iff_ne_none.symm

/-- Between registered addresses and taken usernames the two maps are inverse to each other, and
the views by username agree with them. -/
structure RegistryBijection (storage : Storage Address Symbol) : Prop where
  username_iff : ∀ username address, getCreatorFromUsername storage username = some address ↔
    ∃ profile, getProfile storage address = some profile ∧ profile.username = username
  username_unique : ∀ address other profile profile',
    getProfile storage address = some profile → getProfile storage other = some profile' →
      profile.username = profile'.username → address = other
  address_unique : ∀ address username username',
    getCreatorFromUsername storage username = some address →
      getCreatorFromUsername storage username' = some address → username = username'
  profile_iff_taken : ∀ username,
    (∃ profile, getProfileByUsername storage username = some profile) ↔
      isUsernameTaken storage username = true
  profile_by_username : ∀ username profile,
    getProfileByUsername storage username = some profile →
      profile.username = username ∧ ∃ address,
        getCreatorFromUsername storage username = some address ∧
          getProfile storage address = some profile
  registered_iff_counted : ∀ address, (∃ profile, getProfile storage address = some profile) ↔
    storage.persistentTier.has (.tipCount address) = true

namespace UsernameInvariant

variable {storage : Storage Address Symbol}

omit [DecidableEq Symbol] in
theorem username_unique (h : UsernameInvariant storage) {address other : Address}
    {profile profile' : CreatorProfile Symbol} (hprofile : getProfile storage address = some profile)
    (hprofile' : getProfile storage other = some profile')
    (heq : profile.username = profile'.username) : address = other := by
  have haddress := (h profile.username address).mpr ⟨profile, hprofile, rfl⟩
  have hother := (h profile.username other).mpr ⟨profile', hprofile', heq.symm⟩
  exact Option.some.inj (haddress.symm.trans hother)

omit [DecidableEq Symbol] in
theorem address_unique (h : UsernameInvariant storage) {address : Address}
    {username username' : Symbol} (husername : getCreatorFromUsername storage username = some address)
    (husername' : getCreatorFromUsername storage username' = some address) :
    username = username' := by
  obtain ⟨profile, hprofile, rfl⟩ := (h username address).mp husername
  obtain ⟨profile', hprofile', rfl⟩ := (h username' address).mp husername'
  rw [Option.some.inj (hprofile.symm.trans hprofile')]

omit [DecidableEq Symbol] in
theorem getProfileByUsername_eq_some_iff (h : UsernameInvariant storage) {username : Symbol}
    {profile : CreatorProfile Symbol} :
    getProfileByUsername storage username = some profile ↔
      ∃ address, getCreatorFromUsername storage username = some address ∧
        getProfile storage address = some profile ∧ profile.username = username := by
  rw [getProfileByUsername_eq_bind, Option.bind_eq_some_iff]
  constructor
  · rintro ⟨address, haddress, hprofile⟩
    obtain ⟨owned, howned, hname⟩ := (h username address).mp haddress
    obtain rfl : profile = owned := Option.some.inj (hprofile.symm.trans howned)
    exact ⟨address, haddress, hprofile, hname⟩
  · rintro ⟨address, haddress, hprofile, -⟩
    exact ⟨address, haddress, hprofile⟩

omit [DecidableEq Symbol] in
theorem isUsernameTaken_iff (h : UsernameInvariant storage) {username : Symbol} :
    isUsernameTaken storage username = true ↔
      ∃ profile, getProfileByUsername storage username = some profile := by
  simp only [h.getProfileByUsername_eq_some_iff]
  rw [isUsernameTaken, KeyedStore.has_iff]
  constructor
  · rintro ⟨address, haddress⟩
    obtain ⟨profile, hprofile, hname⟩ := (h username address).mp haddress
    exact ⟨profile, address, haddress, hprofile, hname⟩
  · rintro ⟨_, address, haddress, -, -⟩
    exact ⟨address, haddress⟩

end UsernameInvariant

theorem registryBijection_of_reachable {state : State Address Symbol World}
    (h : ReachableState host state) : RegistryBijection state.storage := by
  have hinv := UsernameInvariant.of_reachable h
  exact
    { username_iff := hinv
      username_unique := fun _ _ _ _ ↦ hinv.username_unique
      address_unique := fun _ _ _ ↦ hinv.address_unique
      profile_iff_taken := fun _ ↦ hinv.isUsernameTaken_iff.symm
      profile_by_username := fun username profile hprofile ↦ by
        obtain ⟨address, haddress, howned, hname⟩ :=
          hinv.getProfileByUsername_eq_some_iff.mp hprofile
        exact ⟨hname, address, haddress, howned⟩
      registered_iff_counted := fun address ↦ by
        rw [← isCreator_iff_tipCount_stored h, isCreator, KeyedStore.has_iff]
        rfl }

/-- No accepted profile update changes a username or a registration time, whoever makes it. -/
theorem updateProfile_keeps_identity {env : Env host} {state state' : State Address Symbol World}
    {caller : Address} {displayName bio : HostString} {receipt : Receipt Address Symbol}
    (h : Accepts env state (.updateProfile caller displayName bio) receipt state')
    (address : Address) :
    (getProfile state'.storage address).map
        (fun profile ↦ (profile.username, profile.registeredAt)) =
      (getProfile state.storage address).map
        (fun profile ↦ (profile.username, profile.registeredAt)) := by
  have hstep := h.accountStep address
  rw [← Storage.account_profile, ← Storage.account_profile]
  generalize state'.storage.account address = account' at hstep
  cases hstep with
  | edited _ registered =>
    rw [Storage.account_profile] at registered
    simp [Account.edited, registered]
  | other => rfl

/-- The username registry is a bijection in every reachable state, and profile updates never change
what identifies a profile. -/
theorem username_registry {state : State Address Symbol World} (h : ReachableState host state) :
    RegistryBijection state.storage ∧
      ∀ (env : Env host) caller displayName bio receipt state',
        Step host state (.accepted env (.updateProfile caller displayName bio) receipt) state' →
          ∀ address, (getProfile state'.storage address).map
              (fun profile ↦ (profile.username, profile.registeredAt)) =
            (getProfile state.storage address).map
              (fun profile ↦ (profile.username, profile.registeredAt)) :=
  ⟨registryBijection_of_reachable h, fun _ _ _ _ _ _ hstep address ↦
    updateProfile_keeps_identity hstep.accepts address⟩

/-- A name released by one creator and taken by another. -/
theorem username_registry_after_release :
    getCreatorFromUsername (replay marketStart [marketInit (u32 500), marketRegister 3 30,
        marketUnregister 3, marketRegister 4 30]).2.storage 30 = some 4 ∧
      RegistryBijection (replay marketStart [marketInit (u32 500), marketRegister 3 30,
        marketUnregister 3, marketRegister 4 30]).2.storage :=
  ⟨by decide, (username_registry (.of_deployed (run_replay _ _))).1⟩

end StellarTip
