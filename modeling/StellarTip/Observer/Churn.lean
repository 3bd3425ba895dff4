import StellarTip.Account.Growth
import StellarTip.Observer.LogLanguage

/-!
# The caps do not bound the history

The caps bound what registered creators have at one time. An unregistration makes room under both of
them and keeps the tip records, so creators who come and go one after another leave as many records
as there are creators, with both caps at one and at most one creator registered at a time.
-/

namespace StellarTip

open Foundation TipContract

variable {Address Symbol World : Type} [LinearOrder Address] [DecidableEq Symbol]

section Records

variable {host : Host Address World} {start stop state state' : State Address Symbol World}
  {label : Label host Symbol} {labels : List (Label host Symbol)} {sender creator token : Address}
  {amount fee : I128} {index : U64}

/-- A record is overwritten at most. -/
theorem Step.getTip_ne_none (h : Step host state label state')
    (hstored : getTip state.storage creator index ≠ none) :
    getTip state'.storage creator index ≠ none := by
  rcases h.accepts_or_storage_eq with ⟨env, call, receipt, -, haccepts⟩ | ⟨-, heq⟩
  · by_cases htip : ∃ sender token amount message, call = .tip sender creator token amount message
    · obtain ⟨sender, token, amount, message, rfl⟩ := htip
      obtain ⟨-, -, -, hwritten⟩ := haccepts.tip_written
      rw [hwritten index]
      split
      · exact Option.some_ne_none _
      · exact hstored
    · simp only [not_exists] at htip
      rw [← Storage.account_tips, ((haccepts.accountStep creator).count_le_and_tips_eq htip).2]
      exact hstored
  · rwa [heq]

theorem Step.record_of_tipSent (h : Step host state label state')
    (hevent : .tipSent sender creator token amount fee index ∈ label.events) :
    getTip state'.storage creator index ≠ none := by
  rcases h.accepts_or_storage_eq with ⟨env, call, receipt, rfl, haccepts⟩ | ⟨hnone, -⟩
  · cases haccepts with
    | tip =>
      cases List.mem_singleton.mp hevent
      simp [getTip]
    | configure setter => cases call <;> cases setter <;> cases List.mem_singleton.mp hevent
    | _ => cases List.mem_singleton.mp hevent
  · rw [hnone] at hevent
    cases hevent

/-- Every `TIP` event of a run has left its record. -/
theorem record_of_run (run : Run (Step host) start labels stop)
    (hevent : .tipSent sender creator token amount fee index ∈ eventLog labels) :
    getTip stop.storage creator index ≠ none := by
  induction run with
  | nil => cases hevent
  | snoc init last ih =>
    rw [eventLog, List.flatMap_append, List.flatMap_singleton, List.mem_append] at hevent
    rcases hevent with hbefore | hnow
    · exact last.getTip_ne_none (ih hbefore)
    · exact last.record_of_tipSent hnow

end Records

variable {contract zeroAccount : Address} {initial : Limits} {books books' : Books Address Symbol}
  {log : List (Event Address Symbol)} {sender creator token : Address} {username : Symbol}
  {tips : ℕ} {credit : ℤ}

/-- A creator registers, gets one unit of a token, withdraws it and unregisters. -/
def visit (sender token : Address) (username : Symbol) (creator : Address) :
    List (Event Address Symbol) :=
  [.creatorRegistered creator username 0, .tipSent sender creator token (i128 1) 0 0,
    .withdraw creator token (i128 1), .creatorUnregistered creator]

omit [LinearOrder Address] [DecidableEq Symbol] in
theorem account_of_mem_visit {event : Event Address Symbol}
    (h : event ∈ visit sender token username creator) : event.account = some creator := by
  simp only [visit, List.mem_cons, List.not_mem_nil, or_false] at h
  rcases h with rfl | rfl | rfl | rfl <;> rfl

/-- Open, without a fee, with both caps at one, and without a creator or any credit. -/
structure Books.Idle (books : Books Address Symbol) : Prop where
  isOpen : books.isOpen = true
  feeBps : books.feeBps = 0
  limits : books.limits = ⟨1, 1, 0⟩
  creators : books.creators = 0
  unregistered : ∀ address, books.index.username address = none
  free : ∀ name, books.holder name = none
  credit : ∀ owner other, books.index.credit owner other = 0

/-- As `Books.Idle`, except for one creator with some tips and a credit in one token. -/
structure Books.Hosts (books : Books Address Symbol) (creator token : Address) (username : Symbol)
    (tips : ℕ) (credit : ℤ) : Prop where
  isOpen : books.isOpen = true
  feeBps : books.feeBps = 0
  limits : books.limits = ⟨1, 1, 0⟩
  creators : books.creators = 1
  username_eq : ∀ address,
    books.index.username address = if creator = address then some username else none
  holder_eq : ∀ name, books.holder name = if name = username then some creator else none
  tipCount : books.index.tipCount creator = tips
  credit_eq : ∀ owner other,
    books.index.credit owner other = if creator = owner ∧ token = other then credit else 0

namespace Books

theorem Hosts.username_self (h : books.Hosts creator token username tips credit) :
    books.index.username creator = some username := by
  rw [h.username_eq, if_pos rfl]

theorem Hosts.credit_self (h : books.Hosts creator token username tips credit) :
    books.index.credit creator token = credit := by
  rw [h.credit_eq, if_pos ⟨rfl, rfl⟩]

theorem Idle.register (token : Address) (username : Symbol) (hcreator : creator ≠ contract)
    (h : books.Idle) :
    ∃ books', books.check contract zeroAccount initial (.creatorRegistered creator username 0) =
      some books' ∧ books'.Hosts creator token username 0 0 := by
  refine ⟨_, check_eq_some_iff.mpr ⟨hcreator, decide_eq_true ?_, rfl⟩, ?_⟩
  · refine ⟨h.isOpen, h.unregistered creator, h.free username, fun _ ↦ ?_, ?_⟩
    · rw [h.creators, h.limits]
      decide
    · rw [h.creators]
      decide
  · exact
      { isOpen := h.isOpen
        feeBps := h.feeBps
        limits := h.limits
        creators := congrArg (· + 1) h.creators
        username_eq := fun address ↦ by simp [apply, Index.apply, h.unregistered]
        holder_eq := fun name ↦ by simp [apply, h.free]
        tipCount := by simp [apply, Index.apply]
        credit_eq := fun owner other ↦ by simp [apply, Event.credited, Event.debited, h.credit] }

theorem Hosts.tip (hsender : sender ≠ contract) (h : books.Hosts creator token username 0 0) :
    ∃ books', books.check contract zeroAccount initial
      (.tipSent sender creator token (i128 1) 0 0) = some books' ∧
      books'.Hosts creator token username 1 1 := by
  have hamount : (i128 1).val = 1 := rfl
  refine ⟨_, check_eq_some_iff.mpr ⟨hsender, decide_eq_true ?_, rfl⟩, ?_⟩
  · refine ⟨h.isOpen, ?_, by decide, ?_, fun _ ↦ ?_, ?_, by decide, ?_, ?_, ?_⟩
    · rw [h.username_self]
      exact Option.some_ne_none username
    · rw [h.limits]
      decide
    · rw [h.limits]
      decide
    · rw [h.tipCount]
      rfl
    · rw [h.feeBps]
      decide
    · rw [h.feeBps]
      decide
    · rw [h.credit_self]
      decide
  · exact
      { isOpen := h.isOpen
        feeBps := h.feeBps
        limits := h.limits
        creators := h.creators
        username_eq := h.username_eq
        holder_eq := h.holder_eq
        tipCount := by simp [apply, Index.apply, h.tipCount]
        credit_eq := fun owner other ↦ by
          simp [apply, Event.credited, Event.debited, h.credit_eq, hamount] }

theorem Hosts.withdraw (hcreator : creator ≠ contract)
    (h : books.Hosts creator token username 1 1) :
    ∃ books', books.check contract zeroAccount initial (.withdraw creator token (i128 1)) =
      some books' ∧ books'.Hosts creator token username 1 0 := by
  have hamount : (i128 1).val = 1 := rfl
  refine ⟨_, check_eq_some_iff.mpr ⟨hcreator, decide_eq_true ?_, rfl⟩, ?_⟩
  · refine ⟨h.isOpen, ?_, by decide, ?_⟩
    · rw [h.username_self]
      exact Option.some_ne_none username
    · rw [h.credit_self]
      decide
  · exact
      { isOpen := h.isOpen
        feeBps := h.feeBps
        limits := h.limits
        creators := h.creators
        username_eq := h.username_eq
        holder_eq := h.holder_eq
        tipCount := h.tipCount
        credit_eq := fun owner other ↦ by
          by_cases hpaid : creator = owner ∧ token = other <;>
            simp [apply, Event.credited, Event.debited, h.credit_eq, hamount, hpaid] }

theorem Hosts.unregister (hcreator : creator ≠ contract)
    (h : books.Hosts creator token username tips 0) :
    ∃ books', books.check contract zeroAccount initial (.creatorUnregistered creator) =
      some books' ∧ books'.Idle := by
  have hcredit (owner other : Address) : books.index.credit owner other = 0 := by
    rw [h.credit_eq, ite_self]
  refine ⟨_, check_eq_some_iff.mpr ⟨hcreator, decide_eq_true ?_, rfl⟩, ?_⟩
  · refine ⟨h.isOpen, ?_, fun other _ ↦ (hcredit creator other).le⟩
    rw [h.username_self]
    exact Option.some_ne_none username
  · exact
      { isOpen := h.isOpen
        feeBps := h.feeBps
        limits := h.limits
        creators := congrArg (· - 1) h.creators
        unregistered := fun address ↦ by
          by_cases haddress : creator = address <;>
            simp [apply, Index.apply, h.username_eq, haddress]
        free := fun name ↦ by
          by_cases hname : name = username <;>
            simp [apply, h.username_self, h.holder_eq, hname, eq_comm]
        credit := fun owner other ↦ by simp [apply, Event.credited, Event.debited, hcredit] }

/-- A visit passes and leaves nothing behind in the books. -/
theorem Idle.read_visit (hsender : sender ≠ contract) (hcreator : creator ≠ contract)
    (h : books.Idle) :
    ∃ books', books.read contract zeroAccount initial (visit sender token username creator) =
      some books' ∧ books'.Idle := by
  obtain ⟨registered, hregister, hhosts⟩ := h.register token username hcreator
  obtain ⟨tipped, htip, htipped⟩ := hhosts.tip hsender
  obtain ⟨emptied, hwithdraw, hemptied⟩ := htipped.withdraw hcreator
  obtain ⟨books', hunregister, hidle⟩ := hemptied.unregister hcreator
  refine ⟨books', ?_, hidle⟩
  rw [visit, read_cons, hregister, Option.bind_some, read_cons, htip, Option.bind_some, read_cons,
    hwithdraw, Option.bind_some, read_singleton, hunregister]

end Books

/-- The creators come and go one after another. -/
theorem Books.Idle.read_visits (creators : List Address) (hsender : sender ≠ contract)
    (hcreators : contract ∉ creators) (h : books.Idle) :
    ∃ books', books.read contract zeroAccount initial
      (creators.flatMap (visit sender token username)) = some books' ∧ books'.Idle := by
  induction creators generalizing books with
  | nil => exact ⟨books, rfl, h⟩
  | cons creator rest ih =>
    obtain ⟨hcreator, hrest⟩ := not_or.mp (mt List.mem_cons.mpr hcreators)
    obtain ⟨mid, hvisit, hmid⟩ := h.read_visit hsender (Ne.symm hcreator)
    obtain ⟨books', hread, hidle⟩ := ih hrest hmid
    refine ⟨books', ?_, hidle⟩
    rw [List.flatMap_cons, Books.read_append, hvisit, Option.bind_some, hread]

/-- Events about accounts leave the limits alone and keep the creators within their cap. -/
theorem Books.limits_of_read (hlog : ∀ event ∈ log, event.account ≠ none)
    (hcap : 0 < books.limits.maxCreators) (hle : books.creators ≤ books.limits.maxCreators.val)
    (h : books.read contract zeroAccount initial log = some books') :
    books'.limits = books.limits ∧ books'.creators ≤ books.limits.maxCreators.val := by
  induction log using List.reverseRecOn generalizing books' with
  | nil =>
    cases h
    exact ⟨rfl, hle⟩
  | append_singleton log event ih =>
    rw [read_append] at h
    obtain ⟨before, hbefore, hcheck⟩ := Option.bind_eq_some_iff.mp h
    rw [read_singleton] at hcheck
    obtain ⟨-, hallows, rfl⟩ := check_eq_some_iff.mp hcheck
    obtain ⟨hlimits, hcreators⟩ :=
      ih (fun event hmem ↦ hlog event (List.mem_append_left _ hmem)) hbefore
    have haccount := hlog event (List.mem_append_right _ (List.mem_singleton_self _))
    cases event with
    | creatorRegistered caller username registeredAt =>
      obtain ⟨-, -, -, hbelow, -⟩ := of_decide_eq_true hallows
      rw [hlimits] at hbelow
      exact ⟨hlimits, hbelow hcap⟩
    | creatorUnregistered caller =>
      have hfewer : ((before.creators - 1 : ℕ) : ℤ) ≤ before.creators := by omega
      exact ⟨hlimits, hfewer.trans hcreators⟩
    | profileUpdated | tipSent | withdraw => exact ⟨hlimits, hcreators⟩
    | _ => exact absurd rfl haccount

/-- In the course of visits both caps stay at one, and there is at most one creator. -/
theorem Books.Idle.caps_of_onLog {creators : List Address}
    {state : State Address Symbol (TokenLedger Address)}
    {label : Label (ledgerHost contract zeroAccount) Symbol} (hidle : books.Idle)
    (h : OnLog contract zeroAccount initial books
      (creators.flatMap (visit sender token username)) state label) :
    getMaxCreators state.storage = 1 ∧ getMaxTipsPerCreator state.storage = 1 ∧
      (getCreatorCount state.storage).val ≤ 1 := by
  obtain ⟨beginning, mid, ⟨rest, hrest⟩, hmid, hstate⟩ := h
  have haccounts : ∀ event ∈ beginning, event.account ≠ none := by
    intro event hmem
    have hvisits := List.mem_append_left rest hmem
    rw [hrest, List.mem_flatMap] at hvisits
    obtain ⟨creator, -, hvisit⟩ := hvisits
    rw [account_of_mem_visit hvisit]
    exact Option.some_ne_none creator
  have hlimits := hidle.limits
  obtain ⟨hmid_limits, hmid_creators⟩ := Books.limits_of_read haccounts (by rw [hlimits]; decide)
    (by rw [hlimits, hidle.creators]; decide) hmid
  rw [hlimits] at hmid_limits hmid_creators
  have heq := hstate.limits.symm.trans hmid_limits
  exact ⟨congrArg Limits.maxCreators heq, congrArg Limits.maxTipsPerCreator heq,
    hstate.creators.le.trans hmid_creators⟩

variable (Symbol) in
/-- A contract whose admin has just opened it with both caps at one. -/
theorem exists_idle (contract zeroAccount : Address) {admin : Address} (hadmin : admin ≠ contract) :
    ∃ world labels start, ∃ books : Books Address Symbol,
      Run (Step (ledgerHost contract zeroAccount)) (deployed Symbol world) labels start ∧
      eventLog labels = [.init admin admin 0] ∧ Balanced books start.storage ∧ books.Idle := by
  have hcheck : (Books.opening : Books Address Symbol).read contract zeroAccount ⟨1, 1, 0⟩
      [.init admin admin 0] = some (Books.opening.apply ⟨1, 1, 0⟩ (.init admin admin 0)) := by
    rw [Books.read_singleton]
    exact Books.check_eq_some_iff.mpr
      ⟨hadmin, decide_eq_true ⟨rfl, by decide, by decide, hadmin⟩, rfl⟩
  have hdeployed : ReachableState (ledgerHost contract zeroAccount)
      (deployed Symbol ⟨fun _ _ ↦ 0, fun _ _ ↦ le_rfl⟩) := .of_deployed .nil
  obtain ⟨labels, start, run, hlog, hbalanced⟩ := run_of_read hdeployed .opening hcheck
  refine ⟨_, labels, start, _, run.unrestrict, hlog, hbalanced, ?_⟩
  constructor <;> intros <;> rfl

/-- The records of different creators are different entries. -/
theorem le_ncard_persistentKeys {storage : Storage Address Symbol} {creators : List Address}
    (hnodup : creators.Nodup) (hfinite : storage.persistentKeys.Finite)
    (hrecords : ∀ creator ∈ creators, getTip storage creator 0 ≠ none) :
    creators.length ≤ storage.persistentKeys.ncard := by
  let record (creator : Address) : DataKey Address Symbol := .tip creator 0
  have hinjective : Function.Injective record := by
    intro creator other heq
    cases heq
    rfl
  have hsubset : ↑(creators.toFinset.image record) ⊆ storage.persistentKeys := by
    intro key hkey
    obtain ⟨creator, hmem, rfl⟩ := Finset.mem_image.mp (Finset.mem_coe.mp hkey)
    exact hrecords creator (List.mem_toFinset.mp hmem)
  calc
    creators.length
    _ = creators.toFinset.card := (List.toFinset_card_of_nodup hnodup).symm
    _ = (creators.toFinset.image record).card := (Finset.card_image_of_injective _ hinjective).symm
    _ ≤ storage.persistentKeys.ncard := by
      rw [← Set.ncard_coe_finset]
      exact Set.ncard_le_ncard hsubset hfinite

/-- From an empty persistent storage, any number of creators can register under one username, take a
tip of one unit, withdraw it and unregister, one after another and with both caps at one throughout.
The contract then has no creator, and at least one persistent entry for each of them. -/
theorem history_outgrows_caps (contract zeroAccount : Address) {sender token : Address}
    {username : Symbol} {creators : List Address} (hsender : sender ≠ contract)
    (hcreators : contract ∉ creators) (hnodup : creators.Nodup) :
    ∃ start labels stop, ReachableState (ledgerHost contract zeroAccount) start ∧
      start.storage.persistentKeys = ∅ ∧
      Run (restrict (Step (ledgerHost contract zeroAccount)) fun state _ ↦
        getMaxCreators state.storage = 1 ∧ getMaxTipsPerCreator state.storage = 1 ∧
          (getCreatorCount state.storage).val ≤ 1) start labels stop ∧
      eventLog labels = creators.flatMap (visit sender token username) ∧
      getCreatorCount stop.storage = 0 ∧
      (∀ creator ∈ creators, getTip stop.storage creator 0 ≠ none) ∧
      creators.length ≤ stop.storage.persistentKeys.ncard := by
  obtain ⟨_, before, start, books, hopening, hinit, hbalanced, hidle⟩ :=
    exists_idle Symbol contract zeroAccount hsender
  obtain ⟨books', hread, hidle'⟩ : ∃ books', books.read contract zeroAccount ⟨1, 1, 0⟩
      (creators.flatMap (visit sender token username)) = some books' ∧ books'.Idle :=
    hidle.read_visits creators hsender hcreators
  obtain ⟨labels, stop, run, hlog, hbalanced'⟩ := run_of_read (.of_deployed hopening) hbalanced hread
  have hempty : start.storage.persistentKeys = ∅ := by
    obtain ⟨hfinite, hle⟩ := persistentKeys_of_run hopening
    rw [hinit, hbalanced.creators, hidle.creators] at hle
    have hzero : start.storage.persistentKeys.ncard ≤ 0 := by exact_mod_cast hle
    exact (Set.ncard_eq_zero hfinite).mp (Nat.le_zero.mp hzero)
  have hrecords : ∀ creator ∈ creators, getTip stop.storage creator 0 ≠ none := by
    intro creator hmem
    have hevent : .tipSent sender creator token (i128 1) 0 0 ∈ eventLog labels := by
      rw [hlog]
      exact List.mem_flatMap.mpr ⟨creator, hmem, by simp [visit]⟩
    exact record_of_run run.unrestrict hevent
  refine ⟨start, labels, stop, .of_deployed hopening, hempty, ?_, hlog, ?_, hrecords, ?_⟩
  · exact run.mono fun state label _ ⟨hstep, honLog⟩ ↦ ⟨hstep, hidle.caps_of_onLog honLog⟩
  · have hcount := hbalanced'.creators
    rw [hidle'.creators] at hcount
    exact BoundedInt.ext hcount
  · have hall := hopening.append run.unrestrict
    exact le_ncard_persistentKeys hnodup (persistentKeys_of_run hall).1 hrecords

theorem history_outgrows_caps_for_two_creators :
    ∃ start labels stop, ReachableState (ledgerHost 0 9) start ∧
      start.storage.persistentKeys = ∅ ∧
      Run (restrict (Step (ledgerHost 0 9)) fun state _ ↦
        getMaxCreators state.storage = 1 ∧ getMaxTipsPerCreator state.storage = 1 ∧
          (getCreatorCount state.storage).val ≤ 1) start labels stop ∧
      eventLog labels = [3, 4].flatMap (visit 5 7 30) ∧
      getCreatorCount stop.storage = 0 ∧
      (∀ creator ∈ [3, 4], getTip stop.storage creator 0 ≠ none) ∧
      2 ≤ stop.storage.persistentKeys.ncard :=
  history_outgrows_caps 0 9 (by decide) (by decide) (by decide)

end StellarTip
