import StellarTip.Contract.TokenLedger
import StellarTip.Lifetime.Trail

/-!
# The lifetime policy of the contract

Which entries an accepted call needs to be live, and which it extends. A call goes through on the
ledger exactly when it goes through in the plain model and everything it needs is live, and its effect
on all lifetimes is then determined. Every persistent entry that a call writes is among those that it
extends.
-/

namespace StellarTip

open Foundation TipContract

variable {Address Symbol World : Type} [LinearOrder Address] [DecidableEq Symbol]
  {host : Host Address World}

namespace Storage

/-- The lifetimes after some entries were extended, and those of them that were missing created. -/
def extendedLifetimes (storage : Storage Address Symbol) (settings : LedgerSettings) (now : ℕ)
    (renewed : List (LedgerEntry Address Symbol)) (lifetimes : Lifetimes Address Symbol) :
    Lifetimes Address Symbol := fun entry ↦
  if entry ∈ renewed then
    settings.extended now
      (if storage.holds entry = true then lifetimes entry else settings.birth now)
  else lifetimes entry

/-- The effect of accesses on a ledger: `needed` entries have to be live where they are held, and the
`renewed` ones are extended. -/
def Effect (storage : Storage Address Symbol) (settings : LedgerSettings) (now : ℕ)
    (accesses : List (Access Address Symbol)) (needed renewed : List (LedgerEntry Address Symbol)) :
    Prop :=
  ∀ lifetimes lifetimes' : Lifetimes Address Symbol,
    accesses.foldlM (settings.audit now) lifetimes = some lifetimes' ↔
      (∀ entry ∈ needed, storage.holds entry = true → now ≤ lifetimes entry) ∧
        lifetimes' = storage.extendedLifetimes settings now renewed lifetimes

variable {storage : Storage Address Symbol} {settings : LedgerSettings} {now : ℕ}
  {first second : List (Access Address Symbol)}
  {needed needed' renewed renewed' : List (LedgerEntry Address Symbol)}
  {lifetimes : Lifetimes Address Symbol} {entry : LedgerEntry Address Symbol}
  {key : DataKey Address Symbol}

theorem extendedLifetimes_of_notMem (h : entry ∉ renewed) :
    storage.extendedLifetimes settings now renewed lifetimes entry = lifetimes entry := if_neg h

/-- Disjoint extensions in a row are one extension. -/
theorem extendedLifetimes_append (hdisjoint : ∀ entry ∈ renewed, entry ∉ renewed') :
    storage.extendedLifetimes settings now renewed'
        (storage.extendedLifetimes settings now renewed lifetimes) =
      storage.extendedLifetimes settings now (renewed ++ renewed') lifetimes := by
  funext entry
  by_cases hfirst : entry ∈ renewed
  · rw [extendedLifetimes_of_notMem (hdisjoint entry hfirst)]
    simp [extendedLifetimes, hfirst]
  · simp [extendedLifetimes, hfirst]

namespace Effect

theorem congr (h : Effect storage settings now first needed renewed)
    (hneeded : ∀ entry, entry ∈ needed ↔ entry ∈ needed')
    (hrenewed : ∀ entry, entry ∈ renewed ↔ entry ∈ renewed') :
    Effect storage settings now first needed' renewed' := by
  intro lifetimes lifetimes'
  have hsame : storage.extendedLifetimes settings now renewed lifetimes =
      storage.extendedLifetimes settings now renewed' lifetimes := by
    funext entry
    simp only [extendedLifetimes, hrenewed]
  simp only [h lifetimes lifetimes', hneeded, hsame]

theorem nil : Effect storage settings now [] [] [] := by
  intro lifetimes lifetimes'
  have hnothing : storage.extendedLifetimes settings now [] lifetimes = lifetimes :=
    funext fun _ ↦ extendedLifetimes_of_notMem List.not_mem_nil
  rw [hnothing, List.foldlM_nil]
  exact ⟨fun h ↦ ⟨fun _ hentry ↦ (List.not_mem_nil hentry).elim, (Option.some.inj h).symm⟩,
    fun h ↦ congrArg some h.2.symm⟩

/-- Accesses in a row, where the first ones extend nothing that the second ones are about. -/
theorem append (hfirst : Effect storage settings now first needed renewed)
    (hsecond : Effect storage settings now second needed' renewed')
    (hdisjoint : ∀ entry ∈ renewed, entry ∉ needed' ∧ entry ∉ renewed') :
    Effect storage settings now (first ++ second) (needed ++ needed') (renewed ++ renewed') := by
  intro lifetimes lifetimes'
  have hfold : (first ++ second).foldlM (settings.audit now) lifetimes = some lifetimes' ↔
      ∃ mid, first.foldlM (settings.audit now) lifetimes = some mid ∧
        second.foldlM (settings.audit now) mid = some lifetimes' := by
    rw [List.foldlM_append]
    exact Option.bind_eq_some_iff
  have hsame : ∀ entry ∈ needed',
      storage.extendedLifetimes settings now renewed lifetimes entry = lifetimes entry :=
    fun entry hentry ↦
      extendedLifetimes_of_notMem fun hrenewed ↦ (hdisjoint entry hrenewed).1 hentry
  rw [hfold, ← extendedLifetimes_append fun entry hentry ↦ (hdisjoint entry hentry).2]
  constructor
  · rintro ⟨mid, hmid, hlast⟩
    obtain ⟨hlive, rfl⟩ := (hfirst lifetimes mid).mp hmid
    obtain ⟨hlive', rfl⟩ := (hsecond _ lifetimes').mp hlast
    refine ⟨fun entry hentry hheld ↦ ?_, rfl⟩
    rcases List.mem_append.mp hentry with hentry | hentry
    · exact hlive entry hentry hheld
    · exact hsame entry hentry ▸ hlive' entry hentry hheld
  · rintro ⟨hlive, rfl⟩
    refine ⟨_, (hfirst lifetimes _).mpr ⟨fun entry hentry ↦ ?_, rfl⟩,
      (hsecond _ _).mpr ⟨fun entry hentry hheld ↦ ?_, rfl⟩⟩
    · exact hlive entry (List.mem_append_left _ hentry)
    · rw [hsame entry hentry]
      exact hlive entry (List.mem_append_right _ hentry) hheld

theorem of_live (hheld : storage.holds entry = true)
    (hfold : ∀ lifetimes, first.foldlM (settings.audit now) lifetimes =
      if now ≤ lifetimes entry then some (storage.extendedLifetimes settings now renewed lifetimes)
      else none) :
    Effect storage settings now first [entry] renewed := by
  intro lifetimes lifetimes'
  rw [hfold lifetimes]
  simp only [List.mem_singleton, forall_eq, hheld, forall_const]
  split
  · rename_i hlive
    exact ⟨fun h ↦ ⟨hlive, (Option.some.inj h).symm⟩, fun h ↦ congrArg some h.2.symm⟩
  · rename_i harchived
    exact ⟨fun h ↦ (Option.some_ne_none _ h.symm).elim, fun h ↦ (harchived h.1).elim⟩

theorem of_missing (hmissing : storage.holds entry = false)
    (hfold : ∀ lifetimes, first.foldlM (settings.audit now) lifetimes =
      some (storage.extendedLifetimes settings now renewed lifetimes)) :
    Effect storage settings now first [entry] renewed := by
  intro lifetimes lifetimes'
  rw [hfold lifetimes]
  simp only [List.mem_singleton, forall_eq, hmissing, Bool.false_eq_true, false_implies, true_and]
  exact ⟨fun h ↦ (Option.some.inj h).symm, fun h ↦ congrArg some h.symm⟩

theorem extendedLifetimes_singleton :
    storage.extendedLifetimes settings now [entry] lifetimes =
      Function.update lifetimes entry (settings.extended now
        (if storage.holds entry = true then lifetimes entry else settings.birth now)) := by
  funext other
  by_cases hother : other = entry
  · subst hother
    simp [extendedLifetimes]
  · simp [extendedLifetimes, hother]

theorem touch (hheld : storage.holds entry = true) :
    Effect storage settings now [.touch entry] [entry] [] := by
  refine of_live hheld fun lifetimes ↦ ?_
  have hnothing : storage.extendedLifetimes settings now [] lifetimes = lifetimes :=
    funext fun _ ↦ extendedLifetimes_of_notMem List.not_mem_nil
  rw [hnothing, List.foldlM_cons, LedgerSettings.audit_touch]
  split <;> rfl

theorem extend (hheld : storage.holds entry = true) :
    Effect storage settings now [.extend entry] [entry] [entry] := by
  refine of_live hheld fun lifetimes ↦ ?_
  rw [extendedLifetimes_singleton, if_pos hheld, List.foldlM_cons, LedgerSettings.audit_extend]
  split <;> rfl

/-- Extending twice in one call is extending once. -/
theorem extend_extend (hheld : storage.holds entry = true) :
    Effect storage settings now [.extend entry, .extend entry] [entry] [entry] := by
  refine of_live hheld fun lifetimes ↦ ?_
  rw [extendedLifetimes_singleton, if_pos hheld, List.foldlM_cons, LedgerSettings.audit_extend]
  split
  · rename_i hlive
    change [Access.extend entry].foldlM (settings.audit now) (Function.update lifetimes entry
      (settings.extended now (lifetimes entry))) = _
    rw [List.foldlM_cons, LedgerSettings.audit_extend, Function.update_self,
      if_pos (hlive.trans LedgerSettings.le_extended), LedgerSettings.extended_extended,
      Function.update_idem]
    rfl
  · rfl

theorem touched : Effect storage settings now (storage.touched key) [.data key] [] := by
  unfold Storage.touched
  split
  · rename_i hheld
    exact touch hheld
  · rename_i hmissing
    refine of_missing (Bool.eq_false_iff.mpr hmissing) fun lifetimes ↦ ?_
    exact congrArg some (funext fun _ ↦ (extendedLifetimes_of_notMem List.not_mem_nil).symm)

theorem renewal : Effect storage settings now (storage.renewal key) [.data key] [.data key] := by
  cases hheld : storage.holds (.data key) with
  | true =>
    have hwritten : storage.written key = .touch (.data key) := if_pos hheld
    rw [Storage.renewal, hwritten]
    refine (touch hheld).append (extend hheld) ?_ |>.congr ?_ ?_ <;> simp
  | false =>
    have hwritten : storage.written key = .create (.data key) :=
      if_neg (Bool.eq_false_iff.mp hheld)
    rw [Storage.renewal, hwritten]
    refine of_missing hheld fun lifetimes ↦ ?_
    have hcreated : [Access.create (.data key), .extend (.data key)].foldlM (settings.audit now)
        lifetimes = settings.audit now
          (Function.update lifetimes (.data key) (settings.birth now)) (.extend (.data key)) := by
      rw [List.foldlM_cons, LedgerSettings.audit_create]
      exact bind_pure (m := Option) _
    rw [hcreated, LedgerSettings.audit_extend, extendedLifetimes_singleton,
      if_neg (Bool.eq_false_iff.mp hheld), Function.update_self, if_pos LedgerSettings.le_birth,
      Function.update_idem]

end Effect

/-! ## Calls -/

/-- The entries that an accepted call needs, where they are on the ledger. -/
def footprint (storage : Storage Address Symbol) (call : Call Address Symbol) :
    List (LedgerEntry Address Symbol) :=
  .contractInstance ::
    match call with
    | .register caller .. => [.data (.tipCount caller)]
    | .unregister caller =>
        .data (.creatorTokens caller) :: .data (.tipCount caller) ::
          (trackedTokens storage caller).keys.map fun token ↦ .data (.balance caller token)
    | .tip _ creator token .. =>
        [.data (.balance creator token), .data (.creatorTokens creator),
          .data (.tip creator (getTipCount storage creator)), .data (.tipCount creator)]
    | .withdraw caller token _ => [.data (.balance caller token), .data (.creatorTokens caller)]
    | _ => []

/-- The entries that an accepted call extends. A withdrawal leaves the tip counter alone, and
`unregister` extends nothing but the instance. -/
def renewedBy (storage : Storage Address Symbol) (call : Call Address Symbol) :
    List (LedgerEntry Address Symbol) :=
  .contractInstance ::
    match call with
    | .register caller .. => [.data (.tipCount caller)]
    | .tip _ creator token .. =>
        [.data (.balance creator token), .data (.creatorTokens creator),
          .data (.tip creator (getTipCount storage creator)), .data (.tipCount creator)]
    | .withdraw caller token amount =>
        if amount < getBalance storage caller token then
          [.data (.balance caller token), .data (.creatorTokens caller)]
        else if token ∈ trackedTokens storage caller ∧
            ((trackedTokens storage caller).remove token).isEmpty = false then
          [.data (.creatorTokens caller)]
        else []
    | _ => []

omit [DecidableEq Symbol] in
theorem contractInstance_notMem_tail (storage : Storage Address Symbol)
    (call : Call Address Symbol) :
    ∀ entry ∈ [LedgerEntry.contractInstance],
      entry ∉ (storage.footprint call).tail ∧ entry ∉ (storage.renewedBy call).tail := by
  simp only [List.mem_singleton, forall_eq, footprint, renewedBy, List.tail_cons]
  cases call with
  | withdraw caller token amount =>
    refine ⟨by simp, ?_⟩
    dsimp only
    split_ifs <;> simp
  | _ => simp

namespace Effect

variable {caller creator token : Address}

theorem tracking : Effect storage settings now (storage.tracking creator token)
    [.data (.creatorTokens creator)] [.data (.creatorTokens creator)] := by
  unfold Storage.tracking
  split
  · rename_i hmem
    obtain ⟨tokens, hget, -⟩ := (mem_trackedTokens storage).mp hmem
    have hheld : storage.holds (.data (.creatorTokens creator)) = true :=
      KeyedStore.has_iff.mpr ⟨tokens, hget⟩
    refine (touched.append (extend hheld) ?_).congr ?_ ?_ <;> simp
  · refine (touched.append renewal ?_).congr ?_ ?_ <;> simp

theorem untracking : Effect storage settings now (storage.untracking caller token)
    [.data (.creatorTokens caller)]
    (if token ∈ trackedTokens storage caller ∧
        ((trackedTokens storage caller).remove token).isEmpty = false then
      [.data (.creatorTokens caller)] else []) := by
  unfold Storage.untracking
  by_cases hmem : token ∈ trackedTokens storage caller
  · cases hempty : ((trackedTokens storage caller).remove token).isEmpty with
    | true =>
      simp only [hmem, if_true, and_false, if_false, Bool.true_eq_false]
      refine (touched.append touched ?_).congr ?_ ?_ <;> simp
    | false =>
      simp only [hmem, if_true, and_true, if_false, Bool.false_eq_true]
      refine (touched.append renewal ?_).congr ?_ ?_ <;> simp
  · simp only [hmem, if_false, false_and]
    refine (touched.append nil ?_).congr ?_ ?_ <;> simp

theorem settling {amount : I128} (htokens : amount < getBalance storage caller token →
      storage.persistentTier.has (.creatorTokens caller) = true) :
    Effect storage settings now
      (storage.touched (.balance caller token) ++
        storage.settling caller token (amount < getBalance storage caller token))
      [.data (.balance caller token), .data (.creatorTokens caller)]
      (storage.renewedBy (.withdraw caller token amount)).tail := by
  unfold Storage.settling Storage.renewedBy
  by_cases hkept : amount < getBalance storage caller token
  · simp only [hkept, decide_true, if_true, List.tail_cons]
    have hextend : Effect storage settings now [.extend (.data (.creatorTokens caller))] _ _ :=
      extend (htokens hkept)
    refine (touched.append (renewal.append hextend ?_) ?_).congr ?_ ?_ <;> simp
  · simp only [hkept, decide_false, if_false, List.tail_cons, Bool.false_eq_true]
    refine (touched.append (touched.append untracking ?_) ?_).congr ?_ ?_ <;> simp

theorem flatMap_touched (keys : List Address) (key : Address → DataKey Address Symbol) :
    Effect storage settings now (keys.flatMap fun token ↦ storage.touched (key token))
      (keys.map fun token ↦ .data (key token)) [] := by
  induction keys with
  | nil => exact nil
  | cons token keys ih =>
    rw [List.flatMap_cons, List.map_cons]
    exact touched.append ih (by simp)

theorem clearing : Effect storage settings now
    (storage.clearing caller ++ storage.touched (.tipCount caller))
    (storage.footprint (.unregister caller)).tail [] := by
  unfold Storage.clearing Storage.footprint
  refine ((touched.append ((flatMap_touched _ _).append touched ?_) ?_).append touched ?_).congr
    ?_ ?_
  all_goals simp
  grind

theorem tipping (sender creator token : Address) (amount : I128) (message : HostString) :
    Effect storage settings now (storage.accesses (.tip sender creator token amount message))
      (storage.footprint (.tip sender creator token amount message)).tail
      (storage.renewedBy (.tip sender creator token amount message)).tail := by
  unfold Storage.accesses Storage.footprint Storage.renewedBy
  refine (touched.append ((touched.append renewal ?_).append (tracking.append
    (renewal.append renewal ?_) ?_) ?_) ?_).congr ?_ ?_
  all_goals simp

end Effect

end Storage

open Storage

variable {env : Env host} {call : Call Address Symbol} {state state' : State Address Symbol World}
  {receipt : Receipt Address Symbol} {settings : LedgerSettings} {now : ℕ}

/-- What an accepted call does to the lifetimes of the ledger entries. -/
theorem Accepts.effect (h : Accepts env state call receipt state') :
    Effect state.storage settings now (call.trail env state) (state.storage.footprint call)
      (state.storage.renewedBy call) := by
  have hinstance : state.storage.holds .contractInstance = true := rfl
  have hloaded : Effect state.storage settings now
      [.touch .contractInstance, .extend .contractInstance] [.contractInstance]
      [.contractInstance] := by
    refine ((Effect.touch hinstance).append (Effect.extend hinstance) ?_).congr ?_ ?_ <;> simp
  rw [h.trail_eq]
  have hapart := contractInstance_notMem_tail state.storage call
  cases h with
  | init => exact hloaded
  | @configure call change setter authorized admin valid =>
    cases call <;> first | exact hloaded | cases setter
  | register => exact hloaded.append Effect.renewal hapart
  | updateProfile =>
    refine ((Effect.touch hinstance).append (Effect.extend_extend hinstance) ?_).congr ?_ ?_ <;>
      simp [footprint, renewedBy]
  | unregister => exact hloaded.append Effect.clearing hapart
  | @tip sender creator token amount fee newBalance message =>
    exact hloaded.append (Effect.tipping sender creator token amount message) hapart
  | withdraw authorized ready accepted =>
    exact hloaded.append (Effect.settling fun hkept ↦
      accepted.tokens_present (accepted.lt_iff_pos.mp hkept)) hapart

/-- **The lifetime policy.** A submitted call is accepted exactly when the plain model accepts it and
its footprint is live; the entries it extends are then known, and no other lifetime changes. -/
theorem submit_eq_ok_iff_accepts {ledger ledger' : LedgerState Address Symbol World} :
    submit settings env call ledger = .ok (receipt, ledger') ↔
      Accepts env ledger.state call receipt ledger'.state ∧
        (∀ entry ∈ ledger.state.storage.footprint call,
          ledger.state.storage.holds entry = true → ledger.sequence ≤ ledger.lifetimes entry) ∧
        ledger'.lifetimes = ledger.state.storage.extendedLifetimes settings ledger.sequence
          (ledger.state.storage.renewedBy call) ledger.lifetimes ∧
        ledger'.sequence = ledger.sequence := by
  rw [submit_eq_ok_iff, invoke_eq_ok_iff]
  constructor
  · rintro ⟨haccepts, hfold, hsequence⟩
    obtain ⟨hlive, hlifetimes⟩ := (haccepts.effect _ _).mp hfold
    exact ⟨haccepts, hlive, hlifetimes, hsequence⟩
  · rintro ⟨haccepts, hlive, hlifetimes, hsequence⟩
    exact ⟨haccepts, (haccepts.effect _ _).mpr ⟨hlive, hlifetimes⟩, hsequence⟩

/-- A call of the plain model whose footprint is live goes through on the ledger. -/
theorem submit_of_live {ledger : LedgerState Address Symbol World}
    (hok : invoke env call ledger.state = .ok (receipt, state'))
    (hlive : ∀ entry ∈ ledger.state.storage.footprint call,
      ledger.state.storage.holds entry = true → ledger.sequence ≤ ledger.lifetimes entry) :
    submit settings env call ledger = .ok (receipt, ⟨state',
      ledger.state.storage.extendedLifetimes settings ledger.sequence
        (ledger.state.storage.renewedBy call) ledger.lifetimes, ledger.sequence⟩) :=
  submit_eq_ok_iff_accepts.mpr ⟨invoke_eq_ok_iff.mp hok, hlive, rfl, rfl⟩

/-- The settings under which the tests of the contract run. -/
def testSettings : LedgerSettings where
  minPersistentEntryTtl := 10
  maxEntryTtl := 1000000
  extendsAtThreshold := true
  minPersistentEntryTtl_pos := by decide
  ttlExtend_lt := by decide

abbrev MarketLedger := LedgerState ℕ ℕ (TokenLedger ℕ)

/-- The ledger after a call that goes through. -/
def MarketLedger.after (ledger : MarketLedger) (call : MarketCall) : MarketLedger where
  state := (perform call.1 call.2 ledger.state).2
  lifetimes := ledger.state.storage.extendedLifetimes testSettings ledger.sequence
    (ledger.state.storage.renewedBy call.2) ledger.lifetimes
  sequence := ledger.sequence

/-- The tipped market in the last ledger in which all its entries are live. -/
def tippedLedger : MarketLedger where
  state := tippedMarket
  lifetimes _ := 5000
  sequence := 5000

end StellarTip
