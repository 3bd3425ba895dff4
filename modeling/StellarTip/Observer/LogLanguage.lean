import StellarTip.Custody.Withdrawal
import StellarTip.Observer.Auditor

/-!
# The logs that the contract can write

Every log that passes the audit is written by a run of the contract with honest tokens: whatever the
books allow next, some call is accepted and emits exactly that event. So the audit is the whole
content of a log. No further check can be made on the events alone, and no behaviour of a token shows
in them.
-/

namespace StellarTip

open Foundation TipContract

variable {Address Symbol World : Type} [LinearOrder Address] [DecidableEq Symbol]
  {contract zeroAccount : Address} {initial : Limits} {books : Books Address Symbol}
  {event : Event Address Symbol} {log : List (Event Address Symbol)}

/-- The ledger in which a holder has been given more of a token. -/
def TokenLedger.funded (ledger : TokenLedger Address) (token holder : Address) (amount : I128)
    (hamount : 0 ≤ amount) : TokenLedger Address where
  balance other owner :=
    ledger.balance other owner + if other = token ∧ owner = holder then amount.val else 0
  balance_nonneg other owner := by
    have hbalance := ledger.balance_nonneg other owner
    have hnonneg := BoundedInt.le_def.mp hamount
    rw [I128.val_zero] at hnonneg
    split <;> omega

theorem TokenLedger.le_funded (ledger : TokenLedger Address) (token holder : Address)
    (amount : I128) (hamount : 0 ≤ amount) (owner other : Address) :
    ledger.balance other owner ≤ (ledger.funded token holder amount hamount).balance other owner := by
  have hnonneg := BoundedInt.le_def.mp hamount
  rw [I128.val_zero] at hnonneg
  simp only [TokenLedger.funded]
  split <;> omega

/-- What a run with honest tokens does next to write `event`. -/
structure Writes (contract zeroAccount : Address) (initial : Limits)
    (state : State Address Symbol (TokenLedger Address)) (event : Event Address Symbol) where
  ledger : TokenLedger Address
  env : Env (ledgerHost contract zeroAccount)
  call : Call Address Symbol
  receipt : Receipt Address Symbol
  after : State Address Symbol (TokenLedger Address)
  funded : (ledgerHost contract zeroAccount).outside state.world ledger
  accepts : Accepts env { state with world := ledger } call receipt after
  events : receipt.events = [event]
  opens : ∀ caller feeRecipient feeBps maxCreators maxTipsPerCreator minTipAmount,
    call = .init caller feeRecipient feeBps maxCreators maxTipsPerCreator minTipAmount →
      initial = ⟨maxCreators, maxTipsPerCreator, minTipAmount⟩

section Writing

variable {state : State Address Symbol (TokenLedger Address)}

/-- A sender that has just been given the amount can pay it, and the fee can be forwarded out of it. -/
theorem TokenLedger.pays_funded (ledger : TokenLedger Address) (zeroAccount token : Address)
    {sender : Address} {amount fee : I128} {optFeeRecipient : Option Address} (hsender : sender ≠ contract)
    (hpos : 0 < amount) (hle : fee.val ≤ amount.val) (hrecipient : optFeeRecipient ≠ none) :
    ∃ deposited, (ledger.funded token sender amount hpos.le).transfer token sender contract amount =
        .ok deposited ∧
      ∃ forwarded settled, FeeForwarded (ledgerHost contract zeroAccount) token optFeeRecipient fee
        deposited forwarded settled := by
  let funded := ledger.funded token sender amount hpos.le
  have hamount := BoundedInt.lt_def.mp hpos
  rw [I128.val_zero] at hamount
  have hfunds : amount.val ≤ funded.balance token sender := by
    have hbalance := ledger.balance_nonneg token sender
    simp only [funded, TokenLedger.funded, and_self, if_true]
    omega
  obtain ⟨deposited, hdeposit⟩ : ∃ deposited,
      funded.transfer token sender contract amount = .ok deposited :=
    ⟨_, dif_pos ⟨hamount.le, hfunds⟩⟩
  have hbalance : amount.val ≤ deposited.balance token contract := by
    have hnonneg := funded.balance_nonneg token contract
    rw [(TokenLedger.transfer_eq_ok_iff.mp hdeposit).2, TokenLedger.movedBalance, if_pos rfl,
      if_pos rfl, if_neg (Ne.symm hsender)]
    omega
  refine ⟨deposited, hdeposit, ?_⟩
  obtain ⟨recipient, hrecipient⟩ := Option.ne_none_iff_exists'.mp hrecipient
  rcases le_or_gt fee 0 with hfree | hcharged
  · exact ⟨_, _, .free hfree⟩
  · obtain ⟨settled, hsettled⟩ : ∃ settled,
        deposited.transfer token contract recipient fee = .ok settled :=
      (honouringToken_ledgerHost contract zeroAccount token).honoured hcharged (hle.trans hbalance)
    exact ⟨_, _, .paid hcharged hrecipient hsettled⟩

/-- A tip that the books allow is accepted once its sender has been given the amount. -/
theorem Balanced.tipAccepted (h : Balanced books state.storage)
    (hreach : ReachableState (ledgerHost contract zeroAccount) state)
    {sender creator token : Address} {amount fee : I128} {index : U64} (hsender : sender ≠ contract)
    (hallows : books.allows contract zeroAccount initial
      (.tipSent sender creator token amount fee index) = true) :
    ∃ hpos : 0 < amount, ∃ newBalance nextIndex forwarded settled,
      TipAccepted (ledgerHost contract zeroAccount) state.storage
        (state.world.funded token sender amount hpos.le) sender creator token amount fee newBalance
        nextIndex forwarded settled := by
  obtain ⟨hopen, husername, hpos, hmin, hcap, hindex, hindex_lt, hproduct, hfee, hcredit⟩ :=
    of_decide_eq_true hallows
  have hready := h.isOpen_iff.mp hopen
  have hregistered := h.username_ne_none_iff.mp husername
  have hfeeBps := (ConfigurationInvariant.of_reachable hreach).feeBps_le
  have hrecipient := feeRecipient_ne_none hreach hready
  rw [h.limits] at hmin hcap
  rw [h.feeBps_eq] at hproduct hfee
  rw [(h.indexed.accounts creator).credit, Storage.account_balance] at hcredit
  rw [(h.indexed.accounts creator).tipCount ((isCreator_iff _ _).mp hregistered),
    Storage.account_count] at hindex
  obtain ⟨hfee_nonneg, hfee_le⟩ := fee_bounds hpos hfeeBps hfee
  obtain ⟨deposited, hdeposit, forwarded, settled, hforward⟩ := state.world.pays_funded
    zeroAccount token hsender hpos hfee_le hrecipient
  have hamount : 0 < amount.val := BoundedInt.lt_def.mp hpos
  have hbalance := BoundedInt.le_def.mp (getBalance_nonneg hreach creator token)
  have hrate := (getFeePercentage state.storage).lo_le
  have hproduct_nonneg := mul_nonneg hamount.le hrate
  have hrange := amount.le_hi
  have hcount := index.lo_le
  rw [I128.val_zero] at hbalance
  refine ⟨hpos, ⟨_, by omega, hcredit⟩, ⟨index.val + 1, by omega, by omega⟩, forwarded, settled,
    { positive := hpos
      minimum := fun _ ↦ hmin
      registered := hregistered
      below_cap := fun hcapped ↦ BoundedInt.lt_def.mpr (hindex.symm.trans_lt (hcap hcapped))
      product_fits := ⟨⟨_, by omega, hproduct⟩, rfl⟩
      fee_val := hfee
      remainder_fits := ⟨⟨amount.val - fee.val, by omega, by omega⟩, rfl⟩
      recipient_set := fun _ ↦ hrecipient
      moved := ⟨deposited, hdeposit, hforward⟩
      newBalance_val := rfl
      nextIndex_val := congrArg (· + 1) hindex }⟩

/-- A call that is accepted as things stand writes its event. -/
theorem writes_of_accepts {env : Env (ledgerHost contract zeroAccount)} {call : Call Address Symbol}
    {receipt : Receipt Address Symbol} {after : State Address Symbol (TokenLedger Address)}
    (haccepts : Accepts env state call receipt after) (hevents : receipt.events = [event])
    (hopens : ∀ caller feeRecipient feeBps maxCreators maxTipsPerCreator minTipAmount,
      call = .init caller feeRecipient feeBps maxCreators maxTipsPerCreator minTipAmount →
        initial = ⟨maxCreators, maxTipsPerCreator, minTipAmount⟩) :
    Nonempty (Writes contract zeroAccount initial state event) :=
  ⟨{ ledger := state.world
     env := env
     call := call
     receipt := receipt
     after := after
     funded := fun _ ↦ le_rfl
     accepts := haccepts
     events := hevents
     opens := hopens }⟩

/-- A setter of the admin writes its event. -/
theorem writes_of_setter (call : Call Address Symbol) {change : AdminChange Address Symbol}
    (setter : call.adminChange (ledgerHost contract zeroAccount) = some change)
    (hadmin : getAdmin state.storage = some change.caller) (hvalid : change.invalid = false)
    (hcaller : change.caller ≠ contract) :
    Nonempty (Writes contract zeroAccount initial state change.event) :=
  have hauthorized : (signedBy (ledgerHost contract zeroAccount) change.caller 0).authorized
      change.caller = true := decide_eq_true ⟨rfl, hcaller⟩
  writes_of_accepts (.configure setter hauthorized hadmin hvalid) rfl
    fun _ _ _ _ _ _ heq ↦ by rw [heq] at setter; cases setter

/-- Every event that the books allow can be written next. -/
theorem Balanced.writes (h : Balanced books state.storage)
    (hreach : ReachableState (ledgerHost contract zeroAccount) state)
    (hsubject : event.subject ≠ contract)
    (hallows : books.allows contract zeroAccount initial event = true) :
    Nonempty (Writes contract zeroAccount initial state event) := by
  have hauthorized (timestamp : U64) : (signedBy (ledgerHost contract zeroAccount) event.subject
      timestamp).authorized event.subject = true := decide_eq_true ⟨rfl, hsubject⟩
  have hadmin := h.indexed.admin
  cases event with
  | init caller feeRecipient feeBps =>
    obtain ⟨hfresh, hfeeBps, hmin, hrecipient⟩ := of_decide_eq_true hallows
    have haccepts : Accepts (signedBy (ledgerHost contract zeroAccount) caller 0) state
        (.init caller feeRecipient feeBps initial.maxCreators initial.maxTipsPerCreator
          initial.minTipAmount) _ _ :=
      .init (hauthorized 0) (hadmin.symm.trans hfresh) hfeeBps hmin hrecipient
    exact writes_of_accepts haccepts rfl fun _ _ _ _ _ _ heq ↦ by cases heq; rfl
  | adminChanged caller newAdmin =>
    obtain ⟨hcaller, hself, hzero⟩ := of_decide_eq_true hallows
    exact writes_of_setter (.setAdmin caller newAdmin) rfl (hadmin.symm.trans hcaller)
      (decide_eq_false (not_or.mpr ⟨hself, hzero⟩)) hsubject
  | paused caller =>
    exact writes_of_setter (.pause caller) rfl
      (hadmin.symm.trans (of_decide_eq_true hallows)) rfl hsubject
  | unpaused caller =>
    exact writes_of_setter (.unpause caller) rfl
      (hadmin.symm.trans (of_decide_eq_true hallows)) rfl hsubject
  | maxCreatorsChanged caller maxCreators =>
    exact writes_of_setter (.setMaxCreators caller maxCreators) rfl
      (hadmin.symm.trans (of_decide_eq_true hallows)) rfl hsubject
  | maxTipsChanged caller maxTips =>
    exact writes_of_setter (.setMaxTipsPerCreator caller maxTips) rfl
      (hadmin.symm.trans (of_decide_eq_true hallows)) rfl hsubject
  | feeChanged caller feeBps =>
    obtain ⟨hcaller, hle⟩ := of_decide_eq_true hallows
    exact writes_of_setter (.setFeePercentage caller feeBps) rfl (hadmin.symm.trans hcaller)
      (decide_eq_false (not_lt.mpr hle)) hsubject
  | feeRecipientChanged caller feeRecipient =>
    obtain ⟨hcaller, hne⟩ := of_decide_eq_true hallows
    exact writes_of_setter (.setFeeRecipient caller feeRecipient) rfl
      (hadmin.symm.trans hcaller) (decide_eq_false hne) hsubject
  | minTipChanged caller minTipAmount =>
    obtain ⟨hcaller, hnonneg⟩ := of_decide_eq_true hallows
    exact writes_of_setter (.setMinTipAmount caller minTipAmount) rfl
      (hadmin.symm.trans hcaller) (decide_eq_false (not_lt.mpr hnonneg)) hsubject
  | creatorRegistered caller username registeredAt =>
    obtain ⟨hopen, hunregistered, hfree, hcap, hmax⟩ := of_decide_eq_true hallows
    have hcount := h.creators
    have hprofile : getProfile state.storage caller = none := by
      rwa [(h.indexed.accounts caller).username, Storage.account_profile,
        Option.map_eq_none_iff] at hunregistered
    have hbelow : ¬(0 < getMaxCreators state.storage ∧
        getMaxCreators state.storage ≤ getCreatorCount state.storage) := by
      rintro ⟨hpos, hle⟩
      rw [h.limits] at hcap
      rw [BoundedInt.le_def, hcount] at hle
      exact absurd (hcap hpos) (not_lt.mpr hle)
    obtain ⟨nextCount, hnext⟩ : ∃ nextCount : U32,
        nextCount.val = (getCreatorCount state.storage).val + 1 :=
      ⟨⟨(getCreatorCount state.storage).val + 1, by omega, by omega⟩, rfl⟩
    have haccepts : Accepts (signedBy (ledgerHost contract zeroAccount) caller registeredAt) state
        (.register caller username [] []) _ _ :=
      .register (hauthorized registeredAt) (h.isOpen_iff.mp hopen) (Nat.zero_le _) (Nat.zero_le _)
        hprofile ((h.holder username).symm.trans hfree) hbelow hnext
    exact writes_of_accepts haccepts rfl fun _ _ _ _ _ _ heq ↦ by cases heq
  | profileUpdated caller username displayName =>
    obtain ⟨hopen, husername, hname⟩ := of_decide_eq_true hallows
    rw [(h.indexed.accounts caller).username, Storage.account_profile] at husername
    obtain ⟨profile, hprofile, rfl⟩ := Option.map_eq_some_iff.mp husername
    have haccepts : Accepts (signedBy (ledgerHost contract zeroAccount) caller 0) state
        (.updateProfile caller displayName []) _ _ :=
      .updateProfile (hauthorized 0) (h.isOpen_iff.mp hopen) hname (Nat.zero_le _) hprofile
    exact writes_of_accepts haccepts rfl fun _ _ _ _ _ _ heq ↦ by cases heq
  | creatorUnregistered caller =>
    obtain ⟨hopen, husername, hempty⟩ := of_decide_eq_true hallows
    obtain ⟨profile, hprofile⟩ :=
      Option.isSome_iff_exists.mp (h.username_ne_none_iff.mp husername)
    refine writes_of_accepts (.unregister (hauthorized 0) (h.isOpen_iff.mp hopen) hprofile
      fun token _ ↦ ?_) rfl fun _ _ _ _ _ _ heq ↦ by cases heq
    have hcredit := (h.indexed.accounts caller).credit token
    rw [Storage.account_balance] at hcredit
    -- A token that the auditor has not seen has no credit.
    by_cases hseen : token ∈ books.tokens
    · exact BoundedInt.le_def.mpr (hcredit ▸ hempty token hseen)
    · have hzero := not_not.mp (mt (h.seen caller token) hseen)
      exact BoundedInt.le_def.mpr (hcredit ▸ hzero.le)
  | tipSent sender creator token amount fee index =>
    obtain ⟨hpos, newBalance, nextIndex, forwarded, settled, haccepted⟩ :=
      h.tipAccepted hreach hsubject hallows
    obtain ⟨hopen, husername, -, -, -, hindex, -⟩ := of_decide_eq_true hallows
    have hregistered := (isCreator_iff _ _).mp (h.username_ne_none_iff.mp husername)
    obtain rfl : index = getTipCount state.storage creator :=
      BoundedInt.ext (hindex.trans ((h.indexed.accounts creator).tipCount hregistered))
    have haccepts : Accepts (signedBy (ledgerHost contract zeroAccount) sender 0)
        { state with world := state.world.funded token sender amount hpos.le }
        (.tip sender creator token amount []) _ _ :=
      .tip (hauthorized 0) (h.isOpen_iff.mp hopen) haccepted
    exact ⟨{
      ledger := state.world.funded token sender amount hpos.le
      env := _
      call := _
      receipt := _
      after := _
      funded := state.world.le_funded token sender amount hpos.le contract
      accepts := haccepts
      events := rfl
      opens := fun _ _ _ _ _ _ heq ↦ by cases heq }⟩
  | withdraw caller token amount =>
    obtain ⟨hopen, husername, hpos, hle⟩ := of_decide_eq_true hallows
    rw [(h.indexed.accounts caller).credit, Storage.account_balance] at hle
    obtain ⟨remaining, settled, haccepted⟩ := withdrawAccepted_of_le
      (honouringToken_ledgerHost contract zeroAccount token) hreach
      (h.username_ne_none_iff.mp husername) hpos (BoundedInt.le_def.mpr hle)
    exact writes_of_accepts (.withdraw (hauthorized 0) (h.isOpen_iff.mp hopen) haccepted) rfl
      fun _ _ _ _ _ _ heq ↦ by cases heq

/-- The states that agree with the books of some beginning of a log, read from given books. -/
def OnLog (contract zeroAccount : Address) (initial : Limits) (books : Books Address Symbol)
    (log : List (Event Address Symbol)) (state : State Address Symbol (TokenLedger Address))
    (_ : Label (ledgerHost contract zeroAccount) Symbol) : Prop :=
  ∃ beginning mid, beginning <+: log ∧
    books.read contract zeroAccount initial beginning = some mid ∧ Balanced mid state.storage

/-- A stretch of a log that passes is written by a run with honest tokens, which keeps to the books. -/
theorem run_of_read {start : State Address Symbol (TokenLedger Address)}
    {books' : Books Address Symbol}
    (hreach : ReachableState (ledgerHost contract zeroAccount) start)
    (hstart : Balanced books start.storage)
    (h : books.read contract zeroAccount initial log = some books') :
    ∃ labels stop,
      Run (restrict (Step (ledgerHost contract zeroAccount))
        (OnLog contract zeroAccount initial books log)) start labels stop ∧
      eventLog labels = log ∧ Balanced books' stop.storage := by
  induction log using List.reverseRecOn generalizing books' with
  | nil =>
    cases h
    exact ⟨[], start, .nil, rfl, hstart⟩
  | append_singleton log event ih =>
    rw [Books.read_append] at h
    obtain ⟨before, hbefore, hcheck⟩ := Option.bind_eq_some_iff.mp h
    rw [Books.read_singleton] at hcheck
    obtain ⟨hsubject, hallows, rfl⟩ := Books.check_eq_some_iff.mp hcheck
    obtain ⟨labels, state, run, rfl, hbalanced⟩ := ih hbefore
    have hmid := hreach.run run.unrestrict
    obtain ⟨next⟩ := hbalanced.writes hmid hsubject hallows
    let funded : State Address Symbol (TokenLedger Address) := { state with world := next.ledger }
    have hkept : Balanced before funded.storage := hbalanced
    have hpart : ∃ beginning mid, beginning <+: eventLog labels ++ [event] ∧
        books.read contract zeroAccount initial beginning = some mid ∧ Balanced mid state.storage :=
      ⟨_, before, List.prefix_append _ _, hbefore, hbalanced⟩
    have hrun : Run (restrict (Step (ledgerHost contract zeroAccount))
        (OnLog contract zeroAccount initial books (eventLog labels ++ [event]))) start labels state := by
      refine run.mono fun mid label _ ⟨hstep, beginning, books'', hprefix, hrest⟩ ↦ ⟨hstep, ?_⟩
      exact ⟨beginning, books'', hprefix.trans (List.prefix_append _ _), hrest⟩
    have hfunded := hrun.snoc ⟨Step.outside next.funded, hpart⟩
    refine ⟨_, next.after, hfunded.snoc ⟨.accepted (invoke_eq_ok_iff.mpr next.accepts), hpart⟩, ?_,
      hkept.step (hmid.step (.outside next.funded)) next.accepts next.events next.opens⟩
    simp only [eventLog, List.flatMap_append, List.flatMap_singleton]
    rw [Label.events, Label.events, List.append_nil, next.events]

end Writing

example :
    (audit 0 9 ⟨0, 0, 0⟩ (eventLog (replay marketStart tippedMarketCalls).1)).isSome = true := by
  decide

/-- A fee one unit short is refused. -/
example : audit 0 9 ⟨0, 0, 0⟩ [.init 1 2 (u32 500), .creatorRegistered 3 30 (u64 101),
    .tipSent 5 3 7 (i128 100) (i128 4) (u64 0)] = none := by
  decide

end StellarTip
