import StellarTip.Account.Census
import StellarTip.Contract.Refusal

/-!
# Capacity caps

The two caps bound what is added, never what is there. While the creator cap is constant, the number
of creators stays within the larger of the cap and the number at the start, and the same holds for the
tip counter of every creator. A cap is compared with usage only by the operation that adds to it, so
lowering it evicts nobody, and a cap of zero refuses nothing.
-/

namespace StellarTip

open Foundation TipContract

variable {Address Symbol World : Type} [LinearOrder Address] [DecidableEq Symbol]
  {host : Host Address World}

/-- The steps taken while the creator cap is `cap`. -/
def WhileMaxCreators (cap : U32) (state : State Address Symbol World) (_ : Label host Symbol) :
    Prop := getMaxCreators state.storage = cap

/-- The steps taken while the cap on the tips of a creator is `cap`. -/
def WhileMaxTips (cap : U32) (state : State Address Symbol World) (_ : Label host Symbol) : Prop :=
  getMaxTipsPerCreator state.storage = cap

/-- The number of registered creators. -/
noncomputable def creatorNumber (state : State Address Symbol World) : ℕ :=
  (registeredCreators state.storage).ncard

variable {env : Env host} {state state' start stop : State Address Symbol World}
  {call : Call Address Symbol} {receipt : Receipt Address Symbol} {label : Label host Symbol}
  {labels : List (Label host Symbol)} {cap : U32} {owner : Address}

/-- A step adds a creator only below the cap. -/
theorem Step.creatorNumber_cases (h : ReachableState host state) (hstep : Step host state label state')
    (hpos : 0 < cap) (hcap : getMaxCreators state.storage = cap) :
    creatorNumber state' ≤ creatorNumber state ∨
      (creatorNumber state < cap.val ∧ creatorNumber state' ≤ creatorNumber state + 1) := by
  have hcensus := ExactCensus.of_reachable h
  unfold creatorNumber
  rcases hstep.accepts_or_storage_eq with ⟨env, call, receipt, -, haccepts⟩ | ⟨-, heq⟩
  · rcases haccepts.registeredCreators_cases with heq | ⟨caller, heq, hbelow⟩ | ⟨caller, heq⟩
    · exact .inl (by rw [heq])
    · rw [hcap] at hbelow
      have hlt : getCreatorCount state.storage < cap := not_le.mp fun hle ↦ hbelow ⟨hpos, hle⟩
      rw [BoundedInt.lt_def, hcensus.count_val] at hlt
      refine .inr ⟨hlt, ?_⟩
      rw [heq]
      exact Set.ncard_insert_le _ _
    · exact .inl (by rw [heq]; exact Set.ncard_sdiff_singleton_le _ _)
  · exact .inl (by rw [heq])

theorem creatorNumber_le_of_full (h : ReachableState host state)
    (hstep : Step host state label state') (hpos : 0 < cap)
    (hcap : getMaxCreators state.storage = cap) (hfull : cap.val ≤ creatorNumber state) :
    creatorNumber state' ≤ creatorNumber state := by
  rcases hstep.creatorNumber_cases h hpos hcap with hle | ⟨hlt, -⟩
  · exact hle
  · exact absurd hlt (not_lt.mpr hfull)

theorem creatorNumber_le_of_run (h : ReachableState host start) (hpos : 0 < cap)
    (run : Run (restrict (Step host) (WhileMaxCreators cap)) start labels stop) :
    (creatorNumber stop : ℤ) ≤ max cap.val (creatorNumber start) := by
  induction run with
  | nil => exact le_max_right _ _
  | snoc init last ih =>
    rcases last.1.creatorNumber_cases (h.run init.unrestrict) hpos last.2 with hle | ⟨hlt, hle⟩
    · exact (Int.ofNat_le.mpr hle).trans ih
    · refine le_max_of_le_left ?_
      omega

omit [DecidableEq Symbol] in
/-- Only a tip to the owner advances the tip counter or writes a tip record. -/
theorem Account.Step.count_le_and_tips_eq {account account' : Account Address Symbol} {feeBps : U32}
    (h : Account.Step env feeBps owner account call receipt account')
    (hne : ∀ sender token amount message, call ≠ .tip sender owner token amount message) :
    account'.count ≤ account.count ∧ account'.tips = account.tips := by
  cases h with
  | opened => exact ⟨account.count.lo_le, rfl⟩
  | edited => exact ⟨le_rfl, rfl⟩
  | closed => exact ⟨account.count.lo_le, rfl⟩
  | credited => exact absurd rfl (hne _ _ _ _)
  | debited => exact ⟨(account.count_debited _ _).le, account.tips_debited _ _⟩
  | other => exact ⟨le_rfl, rfl⟩

/-- The counter and the record of an accepted tip. -/
theorem Accepts.tip_written {sender token : Address} {amount : I128} {message : HostString}
    (h : Accepts env state (.tip sender owner token amount message) receipt state') :
    (0 < getMaxTipsPerCreator state.storage →
      (getTipCount state.storage owner).val < (getMaxTipsPerCreator state.storage).val) ∧
    (getTipCount state'.storage owner).val = (getTipCount state.storage owner).val + 1 ∧
    receipt.returned = some (getTipCount state.storage owner) ∧
    (∀ index, getTip state'.storage owner index =
      if index = getTipCount state.storage owner then
        some { sender, token, amount, message, timestamp := env.timestamp }
      else getTip state.storage owner index) := by
  obtain ⟨-, fee, newBalance, nextIndex, forwarded, settled, accepted, rfl, rfl⟩ := h.of_tip
  have haccount := state.storage.account_afterTip_self owner nextIndex newBalance
    { sender, token, amount, message, timestamp := env.timestamp }
  refine ⟨fun hpos ↦ BoundedInt.lt_def.mp (accepted.below_cap hpos), ?_, rfl, fun index ↦ ?_⟩
  · rw [← Storage.account_count, haccount, Account.count_credited, accepted.nextIndex_val]
  · rw [← Storage.account_tips, haccount]
    rfl

/-- A step below the cap on tips: the counter of an owner does not grow, or it grows by one below the
cap and the record written is the one under the old counter. -/
theorem Step.tipCount_cases (hstep : Step host state label state') (hpos : 0 < cap)
    (hcap : getMaxTipsPerCreator state.storage = cap) (owner : Address) :
    (getTipCount state'.storage owner ≤ getTipCount state.storage owner ∧
      ∀ index, getTip state'.storage owner index = getTip state.storage owner index) ∨
    ((getTipCount state.storage owner).val < cap.val ∧
      (getTipCount state'.storage owner).val = (getTipCount state.storage owner).val + 1 ∧
      ∀ index, index ≠ getTipCount state.storage owner →
        getTip state'.storage owner index = getTip state.storage owner index) := by
  rcases hstep.accepts_or_storage_eq with ⟨env, call, receipt, -, haccepts⟩ | ⟨-, heq⟩
  · by_cases htip : ∃ sender token amount message, call = .tip sender owner token amount message
    · obtain ⟨sender, token, amount, message, rfl⟩ := htip
      obtain ⟨hbelow, hcount, -, htips⟩ := haccepts.tip_written
      rw [hcap] at hbelow
      exact .inr ⟨hbelow hpos, hcount, fun index hne ↦ by rw [htips index, if_neg hne]⟩
    · simp only [not_exists] at htip
      obtain ⟨hcount, htips⟩ := (haccepts.accountStep owner).count_le_and_tips_eq htip
      exact .inl ⟨hcount, congrFun htips⟩
  · exact .inl (by rw [heq]; exact ⟨le_rfl, fun _ ↦ rfl⟩)

theorem tipCount_le_of_run (hpos : 0 < cap)
    (run : Run (restrict (Step host) (WhileMaxTips cap)) start labels stop) (owner : Address) :
    (getTipCount stop.storage owner).val ≤ max cap.val (getTipCount start.storage owner).val ∧
      ∀ index : U64, getTip stop.storage owner index ≠ getTip start.storage owner index →
        index.val < cap.val := by
  induction run with
  | nil => exact ⟨le_max_right _ _, fun _ hne ↦ absurd rfl hne⟩
  | @snoc labels mid stop label init last ih =>
    obtain ⟨hcount, hwritten⟩ := ih
    rcases last.1.tipCount_cases hpos last.2 owner with ⟨hle, htips⟩ | ⟨hlt, hnext, htips⟩
    · exact ⟨(BoundedInt.le_def.mp hle).trans hcount,
        fun index hne ↦ hwritten index (by rwa [htips index] at hne)⟩
    · refine ⟨le_max_of_le_left (by omega), fun index hne ↦ ?_⟩
      by_cases hindex : index = getTipCount mid.storage owner
      · rwa [hindex]
      · exact hwritten index (by rwa [htips index hindex] at hne)

/-- Every tip accepted in the stretch is recorded below the cap. -/
theorem returned_lt_of_run (hpos : 0 < cap)
    (run : Run (restrict (Step host) (WhileMaxTips cap)) start labels stop)
    {sender token : Address} {amount : I128} {message : HostString}
    (hmem : .accepted env (.tip sender owner token amount message) receipt ∈ labels) :
    ∃ index, receipt.returned = some index ∧ index.val < cap.val := by
  obtain ⟨prior, later, rfl⟩ := List.append_of_mem hmem
  obtain ⟨before, after, -, hstep, -⟩ := run.exists_step
  obtain ⟨hbelow, -, hreturned, -⟩ := hstep.1.accepts.tip_written
  rw [hstep.2] at hbelow
  exact ⟨_, hreturned, hbelow hpos⟩

/-- A setter leaves the user state as it was, accepted or not. -/
theorem keepsUserState_of_setter {change : AdminChange Address Symbol}
    (setter : call.adminChange host = some change) :
    state.storage.KeepsUserState (perform env call state).2.storage := by
  cases hinvoke : invoke env call state with
  | error failure =>
    rw [perform_of_error hinvoke]
    exact .refl _
  | ok pair =>
    obtain ⟨receipt, state'⟩ := pair
    rw [perform_of_ok hinvoke]
    exact (invoke_eq_ok_iff.mp hinvoke).keepsUserState_of_setter setter

/-- A cap is exceeded only when it is not zero. -/
theorem capExceeded_cases (h : invoke env call state = .error (.tipError .capExceeded)) :
    (∃ caller username displayName bio, call = .register caller username displayName bio ∧
      0 < getMaxCreators state.storage) ∨
    ∃ sender creator token amount message, call = .tip sender creator token amount message ∧
      0 < getMaxTipsPerCreator state.storage := by
  cases refuses_of_invoke_eq_error h with
  | creatorsCapped capped => exact .inl ⟨_, _, _, _, rfl, capped.1⟩
  | tipsCapped capped => exact .inr ⟨_, _, _, _, _, rfl, capped.1⟩
  | tipBroken _ _ broken => cases broken

/-- The caps look forward only. Over a stretch with a constant positive cap, usage stays within the
larger of the cap and the usage at the start, and full usage never grows; setting a cap changes no
user state; and a cap of zero refuses nothing. -/
theorem capacity_caps_forward_only (h : ReachableState host state) :
    (∀ cap : U32, 0 < cap →
      (∀ labels stop, Run (restrict (Step host) (WhileMaxCreators cap)) state labels stop →
        (creatorNumber stop : ℤ) ≤ max cap.val (creatorNumber state)) ∧
      ∀ label state', getMaxCreators state.storage = cap → cap.val ≤ creatorNumber state →
        Step host state label state' → creatorNumber state' ≤ creatorNumber state) ∧
    (∀ cap : U32, 0 < cap → ∀ labels stop,
      Run (restrict (Step host) (WhileMaxTips cap)) state labels stop → ∀ owner,
        (getTipCount stop.storage owner).val ≤
            max cap.val (getTipCount state.storage owner).val ∧
          (∀ index : U64, getTip stop.storage owner index ≠ getTip state.storage owner index →
            index.val < cap.val) ∧
          ∀ (env : Env host) sender token amount message receipt,
            .accepted env (.tip sender owner token amount message) receipt ∈ labels →
              ∃ index, receipt.returned = some index ∧ index.val < cap.val) ∧
    (∀ (env : Env host) caller cap,
      state.storage.KeepsUserState (perform env (.setMaxCreators caller cap) state).2.storage ∧
        state.storage.KeepsUserState
          (perform env (.setMaxTipsPerCreator caller cap) state).2.storage) ∧
    (getMaxCreators state.storage = 0 → ∀ (env : Env host) caller username displayName bio,
      invoke env (.register caller username displayName bio) state ≠
        .error (.tipError .capExceeded)) ∧
    (getMaxTipsPerCreator state.storage = 0 →
      ∀ (env : Env host) sender creator token amount message,
        invoke env (.tip sender creator token amount message) state ≠
          .error (.tipError .capExceeded)) := by
  refine ⟨fun cap hpos ↦ ⟨fun labels stop run ↦ creatorNumber_le_of_run h hpos run, ?_⟩,
    fun cap hpos labels stop run owner ↦ ?_,
    fun env caller cap ↦ ⟨keepsUserState_of_setter rfl, keepsUserState_of_setter rfl⟩, ?_, ?_⟩
  · exact fun label state' hcap hfull hstep ↦ creatorNumber_le_of_full h hstep hpos hcap hfull
  · obtain ⟨hcount, hwritten⟩ := tipCount_le_of_run hpos run owner
    exact ⟨hcount, hwritten, fun _ _ _ _ _ _ hmem ↦ returned_lt_of_run hpos run hmem⟩
  · intro hzero env caller username displayName bio hcapped
    rcases capExceeded_cases hcapped with ⟨_, _, _, _, -, hpos⟩ | ⟨_, _, _, _, _, hcall, -⟩
    · exact absurd hzero hpos.ne'
    · cases hcall
  · intro hzero env sender creator token amount message hcapped
    rcases capExceeded_cases hcapped with ⟨_, _, _, _, hcall, -⟩ | ⟨_, _, _, _, _, -, hpos⟩
    · cases hcall
    · exact absurd hzero hpos.ne'

/-- The admin caps the small market at the one creator that it has, and at two tips. -/
def cappedMarket : State ℕ ℕ (TokenLedger ℕ) :=
  (replay tippedMarket [(signedBy marketHost 1 (u64 104), .setMaxCreators 1 (u32 1)),
    (signedBy marketHost 1 (u64 104), .setMaxTipsPerCreator 1 (u32 2))]).2

/-- One more creator is refused, one more tip accepted and another one refused. -/
def cappedMarketCalls : List MarketCall :=
  [marketRegister 4 40, marketTip 3 7 (i128 10) (u64 105), marketTip 3 7 (i128 10) (u64 106)]

theorem capacity_caps_of_cappedMarket :
    (creatorNumber (replay cappedMarket cappedMarketCalls).2 : ℤ) ≤
        max (u32 1).val (creatorNumber cappedMarket) ∧
      (getTipCount (replay cappedMarket cappedMarketCalls).2.storage 3).val ≤
        max (u32 2).val (getTipCount cappedMarket.storage 3).val ∧
      tippedMarket.storage.KeepsUserState (perform (signedBy marketHost 1 (u64 104))
        (.setMaxCreators 1 (u32 1)) tippedMarket).2.storage ∧
      invoke (marketRegister 4 40).1 (marketRegister 4 40).2 tippedMarket ≠
        .error (.tipError .capExceeded) := by
  have hcapped : ReachableState marketHost cappedMarket := tippedMarket_reachable.run (run_replay _ _)
  have hcreators : AllowedAlong (WhileMaxCreators (u32 1)) cappedMarket cappedMarketCalls := by
    refine ⟨?_, ?_, ?_, trivial⟩ <;> change getMaxCreators _ = _ <;> decide
  have htips : AllowedAlong (WhileMaxTips (u32 2)) cappedMarket cappedMarketCalls := by
    refine ⟨?_, ?_, ?_, trivial⟩ <;> change getMaxTipsPerCreator _ = _ <;> decide
  obtain ⟨hcreatorCap, htipCap, -⟩ := capacity_caps_forward_only hcapped
  obtain ⟨-, -, hsetters, huncapped, -⟩ := capacity_caps_forward_only tippedMarket_reachable
  exact ⟨(hcreatorCap (u32 1) (by decide)).1 _ _ (run_replay_of_allowed _ _ hcreators),
    (htipCap (u32 2) (by decide) _ _ (run_replay_of_allowed _ _ htips) 3).1,
    (hsetters _ 1 (u32 1)).1, huncapped (by decide) _ 4 40 [] []⟩

end StellarTip
