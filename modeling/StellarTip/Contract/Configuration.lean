import StellarTip.Contract.Refusal
import StellarTip.Foundation.ProportionalShare

/-!
# The configuration of a reachable contract

`init` and the admin setters check what they write, so in every reachable state the fee is at most
100%, the minimum tip is not negative and the fee recipient is never the contract itself. The
configuration is written all at once: an initialized contract has every entry, and an
uninitialized one has none. Hence the fallbacks of `tip` for a missing fee recipient are dead code.
-/

namespace StellarTip

open Foundation TipContract

variable {Address Symbol World : Type} [LinearOrder Address] [DecidableEq Symbol]
  {host : Host Address World}

/-- No user call touches the configuration. -/
theorem Accepts.config_eq {env : Env host} {state state' : State Address Symbol World}
    {call : Call Address Symbol} {receipt : Receipt Address Symbol}
    (h : Accepts env state call receipt state') (huser : call.IsUserCall)
    {key : DataKey Address Symbol} (hkey : key.IsConfig) :
    state'.storage.instanceTier.get key = state.storage.instanceTier.get key := by
  cases h with
  | init => exact huser.elim
  | configure setter => cases call <;> first | exact huser.elim | cases setter
  | register => cases key <;> first | exact hkey.elim | simp
  | updateProfile => cases key <;> first | exact hkey.elim | simp
  | unregister => cases key <;> first | exact hkey.elim | simp
  | tip => rw [Storage.instanceTier_afterTip]
  | withdraw => rw [Storage.instanceTier_afterWithdraw]

/-- What the configuration entries satisfy at all times. -/
structure ConfigurationInvariant (host : Host Address World) (storage : Storage Address Symbol) :
    Prop where
  feeBps_le : getFeePercentage storage ≤ MAX_FEE_BPS
  minTipAmount_nonneg : 0 ≤ getMinTipAmount storage
  feeRecipient_ne : getFeeRecipient storage ≠ some host.currentContractAddress
  feeRecipient_present : getAdmin storage ≠ none → getFeeRecipient storage ≠ none

namespace ConfigurationInvariant

variable {env : Env host} {state state' : State Address Symbol World}
  {call : Call Address Symbol} {receipt : Receipt Address Symbol}

omit [DecidableEq Symbol] in
theorem empty : ConfigurationInvariant host (Storage.empty : Storage Address Symbol) where
  feeBps_le := by simp [getFeePercentage, Storage.empty, BoundedInt.le_def]
  minTipAmount_nonneg := by simp [getMinTipAmount, Storage.empty]
  feeRecipient_ne := by simp [getFeeRecipient, Storage.empty]
  feeRecipient_present := by simp [getAdmin, Storage.empty]

omit [DecidableEq Symbol] in
/-- The configuration only depends on the configuration entries. -/
theorem congr {storage storage' : Storage Address Symbol}
    (h : ConfigurationInvariant host storage)
    (heq : ∀ key : DataKey Address Symbol, key.IsConfig →
      storage'.instanceTier.get key = storage.instanceTier.get key) :
    ConfigurationInvariant host storage' where
  feeBps_le := by
    rw [getFeePercentage, heq .feeBps trivial]
    exact h.feeBps_le
  minTipAmount_nonneg := by
    rw [getMinTipAmount, heq .minTipAmount trivial]
    exact h.minTipAmount_nonneg
  feeRecipient_ne := by
    rw [getFeeRecipient, heq .feeRecipient trivial]
    exact h.feeRecipient_ne
  feeRecipient_present := by
    rw [getFeeRecipient, getAdmin, heq .feeRecipient trivial, heq .admin trivial]
    exact h.feeRecipient_present

theorem configure {change : AdminChange Address Symbol} (setter : call.adminChange host = some change)
    (valid : change.invalid = false) (h : ConfigurationInvariant host state.storage)
    (admin : getAdmin state.storage = some change.caller) :
    ConfigurationInvariant host (state.storage.setInstance change.key change.value) := by
  have hpresent : getFeeRecipient state.storage ≠ none :=
    h.feeRecipient_present (by rw [admin]; exact Option.some_ne_none _)
  obtain ⟨hfee, hmin, hne, -⟩ := h
  cases call <;> cases setter <;>
    simp only [decide_eq_false_iff_not, not_lt, not_or] at valid <;>
    constructor <;>
    simp_all [getFeePercentage, getMinTipAmount, getFeeRecipient, getAdmin]

/-- No accepted call outside the setters and `init` writes a configuration entry. -/
theorem accepts (h : Accepts env state call receipt state')
    (hinv : ConfigurationInvariant host state.storage) :
    ConfigurationInvariant host state'.storage := by
  have hconfig (huser : call.IsUserCall) (key : DataKey Address Symbol) (hkey : key.IsConfig) :=
    h.config_eq huser hkey
  cases h with
  | init authorized fresh feeBps_le minTip_nonneg recipient_ne =>
    constructor
    · simpa [getFeePercentage, Storage.afterInit] using feeBps_le
    · simpa [getMinTipAmount, Storage.afterInit] using minTip_nonneg
    · simpa [getFeeRecipient, Storage.afterInit] using recipient_ne
    · simp [getFeeRecipient, Storage.afterInit]
  | configure setter authorized admin valid => exact hinv.configure setter valid admin
  | _ => exact hinv.congr (hconfig trivial)

theorem of_reachable (h : ReachableState host state) : ConfigurationInvariant host state.storage :=
  h.storage_invariant empty fun _ _ _ _ _ _ hinv haccepts ↦ accepts haccepts hinv

end ConfigurationInvariant

/-- In a reachable contract that is ready for tips, a fee recipient is configured. -/
theorem feeRecipient_ne_none {state : State Address Symbol World} (h : ReachableState host state)
    (hready : state.storage.Ready) : getFeeRecipient state.storage ≠ none := by
  obtain ⟨admin, hadmin⟩ := KeyedStore.has_iff.mp hready.1
  exact (ConfigurationInvariant.of_reachable h).feeRecipient_present
    (by rw [getAdmin, hadmin]; exact Option.some_ne_none _)

section Fee

variable {amount fee : I128} {feeBps : U32}

theorem fee_bounds (hpos : 0 < amount) (hle : feeBps ≤ MAX_FEE_BPS)
    (hfee : fee.val = (amount.val * feeBps.val).tdiv MAX_FEE_BPS.val) :
    0 ≤ fee.val ∧ fee.val ≤ amount.val := by
  have hamount : 0 < amount.val := BoundedInt.lt_def.mp hpos
  rw [hfee]
  exact ⟨proportionalShare_nonneg (by decide) hamount.le feeBps.lo_le,
    proportionalShare_le (by decide) hamount.le feeBps.lo_le (BoundedInt.le_def.mp hle)⟩

/-- The fee itself is always in range. -/
theorem exists_fee (hpos : 0 < amount) (hle : feeBps ≤ MAX_FEE_BPS) :
    ∃ fee : I128, fee.val = (amount.val * feeBps.val).tdiv MAX_FEE_BPS.val := by
  have hamount : 0 < amount.val := BoundedInt.lt_def.mp hpos
  have hnonneg : 0 ≤ proportionalShare MAX_FEE_BPS.val amount.val feeBps.val :=
    proportionalShare_nonneg (by decide) hamount.le feeBps.lo_le
  have hshare_le : proportionalShare MAX_FEE_BPS.val amount.val feeBps.val ≤ amount.val :=
    proportionalShare_le (by decide) hamount.le feeBps.lo_le (BoundedInt.le_def.mp hle)
  exact ⟨⟨_, by omega, hshare_le.trans amount.le_hi⟩, rfl⟩

/-- The fee of a positive amount is rounded down. -/
theorem fee_eq_ediv (hpos : 0 < amount)
    (hfee : fee.val = (amount.val * feeBps.val).tdiv MAX_FEE_BPS.val) :
    fee.val = amount.val * feeBps.val / 10000 := by
  have hamount : 0 < amount.val := BoundedInt.lt_def.mp hpos
  rw [hfee]
  exact proportionalShare_eq_ediv hamount.le feeBps.lo_le

/-- A tip leaves something for the creator exactly when the fee is below 100%. -/
theorem fee_lt_amount_iff (hpos : 0 < amount)
    (hfee : fee.val = (amount.val * feeBps.val).tdiv MAX_FEE_BPS.val) :
    fee.val < amount.val ↔ feeBps < MAX_FEE_BPS := by
  rw [hfee, BoundedInt.lt_def]
  exact proportionalShare_lt_iff (by decide) (BoundedInt.lt_def.mp hpos) feeBps.lo_le

end Fee

end StellarTip
