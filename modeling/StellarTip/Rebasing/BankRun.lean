import StellarTip.Account.Census
import StellarTip.Custody.Frozen
import StellarTip.Custody.Exit
import StellarTip.Foundation.Reserve

/-!
# A run on a rebasing token

After a downward rebase the shares of the contract do not cover what it has recorded. The creators then
withdraw in some order, each within the recorded balance. Every withdrawal is decided by the token alone
and only by the shares that are left when its turn comes: it is paid when its amount is worth no more
than these, and otherwise fails with the error of the token. So whoever comes late bears the shortfall.
-/

namespace StellarTip

open Foundation TipContract RebasingToken

variable {Address Symbol : Type} [LinearOrder Address] {contract zeroAccount : Address}
  {token : Address}

/-- A withdrawal that a creator has in mind. -/
structure Order (host : Host Address (Address → RebasingToken Address)) where
  env : Env host
  caller : Address
  amount : I128

def Order.call {host : Host Address (Address → RebasingToken Address)} (token : Address)
    (order : Order host) : Env host × Call Address Symbol :=
  (order.env, .withdraw order.caller token order.amount)

/-- The shares that the order needs. -/
def Order.need {host : Host Address (Address → RebasingToken Address)}
    (token : RebasingToken Address) (order : Order host) : ℤ :=
  worth token.num token.den order.amount

/-- What the orders of one creator add up to. -/
def claimed {host : Host Address (Address → RebasingToken Address)} (orders : List (Order host))
    (caller : Address) : ℤ :=
  (orders.map fun order ↦ if order.caller = caller then order.amount.val else 0).sum

def Label.isAccepted {World : Type} {host : Host Address World} : Label host Symbol → Bool
  | .accepted .. => true
  | .rejected .. | .outside => false

/-- A signed order of a registered creator whose amounts the token can compute with. -/
structure Order.Sound (contract token : Address)
    (state : State Address Symbol (Address → RebasingToken Address))
    (order : Order (rebasingHost contract zeroAccount)) : Prop where
  signed : order.env.authorized order.caller = true
  registered : isCreator state.storage order.caller = true
  positive : 0 < order.amount
  product : ∃ product : I128, product.val = order.amount.val * (state.world token).den.val
  room : ∃ joined : I128, joined.val =
    ((state.world token).shares order.caller).val + ((state.world token).shares contract).val

variable [DecidableEq Symbol]
  {state state' : State Address Symbol (Address → RebasingToken Address)}
  {order : Order (rebasingHost contract zeroAccount)}
  {orders : List (Order (rebasingHost contract zeroAccount))}

omit [DecidableEq Symbol] in
theorem Order.Sound.need_nonneg (h : order.Sound contract token state) :
    0 ≤ order.need (state.world token) :=
  Int.tdiv_nonneg (mul_nonneg (BoundedInt.lt_def.mp h.positive).le (state.world token).den_pos.le)
    (state.world token).num_nonneg

/-- What an order that is paid leaves to the orders after it. -/
structure Paid (contract token : Address)
    (state state' : State Address Symbol (Address → RebasingToken Address)) (caller : Address)
    (amount : I128) (need : ℤ) : Prop where
  instanceTier_eq : state'.storage.instanceTier = state.storage.instanceTier
  balance_self : (getBalance state'.storage caller token).val =
    (getBalance state.storage caller token).val - amount.val
  balance_other : ∀ other, other ≠ caller →
    getBalance state'.storage other token = getBalance state.storage other token
  moved : Moved (state.world token) (state'.world token) contract caller need

/-- An order that the shares of the contract cover is paid. -/
theorem Order.Sound.paid (hreach : ReachableState (rebasingHost contract zeroAccount) state)
    (hready : state.storage.Ready) (hfactor : (state.world token).num ≠ 0)
    (hsound : order.Sound contract token state)
    (hrecorded : order.amount ≤ getBalance state.storage order.caller token)
    (hcovered : order.need (state.world token) ≤ ((state.world token).shares contract).val) :
    ∃ receipt state', invoke order.env (.withdraw order.caller token order.amount) state =
        .ok (receipt, state') ∧
      Paid contract token state state' order.caller order.amount (order.need (state.world token)) := by
  have hself : contract ≠ order.caller := order.env.ne_of_authorized hsound.signed
  have hroom : ∃ joined : I128, joined.val = ((state.world token).shares order.caller).val +
      order.need (state.world token) := by
    obtain ⟨joined, hjoined⟩ := hsound.room
    have hlo := ((state.world token).shares order.caller).lo_le
    have hhi := joined.le_hi
    have hneed := hsound.need_nonneg
    exact ⟨⟨((state.world token).shares order.caller).val + order.need (state.world token), by omega,
      by omega⟩, rfl⟩
  obtain ⟨moved, hrun⟩ := exists_transfer hfactor hsound.positive hsound.product hcovered hroom
  obtain ⟨receipt, state', haccepts, hworld⟩ := withdraw_accepted_of_moved hreach hready hsound.signed
    ⟨hsound.registered, hsound.positive, hrecorded⟩ (rebasingTransfer_eq_ok.mpr ⟨moved, hrun, rfl⟩)
  have hmoved : state'.world token = moved := by rw [hworld, Function.update_self]
  refine ⟨receipt, state', invoke_eq_ok_iff.mpr haccepts, ?_⟩
  exact
    { instanceTier_eq := haccepts.instanceTier_of_token (Option.some_ne_none _)
      balance_self := by rw [haccepts.getBalance_of_withdraw, if_pos rfl]
      balance_other := fun other hne ↦ getBalance_congr (haccepts.account_eq_of_ne rfl hne) token
      moved := hmoved ▸ (moved_of_transfer hself hrun).2 }

/-- An order that the shares of the contract do not cover fails in the token. -/
theorem Order.Sound.unpaid (hreach : ReachableState (rebasingHost contract zeroAccount) state)
    (hready : state.storage.Ready) (hfactor : (state.world token).num ≠ 0)
    (hsound : order.Sound contract token state)
    (hrecorded : order.amount ≤ getBalance state.storage order.caller token)
    (huncovered : ((state.world token).shares contract).val < order.need (state.world token)) :
    invoke order.env (.withdraw order.caller token order.amount) state =
      .error (.callee RebasingTokenError.insufficientBalance.code) := by
  refine withdraw_fails_of_refused hreach hready hsound.signed
    ⟨hsound.registered, hsound.positive, hrecorded⟩ (rebasingTransfer_eq_error ?_)
  exact run_transfer_of_insufficient hfactor hsound.positive hsound.product huncovered

namespace Paid

variable {caller : Address} {amount : I128} {need : ℤ}

omit [DecidableEq Symbol] in
theorem need_eq (h : Paid contract token state state' caller amount need) :
    order.need (state'.world token) = order.need (state.world token) := by
  rw [Order.need, h.moved.num_eq, h.moved.den_eq, Order.need]

omit [DecidableEq Symbol] in
/-- A paid order takes from the contract what it gives to its creator, so room remains for the others. -/
theorem sound (h : Paid contract token state state' caller amount need) (hneed : 0 ≤ need)
    (hsound : order.Sound contract token state) : order.Sound contract token state' := by
  have hself : order.caller ≠ contract := (order.env.ne_of_authorized hsound.signed).symm
  refine ⟨hsound.signed, ?_, hsound.positive, ?_, ?_⟩
  · rw [isCreator, h.instanceTier_eq]
    exact hsound.registered
  · rw [h.moved.den_eq]
    exact hsound.product
  · obtain ⟨joined, hjoined⟩ := hsound.room
    have hsender := h.moved.shares_sender
    by_cases hcaller : order.caller = caller
    · have hrecipient := h.moved.shares_recipient
      rw [← hcaller] at hrecipient
      exact ⟨joined, by omega⟩
    · have hother := h.moved.shares_other order.caller hself hcaller
      have hlo := ((state.world token).shares order.caller).lo_le
      have hhi := joined.le_hi
      have hleft := h.moved.sufficient
      exact ⟨⟨((state'.world token).shares order.caller).val +
        ((state'.world token).shares contract).val, by rw [hother]; omega, by rw [hother]; omega⟩, rfl⟩

omit [DecidableEq Symbol] in
theorem claimed_le (h : Paid contract token state state' order.caller order.amount need)
    (hclaimed : ∀ caller, claimed (order :: orders) caller ≤
      (getBalance state.storage caller token).val) (caller : Address) :
    claimed orders caller ≤ (getBalance state'.storage caller token).val := by
  have hcaller := hclaimed caller
  rw [claimed, List.map_cons, List.sum_cons] at hcaller
  by_cases heq : order.caller = caller
  · rw [if_pos heq] at hcaller
    rw [← heq] at hcaller ⊢
    rw [h.balance_self, claimed]
    omega
  · rw [if_neg heq, zero_add] at hcaller
    rwa [h.balance_other caller (Ne.symm heq)]

end Paid

omit [DecidableEq Symbol] in
theorem claimed_nonneg (hsound : ∀ order ∈ orders, order.Sound contract token state)
    (caller : Address) : 0 ≤ claimed orders caller := by
  apply List.sum_nonneg
  intro amount hmem
  obtain ⟨order, horder, rfl⟩ := List.mem_map.mp hmem
  split
  · exact (BoundedInt.lt_def.mp (hsound order horder).positive).le
  · exact le_rfl

omit [DecidableEq Symbol] in
theorem claimed_le_cons (hpos : 0 < order.amount) (caller : Address) :
    claimed orders caller ≤ claimed (order :: orders) caller := by
  have hamount := BoundedInt.lt_def.mp hpos
  rw [I128.val_zero] at hamount
  rw [claimed, claimed, List.map_cons, List.sum_cons]
  split <;> omega

theorem outcomes_of_orders (hreach : ReachableState (rebasingHost contract zeroAccount) state)
    (hready : state.storage.Ready) (hfactor : (state.world token).num ≠ 0)
    (hsound : ∀ order ∈ orders, order.Sound contract token state)
    (hclaimed : ∀ caller, claimed orders caller ≤ (getBalance state.storage caller token).val) :
    (replay state (orders.map (Order.call token))).1.map Label.isAccepted =
        serve ((state.world token).shares contract).val
          (orders.map (Order.need (state.world token))) ∧
      ∀ env call failure, .rejected env call failure ∈
          (replay state (orders.map (Order.call token))).1 →
        failure = .callee RebasingTokenError.insufficientBalance.code := by
  induction orders generalizing state with
  | nil => exact ⟨rfl, fun _ _ _ hmem ↦ absurd hmem List.not_mem_nil⟩
  | cons order orders ih =>
    have hfirst := hsound order List.mem_cons_self
    have hrest : ∀ other ∈ orders, other.Sound contract token state := fun other hmem ↦
      hsound other (List.mem_cons_of_mem _ hmem)
    have hrecorded : order.amount ≤ getBalance state.storage order.caller token := by
      have hown := hclaimed order.caller
      rw [claimed, List.map_cons, List.sum_cons, if_pos rfl] at hown
      have hothers := claimed_nonneg hrest order.caller
      rw [claimed] at hothers
      exact BoundedInt.le_def.mpr (by omega)
    by_cases hcovered : order.need (state.world token) ≤ ((state.world token).shares contract).val
    · obtain ⟨receipt, state', hinvoke, hpaid⟩ := hfirst.paid hreach hready hfactor hrecorded hcovered
      have hreach' := hreach.step (.accepted hinvoke)
      have hready' : state'.storage.Ready := by
        rwa [Storage.Ready, isPaused, hpaid.instanceTier_eq]
      have hfactor' : (state'.world token).num ≠ 0 := hpaid.moved.num_eq ▸ hfactor
      obtain ⟨houtcomes, hfailures⟩ := ih hreach' hready' hfactor'
        (fun other hmem ↦ hpaid.sound hfirst.need_nonneg (hrest other hmem))
        (hpaid.claimed_le hclaimed)
      have hneeds : orders.map (Order.need (state'.world token)) =
          orders.map (Order.need (state.world token)) :=
        List.map_congr_left fun other _ ↦ hpaid.need_eq
      rw [hneeds, hpaid.moved.shares_sender] at houtcomes
      rw [List.map_cons, Order.call, replay_cons_of_ok hinvoke, List.map_cons, List.map_cons,
        serve_cons_of_le hcovered]
      refine ⟨congrArg _ houtcomes, fun env call failure hmem ↦ ?_⟩
      rcases List.mem_cons.mp hmem with heq | hmem
      · cases heq
      · exact hfailures env call failure hmem
    · have hlt := not_le.mp hcovered
      have hinvoke := hfirst.unpaid hreach hready hfactor hrecorded hlt
      obtain ⟨houtcomes, hfailures⟩ := ih hreach hready hfactor hrest fun caller ↦
        (claimed_le_cons hfirst.positive caller).trans (hclaimed caller)
      have hreplay : replay state ((order :: orders).map (Order.call token)) =
          (.rejected order.env (.withdraw order.caller token order.amount)
              (.callee RebasingTokenError.insufficientBalance.code) ::
            (replay state (orders.map (Order.call token))).1,
            (replay state (orders.map (Order.call token))).2) := by
        rw [List.map_cons, Order.call, replay, perform_of_error hinvoke]
      rw [hreplay, List.map_cons, List.map_cons, serve_cons_of_lt hlt]
      refine ⟨congrArg _ houtcomes, fun env call failure hmem ↦ ?_⟩
      rcases List.mem_cons.mp hmem with heq | hmem
      · cases heq
        rfl
      · exact hfailures env call failure hmem

/-- **Who comes late bears the shortfall.** In a reachable, ready contract let creators withdraw a rebasing
token within their recorded balances, in any order. The withdrawals that are paid are those that the
shares of the contract serve first come, first served; all others fail in the token for lack of balance. So
everybody is paid exactly when the shares cover what all amounts are worth. -/
theorem run_on_rebasing_token (hreach : ReachableState (rebasingHost contract zeroAccount) state)
    (hready : state.storage.Ready) (hfactor : (state.world token).num ≠ 0)
    (hsound : ∀ order ∈ orders, order.Sound contract token state)
    (hclaimed : ∀ caller, claimed orders caller ≤ (getBalance state.storage caller token).val) :
    (replay state (orders.map (Order.call token))).1.map Label.isAccepted =
        serve ((state.world token).shares contract).val
          (orders.map (Order.need (state.world token))) ∧
      (∀ env call failure, .rejected env call failure ∈
          (replay state (orders.map (Order.call token))).1 →
        failure = .callee RebasingTokenError.insufficientBalance.code) ∧
      (0 ≤ ((state.world token).shares contract).val →
        ((∀ label ∈ (replay state (orders.map (Order.call token))).1, label.isAccepted = true) ↔
          (orders.map (Order.need (state.world token))).sum ≤
            ((state.world token).shares contract).val)) := by
  obtain ⟨houtcomes, hfailures⟩ := outcomes_of_orders hreach hready hfactor hsound hclaimed
  refine ⟨houtcomes, hfailures, fun hreserve ↦ ?_⟩
  have hneeds : ∀ need ∈ orders.map (Order.need (state.world token)), 0 ≤ need := by
    intro need hmem
    obtain ⟨order, horder, rfl⟩ := List.mem_map.mp hmem
    exact (hsound order horder).need_nonneg
  rw [← serve_eq_true_iff hneeds hreserve, ← houtcomes, List.forall_mem_map]

def halvedOrder (amount : I128) (timestamp : U64) : Order rebasingMarketHost :=
  ⟨signedBy rebasingMarketHost 3 timestamp, 3, amount⟩

/-- Withdrawals of 300, 300 and 200 of the recorded 1000 units. -/
def halvedOrders : List (Order rebasingMarketHost) :=
  [halvedOrder (i128 300) (u64 110), halvedOrder (i128 300) (u64 111),
    halvedOrder (i128 200) (u64 112)]

/-- The contract owns 1000 shares, of which each unit now takes two: the second withdrawal fails. -/
theorem run_on_rebasing_token_of_halvedOrders :
    (replay (rebasingTippedAt (i128 1) (i128 2)) (halvedOrders.map (Order.call 7))).1.map
        Label.isAccepted = serve 1000 [600, 600, 400] := by
  have hsound : ∀ order ∈ halvedOrders,
      order.Sound 0 7 (rebasingTippedAt (i128 1) (i128 2)) := by
    have hregistered : isCreator (rebasingTippedAt (i128 1) (i128 2)).storage 3 = true := by decide
    have hroom : ∃ joined : I128, joined.val =
        (((rebasingTippedAt (i128 1) (i128 2)).world 7).shares 3).val +
          (((rebasingTippedAt (i128 1) (i128 2)).world 7).shares 0).val := ⟨i128 1000, by decide⟩
    have hall : ∀ amount timestamp, 0 < amount →
        (∃ product : I128, product.val = amount.val * 2) →
        (halvedOrder amount timestamp).Sound 0 7 (rebasingTippedAt (i128 1) (i128 2)) :=
      fun amount timestamp hpos hproduct ↦ ⟨rfl, hregistered, hpos, hproduct, hroom⟩
    intro order hmem
    simp only [halvedOrders, List.mem_cons, List.not_mem_nil, or_false] at hmem
    rcases hmem with rfl | rfl | rfl
    · exact hall _ _ (by decide) ⟨i128 600, by decide⟩
    · exact hall _ _ (by decide) ⟨i128 600, by decide⟩
    · exact hall _ _ (by decide) ⟨i128 400, by decide⟩
  have hclaimed : ∀ caller, claimed halvedOrders caller ≤
      (getBalance (rebasingTippedAt (i128 1) (i128 2)).storage caller 7).val := by
    intro caller
    by_cases hcaller : caller = 3
    · subst hcaller
      decide
    · have hnone : claimed halvedOrders caller = 0 := by
        simp [claimed, halvedOrders, halvedOrder, Ne.symm hcaller]
      rw [hnone]
      exact BoundedInt.le_def.mp (getBalance_nonneg (rebasingTippedAt_reachable _ _) caller 7)
  exact (run_on_rebasing_token (rebasingTippedAt_reachable _ _) ⟨by decide, by decide⟩ (by decide)
    hsound hclaimed).1

end StellarTip
