import HermesToken.Referral.Inviters
import HermesToken.Subscription.Purchase

/-!
# The operations on plans and orders

All that sells subscriptions, one after the other: `SubscriptionOp.step` is one
request, and a request that fails changes nothing. The lemmas say what a
successful request has done to the plans, the orders and the subscriptions;
what it does to tokens, top-ups and settlements is left aside.
-/

namespace HermesToken.Subscription

open Lib Tx Store
open Payment (PaymentMethod PaymentProvider)
open Referral (UserOp applySubscriptionReferralOnOrderSuccessTx)

variable {planID amount userID now : Int} {plan lockedPlan : SubscriptionPlan} {st st' : Store}
  {order : SubscriptionOrder} {cfg : Settings} {tradeNo : String} {fuel : Nat}
  {expectedProvider : PaymentProvider}
  {callback : PaymentCallback} {done : Bool}

inductive SubscriptionOp where
  | createPlan (cfg : Settings) (plan : SubscriptionPlan)
  | updatePlan (cfg : Settings) (id : Int) (plan : SubscriptionPlan)
  | setPlanStatus (id : Int) (enabled : Bool)
  | deletePlan (id : Int)
  | createPending (endpoint : OrderEndpoint) (now userID planID quantity : Int) (tradeNo : String)
  | updatePayment (tradeNo : String) (paymentMoney : ℚ) (paymentCurrency : String)
  | complete (cfg : Settings) (fuel : Nat) (now : Int) (tradeNo : String)
      (callback : PaymentCallback)
  | expire (now : Int) (tradeNo : String) (expectedProvider : PaymentProvider)
  | wallet (cfg : Settings) (fuel : Nat) (now userID planID quantity : Int) (tradeNo : String)
  | balance (cfg : Settings) (now userID planID : Int) (tradeNo : String)
  | bind (cfg : Settings) (now userID planID : Int)
  | user (op : UserOp)

/-- The tables after a successful request. -/
def SubscriptionOp.result (st : Store) : SubscriptionOp → Except SubError Store
  | .createPlan cfg plan => ((adminCreateSubscriptionPlan cfg plan).run st).map (·.2)
  | .updatePlan cfg id plan => ((adminUpdateSubscriptionPlan cfg id plan).run st).map (·.2)
  | .setPlanStatus id enabled => ((adminUpdateSubscriptionPlanStatus id enabled).run st).map (·.2)
  | .deletePlan id => ((adminDeleteSubscriptionPlan id).run st).map (·.2)
  | .createPending endpoint now userID planID quantity tradeNo =>
    ((createPendingSubscriptionOrder endpoint now userID planID quantity tradeNo).run st).map (·.2)
  | .updatePayment tradeNo paymentMoney paymentCurrency =>
    ((updateSubscriptionOrderPaymentAmount tradeNo paymentMoney paymentCurrency).run st).map (·.2)
  | .complete cfg fuel now tradeNo callback =>
    ((completeSubscriptionOrderWithValidation cfg fuel now tradeNo callback).run st).map (·.2)
  | .expire now tradeNo expectedProvider =>
    ((expireSubscriptionOrderTx now tradeNo expectedProvider).run st).map (·.2)
  | .wallet cfg fuel now userID planID quantity tradeNo =>
    ((purchaseSubscriptionWithWallet cfg fuel now userID planID quantity tradeNo).run st).map (·.2)
  | .balance cfg now userID planID tradeNo =>
    ((purchaseSubscriptionWithBalance cfg now userID planID tradeNo).run st).map (·.2)
  | .bind cfg now userID planID => ((adminBindSubscription cfg now userID planID).run st).map (·.2)
  | .user op => .ok (op.step st)

/-- A request that fails changes nothing. -/
def SubscriptionOp.step (st : Store) (op : SubscriptionOp) : Store :=
  match op.result st with
  | .ok st' => st'
  | .error _ => st

/-! ## Stock -/

theorem lockPlan_ok
    (h : (lockSubscriptionPlanForStockTx planID includeDeleted).run st = .ok (plan, st')) :
    st.plan? planID includeDeleted = some plan ∧ st' = st := by
  simp only [lockSubscriptionPlanForStockTx, run_lift_bind_ok, require_ok,
    run_read_bind, run_lift, map_ok, found_ok] at h
  obtain ⟨-, -, row, hrow, h⟩ := h
  cases h
  exact ⟨hrow, rfl⟩

theorem getPlanById_ok
    (h : (getSubscriptionPlanByIdTx planID includeDeleted).run st = .ok (plan, st')) :
    st' = st ∧ plan.id = planID ∧ ∃ row, st.plan? planID includeDeleted = some row ∧
      plan = row.normalizeDefaults := by
  simp only [getSubscriptionPlanByIdTx, run_lift_bind_ok, require_ok, run_read_bind,
    found_ok, run_pure] at h
  obtain ⟨-, -, row, hrow, h⟩ := h
  have hid : row.id = planID := plan?_id hrow
  cases h
  exact ⟨rfl, hid, row, hrow, rfl⟩

/-- What is left for sale, when there is enough of it. -/
theorem le_of_getStockAvailable (hpos : 0 < amount) (h : ¬ plan.getStockAvailable < amount) :
    amount ≤ plan.stockTotal - plan.stockLocked - plan.stockSold := by
  unfold SubscriptionPlan.getStockAvailable at h
  split at h
  · omega
  · dsimp only at h
    split at h <;> omega

def SubscriptionPlan.moved (locked sold : Int) (plan : SubscriptionPlan) : SubscriptionPlan :=
  { plan with stockLocked := plan.stockLocked + locked, stockSold := plan.stockSold + sold }

/-- A sale or a reservation, unless the plan has no limit. The two transactions
differ only in the column they write. -/
theorem takeStock_ok (sold : Bool) (hpos : 0 < amount)
    (h : (if sold then consumeSubscriptionPlanStockDirectTx plan amount
      else reserveSubscriptionPlanStockTx plan amount).run st = .ok (lockedPlan, st')) :
    ∃ row, st.plan? plan.id false = some row ∧
      ((¬ 0 < row.stockTotal ∧ lockedPlan = row ∧ st' = st) ∨
        (0 < row.stockTotal ∧ amount ≤ row.stockTotal - row.stockLocked - row.stockSold ∧
          lockedPlan = row.moved (if sold then 0 else amount) (if sold then amount else 0) ∧
          st' = st.updatePlan plan.id
            (·.moved (if sold then 0 else amount) (if sold then amount else 0)))) := by
  cases sold with
  | true | false =>
    simp only [Bool.false_eq_true, if_true, if_false, consumeSubscriptionPlanStockDirectTx,
      reserveSubscriptionPlanStockTx, if_neg (not_le.mpr hpos)] at h ⊢
    obtain ⟨row, st₁, hlock, hrest⟩ := run_bind_ok.mp h
    obtain ⟨hrow, rfl⟩ := lockPlan_ok hlock
    refine ⟨row, hrow, ?_⟩
    by_cases hlim : 0 < row.stockTotal
    · have hhas : ¬ (!row.hasStockLimit) := by simp [SubscriptionPlan.hasStockLimit, hlim]
      rw [if_neg hhas] at hrest
      simp only [run_lift_bind_ok, require_ok, run_update_bind, run_pure] at hrest
      obtain ⟨-, hroom, hrest⟩ := hrest
      cases hrest
      refine .inr ⟨hlim, le_of_getStockAvailable hpos hroom, by simp [SubscriptionPlan.moved], ?_⟩
      rw [plan?_id hrow]
      exact updatePlan_congr hrow (by simp [SubscriptionPlan.moved])
    · have hhas : (!row.hasStockLimit) := by simp [SubscriptionPlan.hasStockLimit, hlim]
      rw [if_pos hhas] at hrest
      cases hrest
      exact .inl ⟨hlim, rfl, rfl⟩

/-- A sale without a reservation: what it does to the plan. -/
def SoldDirectly (planID amount : Int) (st st' : Store) : Prop :=
  ∃ row, st.plan? planID false = some row ∧
    ((¬ 0 < row.stockTotal ∧ st' = st) ∨
      (0 < row.stockTotal ∧ amount ≤ row.stockTotal - row.stockLocked - row.stockSold ∧
        st' = st.updatePlan planID (·.moved 0 amount)))

theorem SoldDirectly.eq (h : SoldDirectly planID amount st st') :
    st' = { st with plans := st'.plans } := by
  obtain ⟨row, -, ⟨-, rfl⟩ | ⟨-, -, rfl⟩⟩ := h <;> rfl

theorem consumeDirect_ok (hpos : 0 < amount)
    (h : (consumeSubscriptionPlanStockDirectTx plan amount).run st = .ok (lockedPlan, st')) :
    lockedPlan.id = plan.id ∧ SoldDirectly plan.id amount st st' := by
  obtain ⟨row, hrow, htaken⟩ := takeStock_ok true hpos h
  have hid : row.id = plan.id := plan?_id hrow
  rcases htaken with ⟨hlim, rfl, hst⟩ | ⟨hlim, hroom, rfl, hst⟩
  · exact ⟨hid, _, hrow, .inl ⟨hlim, hst⟩⟩
  · exact ⟨hid, row, hrow, .inr ⟨hlim, hroom, hst⟩⟩

/-- The order after its stock was sold or given back. -/
def SubscriptionOrder.withoutStock (order : SubscriptionOrder) : SubscriptionOrder :=
  { order with stockReserved := if order.stockReserved ≤ 0 then order.stockReserved else 0 }

/-- The plan after the stock of an order was sold or given back. -/
def Store.settleStock (st : Store) (order : SubscriptionOrder) (sold : Bool) : Store :=
  if order.stockReserved ≤ 0 then st
  else st.updatePlan order.planId
    (·.moved (-order.stockReserved) (if sold then order.stockReserved else 0))

/-- The statements that settle the stock, and the save of the order that
follows. -/
theorem Store.saveOrder_settled
    (hrow : st.plan? order.planId true = some row) (hpos : ¬ order.stockReserved ≤ 0)
    (hf : f row = row.moved (-order.stockReserved) (if sold then order.stockReserved else 0))
    (hsaved : saved.id = order.id) :
    ((st.updatePlan row.id f).updateOrder order.id fun r =>
      { r with stockReserved := 0 }).saveOrder saved =
      (st.settleStock order sold).saveOrder saved := by
  rw [settleStock, if_neg hpos, plan?_id hrow, updatePlan_congr hrow hf]
  unfold saveOrder updateOrder
  congr 1
  exact saveRow_update (f := fun r : SubscriptionOrder => { r with stockReserved := 0 }) hsaved
    (fun _ => rfl) _

open SubscriptionOrder (withoutStock)

theorem settleReserved_ok (sold : Bool) (hplan : plan.id = order.planId)
    (h : (if sold then consumeReservedSubscriptionOrderStockTx order plan
      else releaseReservedSubscriptionOrderStockTx order plan).run st =
        .ok ((order', plan'), st')) :
    order' = order.withoutStock ∧ plan'.id = order.planId ∧
      subscriptionOwners st' = subscriptionOwners st ∧
      ∀ saved : SubscriptionOrder, saved.id = order.id →
        st'.saveOrder saved = (st.settleStock order sold).saveOrder saved := by
  -- the two transactions differ only in what they write to the plan
  cases sold with
  | true | false =>
    simp only [Bool.false_eq_true, if_true, if_false, consumeReservedSubscriptionOrderStockTx,
      releaseReservedSubscriptionOrderStockTx] at h
    split at h
    · rename_i hnone
      cases h
      refine ⟨?_, hplan, rfl, fun _ _ => ?_⟩
      · simp [withoutStock, hnone]
      · rw [settleStock, if_pos hnone]
    rename_i hpos
    obtain ⟨row, st₁, hlock, hrest⟩ := run_bind_ok.mp h
    obtain ⟨hrow, rfl⟩ := lockPlan_ok hlock
    simp only [clearStockReserved, run_lift_bind_ok, require_ok, run_update_bind, run_pure] at hrest
    obtain ⟨-, -, hrest⟩ := hrest
    cases hrest
    rw [hplan] at hrow
    have hid : row.id = order.planId := plan?_id hrow
    refine ⟨?_, hid, rfl, fun saved hsaved => ?_⟩
    · simp [withoutStock, hpos]
    · exact saveOrder_settled hrow hpos (by simp [SubscriptionPlan.moved, sub_eq_add_neg]) hsaved

/-! ## Plans -/

theorem checkPlanRequest_stockTotal (h : checkPlanRequest cfg plan = .ok request) :
    0 ≤ request.stockTotal ∧ request.stockTotal = plan.stockTotal := by
  simp only [checkPlanRequest, require_seq_ok, return_ok] at h
  obtain ⟨-, -, -, -, hstock, -, -, -, -, rfl⟩ := h
  exact ⟨not_lt.mp hstock, rfl⟩

theorem adminCreateSubscriptionPlan_ok
    (h : (adminCreateSubscriptionPlan cfg plan).run st = .ok ((), st')) :
    ∃ request, 0 ≤ request.stockTotal ∧ st' = st.insertPlan request := by
  simp only [adminCreateSubscriptionPlan, run_lift_bind_ok, run_insert] at h
  obtain ⟨request, hreq, h⟩ := h
  cases h
  exact ⟨request, (checkPlanRequest_stockTotal hreq).1, rfl⟩

theorem prepareStockUpdate_ok
    (h : (prepareSubscriptionPlanStockUpdateTx current nextTotal).run st = .ok (next, st')) :
    st' = st ∧ 0 ≤ nextTotal ∧
      ((next = (0, 0) ∧ current.stockTotal = 0 ∧ nextTotal = 0) ∨
        (next = (0, 0) ∧ reservedStock st.orders current.id ≤ 0 ∧
          (current.stockTotal = 0 ∨ nextTotal = 0)) ∨
        (next = (current.stockLocked, current.stockSold) ∧
          (0 ≤ current.stockTotal → 0 < current.stockTotal ∧ 0 < nextTotal ∧
            current.stockLocked + current.stockSold ≤ nextTotal))) := by
  simp only [prepareSubscriptionPlanStockUpdateTx, sumReservedSubscriptionOrdersByPlanTx,
    run_lift_bind_ok, require_ok] at h
  obtain ⟨-, hnext, h⟩ := h
  obtain ⟨reserved, st₁, hstock, h⟩ := run_bind_ok.mp h
  simp only [run_lift_bind_ok, run_select] at hstock
  obtain ⟨-, -, hstock⟩ := hstock
  cases hstock
  split at h
  · rename_i hfree
    cases h
    exact ⟨rfl, not_lt.mp hnext, .inl ⟨rfl, hfree⟩⟩
  split at h
  · rename_i hflip
    simp only [run_lift_bind_ok, require_ok, run_pure] at h
    obtain ⟨-, hidle, h⟩ := h
    cases h
    exact ⟨rfl, not_lt.mp hnext, .inr (.inl ⟨rfl, not_lt.mp hidle, by omega⟩)⟩
  · simp only [run_lift_bind_ok, require_ok, run_pure] at h
    obtain ⟨-, _, h⟩ := h
    cases h
    exact ⟨rfl, not_lt.mp hnext, .inr (.inr ⟨rfl, fun hnn => by omega⟩)⟩

theorem updatePlan_ok {id} (h : (adminUpdateSubscriptionPlan cfg id plan).run st = .ok ((), st')) :
    ∃ request current next, request.stockTotal = plan.stockTotal ∧
      st.plan? id false = some current ∧
      (prepareSubscriptionPlanStockUpdateTx current request.stockTotal).run st = .ok (next, st) ∧
      st' = st.updatePlan id (updatedPlan request next.1 next.2) := by
  simp only [adminUpdateSubscriptionPlan, run_lift_bind_ok, require_ok, run_read_bind,
    found_ok] at h
  obtain ⟨-, -, request, hreq, current, hcur, h⟩ := h
  obtain ⟨next, st₁, hnext, hrest⟩ := run_bind_ok.mp h
  obtain ⟨rfl, -⟩ := prepareStockUpdate_ok hnext
  cases hrest
  exact ⟨request, current, next, (checkPlanRequest_stockTotal hreq).2, hcur, hnext, rfl⟩

theorem updatePlanStatus_ok {id enabled}
    (h : (adminUpdateSubscriptionPlanStatus id enabled).run st = .ok ((), st')) :
    st' = st.updatePlan id fun row => { row with enabled } := by
  simp only [adminUpdateSubscriptionPlanStatus, run_lift_bind_ok, run_update] at h
  obtain ⟨-, -, h⟩ := h
  cases h
  rfl

theorem adminDeleteSubscriptionPlan_ok
    (h : (adminDeleteSubscriptionPlan planID).run st = .ok ((), st')) :
    st' = st.updatePlan planID fun row => { row with deleted := true } := by
  simp only [adminDeleteSubscriptionPlan, run_lift_bind_ok, run_read_bind, run_update] at h
  obtain ⟨-, -, -, -, h⟩ := h
  cases h
  rfl

/-! ## Orders -/

def stockRows (st : Store) : AutoTable SubscriptionPlan (·.id) × List SubscriptionOrder × Int :=
  (st.plans, st.orders, st.nextOrderID)

theorem stockRows_aside : Aside stockRows :=
  ⟨fun _ _ _ _ => rfl, fun _ _ => rfl, fun _ _ _ => rfl, fun _ _ => rfl, fun _ _ => rfl⟩

theorem stockView_aside : Aside fun st => (stockRows st, subscriptionOwners st) :=
  ⟨fun _ _ _ _ => rfl, fun _ _ => rfl, fun _ _ _ => rfl, fun _ _ => rfl, fun _ _ => rfl⟩

section

variable {γ : Type} {view : Store → γ} {allowed : SubError → Prop}

theorem upsertTopUp_within (ha : Lenient allowed) (h : Aside view) :
    (upsertSubscriptionTopUpTx now order).Within view allowed := by
  refine .bind within_read fun topUp => ?_
  cases topUp with
  | none =>
    refine within_attempt (fun st st' hins => ?_) fun st e he => ?_
    · rw [insertTopUp_ok hins]
      exact h.topUps ..
    unfold insertTopUp at he
    split at he <;> cases he
    exact ha _ nofun
  | some => exact within_update fun st => h.topUps st _ st.nextTopUpID

theorem applySubscriptionReferral_within (ha : Lenient allowed) (h : Aside view) :
    (applySubscriptionReferralOnOrderSuccessTx cfg fuel order plan).Within view allowed :=
  Referral.applyReferralTx_within h.batches h.records
    (fun st id _ => h.users st id _ fun _ => ⟨rfl, rfl, rfl⟩) (ha _ nofun) cfg fuel order plan

theorem chargeBalanceQuotaTx_frames (h : Aside view) :
    (chargeBalanceQuotaTx userID requiredQuota).Frames view :=
  .ite (within_update fun st => h.users st _ _ fun _ => ⟨rfl, rfl, rfl⟩) within_pure

theorem takeWalletQuotaTx_within (ha : Lenient allowed) (h : Aside view) :
    (takeWalletQuotaTx userID requiredQuota).Within view allowed := by
  refine .ite (.bind (within_updateWhere fun st => ?_) fun _ =>
    within_require fun _ => ha _ nofun) within_pure
  exact h.users st _ _ fun _ => ⟨rfl, rfl, rfl⟩

end

/-- The stock is left alone by what follows a sale. -/
theorem upsertTopUp_view (h : (upsertSubscriptionTopUpTx now order).run st = .ok ((), st')) :
    stockRows st' = stockRows st ∧ subscriptionOwners st' = subscriptionOwners st :=
  Prod.mk.inj ((upsertTopUp_within lenient_true stockView_aside).run h)

theorem applySubscriptionReferral_view
    (h : (applySubscriptionReferralOnOrderSuccessTx cfg fuel order plan).run st = .ok (done, st')) :
    stockRows st' = stockRows st ∧ subscriptionOwners st' = subscriptionOwners st :=
  Prod.mk.inj ((applySubscriptionReferral_within lenient_true stockView_aside).run h)

theorem createSubscriptions_stockRows
    (h : (createUserSubscriptions cfg now userID plan source quantity).run st = .ok ((), st')) :
    stockRows st' = stockRows st :=
  (createSubscriptions_within lenient_true stockRows_aside (fun _ _ => rfl) ..).run h

theorem createFromPlan_stockRows
    (h : (createUserSubscriptionFromPlanTx cfg now userID plan source).run st = .ok ((), st')) :
    stockRows st' = stockRows st :=
  (createFromPlan_within lenient_true stockRows_aside (fun _ _ => rfl) ..).run h

theorem checkPurchaseLimitTx_ok
    (h : (checkPurchaseLimitTx userID plan reached).run st = .ok ((), st')) : st' = st :=
  (checkPurchaseLimitTx_within lenient_true .. : Tx.Frames (id : Store → Store) _).run h

/-- **A pending order was created**, and the stock for it is locked. -/
theorem createPending_ok (h : (createPendingSubscriptionOrder endpoint now userID planID quantity
      tradeNo).run st = .ok (lockedPlan, st')) :
    ∃ row st₁, 0 < quantity ∧ st.plan? planID false = some row ∧
      st₁.insertOrder (pendingOrder endpoint now userID quantity tradeNo lockedPlan) = .ok st' ∧
      ((¬ 0 < row.stockTotal ∧ lockedPlan = row ∧ st₁ = st) ∨
        (0 < row.stockTotal ∧ quantity ≤ row.stockTotal - row.stockLocked - row.stockSold ∧
          lockedPlan = row.moved quantity 0 ∧
          st₁ = st.updatePlan planID (·.moved quantity 0))) := by
  simp only [createPendingSubscriptionOrder, run_lift_bind_ok, require_ok,
    run_read_bind, found_ok] at h
  obtain ⟨-, hpos, row, hrow, -, -, h⟩ := h
  obtain ⟨⟨⟩, st₁, hbuy, hrest⟩ := run_bind_ok.mp h
  obtain rfl := checkPurchaseLimitTx_ok hbuy
  obtain ⟨plan, st₂, hresv, hrest⟩ := run_bind_ok.mp hrest
  simp only [run_attempt_bind_ok, run_pure] at hrest
  obtain ⟨st₃, hins, hrest⟩ := hrest
  cases hrest
  obtain ⟨row', hrow', hstock⟩ := takeStock_ok false hpos hresv
  rw [plan?_id hrow] at hrow' hstock
  obtain rfl : row = row' := Option.some.inj (hrow.symm.trans hrow')
  exact ⟨row, st₂, hpos, hrow, hins, hstock⟩

theorem updatePaymentAmount_ok
    (h : (updateSubscriptionOrderPaymentAmount tradeNo paymentMoney paymentCurrency).run st =
      .ok ((), st')) :
    st' = { st with orders := st.orders.map fun order =>
      if order.tradeNo = tradeNo ∧ order.status = .pending then
        { order with
          paymentMoney := paymentMoney
          paymentCurrency := trimSpace (toUpper paymentCurrency) }
      else order } := by
  simp only [updateSubscriptionOrderPaymentAmount, run_lift_bind_ok] at h
  obtain ⟨-, -, -, -, h⟩ := h
  obtain ⟨updated, st₁, hupd, hrest⟩ := run_bind_ok.mp h
  simp only [run_updateWhere, run_lift, map_ok, require_ok] at hupd hrest
  obtain ⟨⟨⟩, hfind, hrest⟩ := hrest
  cases hrest
  cases hupd
  rw [if_pos hfind]

theorem loadOrderTx_ok (h : (loadOrderTx tradeNo expectedProvider).run st = .ok (order, st')) :
    st.order? tradeNo = some order ∧ st' = st := by
  simp only [loadOrderTx, run_lift_bind_ok, run_read_bind, found_ok, run_pure] at h
  obtain ⟨-, -, row, hrow, -, -, h⟩ := h
  cases h
  exact ⟨hrow, rfl⟩

def paidOrder (now : Int) (callback : PaymentCallback) (order : SubscriptionOrder) :
    SubscriptionOrder :=
  (order.withPayment callback.verification callback.actualMethod).withoutStock.completed now
    callback.providerPayload

def expiredOrder (now : Int) (order : SubscriptionOrder) : SubscriptionOrder :=
  { order.withoutStock with status := .expired, completeTime := now }

theorem stockRows_saveOrder (h : stockRows st' = stockRows st) :
    stockRows (st'.saveOrder order) = stockRows (st.saveOrder order) := by
  simp only [stockRows, Prod.mk.injEq] at h
  simp only [stockRows, saveOrder, h]

/-- **A pending order was completed**: its stock is sold and its subscriptions
are there. -/
theorem completePendingOrderTx_ok
    (h : (completePendingOrderTx cfg fuel now callback order).run st = .ok ((), st')) :
    stockRows st' =
        stockRows ((st.settleStock order true).saveOrder (paidOrder now callback order)) ∧
      subscriptionOwners st' = subscriptionOwners st ++
        List.replicate order.subscriptionCount (order.userId, order.planId) := by
  obtain ⟨plan, st₁, hplan, hrest⟩ := run_bind_ok.mp h
  obtain ⟨rfl, hid, -⟩ := getPlanById_ok hplan
  have hplanI : plan.id =
    (order.withPayment callback.verification callback.actualMethod).planId := hid
  obtain ⟨-, -, hrest⟩ := run_lift_bind_ok.mp hrest
  obtain ⟨⟨order', plan'⟩, st₂, hcons, hrest⟩ := run_bind_ok.mp hrest
  obtain ⟨rfl, hid, howns, hsave⟩ := settleReserved_ok true hplanI hcons
  obtain ⟨⟨⟩, st₃, hgrant, hrest⟩ := run_bind_ok.mp hrest
  obtain ⟨⟨⟩, st₄, htopUp, hrest⟩ := run_bind_ok.mp hrest
  rw [run_update_bind] at hrest
  obtain ⟨done, st₅, href, hrest⟩ := run_bind_ok.mp hrest
  cases hrest
  obtain ⟨hrows₅, howns₅⟩ := applySubscriptionReferral_view href
  obtain ⟨hrows₄, howns₄⟩ := upsertTopUp_view htopUp
  constructor
  · have hrows₃ := createSubscriptions_stockRows hgrant
    rw [hrows₅, stockRows_saveOrder (hrows₄.trans hrows₃), hsave]
    · rfl
    · rfl
  · refine (howns₅.trans howns₄).trans ?_
    rw [createSubscriptions_owners hgrant, howns, hid]
    rfl

theorem completeOrder_ok
    (h : (completeSubscriptionOrderWithValidation cfg fuel now tradeNo callback).run st =
      .ok (done, st')) :
    ∃ order, st.order? tradeNo = some order ∧
      ((done = false ∧ st' = st) ∨ (done ∧ order.status = .pending ∧
        (completePendingOrderTx cfg fuel now callback order).run st = .ok ((), st'))) := by
  obtain ⟨order, st₁, hload, hrest⟩ := run_bind_ok.mp h
  obtain ⟨hord, rfl⟩ := loadOrderTx_ok hload
  refine ⟨order, hord, ?_⟩
  split at hrest
  · cases hrest
    exact .inl ⟨rfl, rfl⟩
  simp only [run_lift_bind_ok, require_ok] at hrest
  obtain ⟨-, hpend, hrest⟩ := hrest
  obtain ⟨⟨⟩, st₂, hcomp, hrest⟩ := run_bind_ok.mp hrest
  cases hrest
  exact .inr ⟨rfl, hpend, hcomp⟩

/-- **An order expired**: its stock is given back. -/
theorem expireOrder_ok
    (h : (expireSubscriptionOrderTx now tradeNo expectedProvider).run st = .ok (done, st')) :
    ∃ order, st.order? tradeNo = some order ∧
      ((done = false ∧ st' = st) ∨ (done ∧ order.status = .pending ∧
        st' = (st.settleStock order false).saveOrder (expiredOrder now order))) := by
  obtain ⟨order, st₁, hload, hrest⟩ := run_bind_ok.mp h
  obtain ⟨hord, rfl⟩ := loadOrderTx_ok hload
  refine ⟨order, hord, ?_⟩
  split at hrest
  · cases hrest
    exact .inl ⟨rfl, rfl⟩
  rename_i hpend
  obtain ⟨order', st₂, hrel, hrest⟩ := run_bind_ok.mp hrest
  cases hrest
  refine .inr ⟨rfl, not_not.mp hpend, ?_⟩
  unfold releaseOrderStockTx at hrel
  split at hrel
  · obtain ⟨plan, st₃, hplan, hfree⟩ := run_bind_ok.mp hrel
    obtain ⟨rfl, hplanI, -⟩ := getPlanById_ok hplan
    obtain ⟨⟨order₂, plan₂⟩, st₄, hstock, hret⟩ := run_bind_ok.mp hfree
    cases hret
    obtain ⟨rfl, -, -, hsave⟩ := settleReserved_ok false hplanI hstock
    exact hsave _ rfl
  · rename_i hnone
    cases hrel
    rw [settleStock, if_pos (not_lt.mp hnone), expiredOrder, withoutStock, if_pos (not_lt.mp hnone)]

/-! ## Purchases without a payment -/

theorem stockRows_insertOrder (h : stockRows st₁ = stockRows st)
    (hins : st₁.insertOrder order = .ok st') :
    st.order? order.tradeNo = none ∧ stockRows st' = (st.plans,
      st.orders ++ [{ order with id := st.nextOrderID }], st.nextOrderID + 1) := by
  simp only [stockRows, Prod.mk.injEq] at h
  obtain ⟨hnone, rfl⟩ := insertOrder_ok hins
  simp only [order?, h] at hnone
  exact ⟨hnone, by simp only [stockRows, h]⟩

/-- **A purchase from the wallet**: a direct sale of the whole quantity. -/
theorem purchaseByWallet_ok
    (h : (purchaseSubscriptionWithWallet cfg fuel now userID planID quantity tradeNo).run st =
      .ok (result, st')) :
    0 < quantity ∧ ∃ st₁ lockedPlan, SoldDirectly planID quantity st st₁ ∧
      lockedPlan.id = planID ∧
      stockRows st' = (st₁.plans, st.orders ++
        [{ walletOrder now userID quantity tradeNo lockedPlan with id := st.nextOrderID }],
        st.nextOrderID + 1) ∧
      subscriptionOwners st' =
        subscriptionOwners st ++ List.replicate quantity.toNat (userID, planID) := by
  simp only [purchaseSubscriptionWithWallet, run_lift_bind_ok, require_ok] at h
  obtain ⟨-, _, h⟩ := h
  have hpos : 0 < quantity := by omega
  obtain ⟨plan, st₁, hlock, hrest⟩ := run_bind_ok.mp h
  obtain ⟨hplan, rfl⟩ := lockPlan_ok hlock
  simp only [run_lift_bind_ok] at hrest
  obtain ⟨-, -, -, -, hrest⟩ := hrest
  obtain ⟨⟨⟩, st₂, hbuy, hpaid⟩ := run_bind_ok.mp hrest
  obtain rfl := checkPurchaseLimitTx_ok hbuy
  simp only [run_lift_bind_ok, run_select_bind] at hpaid
  obtain ⟨requiredQuota, -, user, -, -, -, hrest⟩ := hpaid
  obtain ⟨lockedPlan, st₃, hdir, hrest⟩ := run_bind_ok.mp hrest
  obtain ⟨hid, hsold⟩ := consumeDirect_ok hpos hdir
  obtain ⟨⟨⟩, st₄, hquo, hrest⟩ := run_bind_ok.mp hrest
  rw [run_select_bind] at hrest
  obtain ⟨st₅, hins, hrest⟩ := run_attempt_bind_ok.mp hrest
  obtain ⟨⟨⟩, st₆, hgrant, hrest⟩ := run_bind_ok.mp hrest
  obtain ⟨⟨⟩, st₇, htopUp, hrest⟩ := run_bind_ok.mp hrest
  obtain ⟨done, st₈, href, hrest⟩ := run_bind_ok.mp hrest
  cases hrest
  rw [plan?_id hplan] at hid hsold
  obtain ⟨hrows₄, howns₄⟩ := Prod.mk.inj
    ((takeWalletQuotaTx_within lenient_true stockView_aside).run hquo)
  obtain ⟨hrows₇, howns₇⟩ := upsertTopUp_view htopUp
  obtain ⟨hrows₈, howns₈⟩ := applySubscriptionReferral_view href
  refine ⟨hpos, st₃, lockedPlan, hsold, hid, ?_, ?_⟩
  · rw [hrows₈, hrows₇, createSubscriptions_stockRows hgrant,
      (stockRows_insertOrder hrows₄ hins).2, hsold.eq]
  have howns₃ : subscriptionOwners st₃ = subscriptionOwners st₂ := by
    rw [hsold.eq]
    rfl
  obtain ⟨-, rfl⟩ := insertOrder_ok hins
  rw [howns₈, howns₇, createSubscriptions_owners hgrant, hid, ← howns₃, ← howns₄]
  rfl

/-- The plan is sold from the balance. -/
def balancePay (st : Store) (planID : Int) : Bool :=
  (st.plan? planID false).any fun plan => plan.enabled && plan.allowBalancePay.getD true

/-- **A purchase from the balance** does not look at the stock. -/
theorem purchaseByBalance_ok
    (h : (purchaseSubscriptionWithBalance cfg now userID planID tradeNo).run st = .ok ((), st')) :
    ∃ plan requiredQuota, plan.id = planID ∧ balancePay st planID ∧
      stockRows st' = (st.plans, st.orders ++
        [{ balanceOrder now userID requiredQuota tradeNo plan with id := st.nextOrderID }],
        st.nextOrderID + 1) ∧
      subscriptionOwners st' = subscriptionOwners st ++ [(userID, planID)] := by
  simp only [purchaseSubscriptionWithBalance, run_lift_bind_ok] at h
  obtain ⟨-, -, h⟩ := h
  obtain ⟨plan, st₁, hplan, hrest⟩ := run_bind_ok.mp h
  obtain ⟨rfl, hid, row, hrow, hdef⟩ := getPlanById_ok hplan
  simp only [run_lift_bind_ok, run_select_bind, require_ok] at hrest
  obtain ⟨-, hon, -, -, -, hpay, requiredQuota, -, user, -, -, -, hrest⟩ := hrest
  have hbal : balancePay st₁ planID := by
    subst hdef
    simpa [balancePay, hrow, SubscriptionPlan.normalizeDefaults] using And.intro hon hpay
  obtain ⟨⟨⟩, st₂, hquo, hrest⟩ := run_bind_ok.mp hrest
  obtain ⟨⟨⟩, st₃, hgrant, hrest⟩ := run_bind_ok.mp hrest
  simp only [run_attempt, map_ok] at hrest
  obtain ⟨st₄, hins, hrest⟩ := hrest
  cases hrest
  obtain ⟨hrows₂, howns₂⟩ :=
    Prod.mk.inj ((chargeBalanceQuotaTx_frames stockView_aside).run hquo)
  refine ⟨plan, requiredQuota, hid, hbal, ?_, ?_⟩
  · have hrows₃ := createFromPlan_stockRows hgrant
    exact (stockRows_insertOrder (hrows₃.trans hrows₂) hins).2
  obtain ⟨-, rfl⟩ := insertOrder_ok hins
  have howns := createFromPlan_owners hgrant
  rw [howns₂, hid] at howns
  exact howns

/-- **A binding** is a direct sale of one. -/
theorem adminBindSubscription_ok
    (h : (adminBindSubscription cfg now userID planID).run st = .ok ((), st')) :
    ∃ st₁, SoldDirectly planID 1 st st₁ ∧
      stockRows st' = (st₁.plans, st.orders, st.nextOrderID) ∧
      subscriptionOwners st' = subscriptionOwners st ++ [(userID, planID)] := by
  simp only [adminBindSubscription, run_lift_bind_ok, run_read_bind, found_ok] at h
  obtain ⟨-, -, plan, hplan, h⟩ := h
  obtain ⟨lockedPlan, st₁, hdir, hgrant⟩ := run_bind_ok.mp h
  obtain ⟨hid, hsold⟩ := consumeDirect_ok Int.one_pos hdir
  rw [plan?_id hplan] at hid hsold
  refine ⟨st₁, hsold, ?_, ?_⟩
  · rw [createFromPlan_stockRows hgrant, hsold.eq]
    rfl
  · rw [createFromPlan_owners hgrant, hid, hsold.eq]
    rfl

/-- A server whose months have thirty days. -/
def sampleSettings : Settings where
  quotaPerUnit := 500000
  calendar := {
    addYears := fun start years => start + years * 31536000
    addMonths := fun start months => start + months * 2592000
    nextDay := fun base => (base / 86400 + 1) * 86400
    nextMonday := fun base => (base / 604800 + 1) * 604800
    nextMonth := fun base => (base / 2592000 + 1) * 2592000 }

end HermesToken.Subscription
