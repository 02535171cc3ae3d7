import HermesToken.Subscription.Stock

/-!
# The ledger of the stock

What is locked of a plan is what its pending orders hold, so that no request
finds the counters inconsistent.
-/

namespace HermesToken.Subscription

open Lib Tx Store Tx.Raises SubscriptionOrder SubscriptionOp List
open Payment (PaymentProvider)

variable {st st' : Store} {planID userID now : Int} {plan : SubscriptionPlan}
  {order : SubscriptionOrder} {cfg : Settings} {tradeNo : String} {op : SubscriptionOp}
  {e : SubError}

/-- Any error but that of an inconsistent stock. -/
def NotStock (e : SubError) : Prop := e ≠ .stockInvariant

section

theorem lenient_notStock : Lenient NotStock := fun _ h => h

theorem aside_unit : Aside fun _ => () :=
  ⟨fun _ _ _ _ => rfl, fun _ _ => rfl, fun _ _ _ => rfl, fun _ _ => rfl, fun _ _ => rfl⟩

theorem lockPlan_raises : (lockSubscriptionPlanForStockTx planID includeDeleted).Raises NotStock :=
  .require nofun <| .bind within_read fun _ =>
    within_found nofun

theorem getPlanById_raises : (getSubscriptionPlanByIdTx planID includeDeleted).Raises NotStock :=
  .require nofun <| .bind within_read fun _ =>
    .bind (within_found nofun) fun _ => within_pure

theorem reserveStock_raises : (reserveSubscriptionPlanStockTx plan amount).Raises NotStock := by
  refine .ite within_pure (.bind lockPlan_raises fun _ => ?_)
  refine .ite within_pure (.require nofun ?_)
  exact .bind (within_update fun _ => rfl) fun _ => within_pure

theorem consumeDirect_raises :
    (consumeSubscriptionPlanStockDirectTx plan amount).Raises NotStock := by
  refine .ite within_pure (.bind lockPlan_raises fun _ => ?_)
  refine .ite within_pure (.require nofun ?_)
  exact .bind (within_update fun _ => rfl) fun _ => within_pure

theorem raises_insertOrder :
    (attempt lock fun st : Store => st.insertOrder order).Raises NotStock := by
  refine within_attempt (fun _ _ _ => rfl) fun st e he => ?_
  unfold insertOrder at he
  split at he <;> cases he
  nofun

section

variable (cfg)

theorem checkPlanRequest_errorsIn (plan : SubscriptionPlan) :
    ErrorsIn NotStock (checkPlanRequest cfg plan) := by
  unfold checkPlanRequest
  iterate 9 refine errorsIn_require_seq (fun _ => nofun) ?_
  exact errorsIn_pure

theorem validate_errorsIn (endpoint : OrderEndpoint) (plan : SubscriptionPlan) :
    ErrorsIn NotStock (endpoint.validate plan) := by
  refine errorsIn_require_seq (fun _ => nofun) ?_
  cases endpoint <;> exact errorsIn_require fun _ => nofun

theorem validatePayment_errorsIn :
    ErrorsIn NotStock (validateSubscriptionOrderPayment order plan verification) := by
  cases verification with
  | none => exact errorsIn_pure
  | some verification =>
  refine errorsIn_require_seq (fun _ => nofun) (errorsIn_require_seq (fun _ => nofun) ?_)
  refine errorsIn_seq ?_ fun _ => errorsIn_seq (errorsIn_require fun _ => nofun) fun _ => ?_
  · cases verification.paidMoney with
    | absent => exact errorsIn_pure
    | invalid => exact errorsIn_error nofun
    | value => exact errorsIn_require fun _ => nofun
  · exact errorsIn_require fun _ => nofun

theorem createPending_raises {endpoint now userID planID quantity tradeNo} :
    (createPendingSubscriptionOrder endpoint now userID planID quantity tradeNo).Raises
      NotStock := by
  refine .require nofun <| .bind within_read fun _ => ?_
  refine .bind (within_found nofun) fun plan => ?_
  refine .bind (within_lift (validate_errorsIn endpoint plan)) fun _ => ?_
  refine .bind (checkPurchaseLimitTx_within lenient_notStock) fun _ => ?_
  refine .bind reserveStock_raises fun _ => ?_
  exact .bind raises_insertOrder fun _ => within_pure

theorem walletQuota_errorsIn (orderTotal : ℚ) :
    ErrorsIn NotStock (calculateSubscriptionWalletPaymentQuota cfg orderTotal) := by
  refine errorsIn_require_seq (fun _ => nofun) ?_
  dsimp only
  split
  · exact errorsIn_pure
  · exact errorsIn_require_seq (fun _ => nofun) errorsIn_pure

theorem calcSubscriptionBalanceQuota_errorsIn (priceAmount : ℚ) :
    ErrorsIn NotStock (calcSubscriptionBalanceQuota cfg priceAmount) := by
  unfold calcSubscriptionBalanceQuota
  split
  · exact errorsIn_pure
  · exact errorsIn_require_seq (fun _ h => by cases h) errorsIn_pure

theorem purchaseByWallet_raises {fuel now userID planID quantity tradeNo} :
    (purchaseSubscriptionWithWallet cfg fuel now userID planID quantity tradeNo).Raises
      NotStock := by
  refine .require nofun ?_
  refine .bind lockPlan_raises fun plan => ?_
  refine .require nofun ?_
  refine .require nofun ?_
  refine .bind (checkPurchaseLimitTx_within lenient_notStock) fun _ => ?_
  refine .bind (within_lift (walletQuota_errorsIn _ _)) fun _ => ?_
  refine .bind within_select fun _ => .bind (within_found nofun) fun _ => ?_
  refine .require nofun ?_
  refine .bind consumeDirect_raises fun _ => .bind ?_ fun _ => ?_
  · exact takeWalletQuotaTx_within lenient_notStock aside_unit
  refine .bind within_select fun _ => .bind raises_insertOrder fun _ => ?_
  refine .bind (createSubscriptions_within lenient_notStock aside_unit (fun _ _ => rfl) ..)
    fun _ => ?_
  refine .bind (upsertTopUp_within lenient_notStock aside_unit) fun _ => ?_
  exact .bind (applySubscriptionReferral_within lenient_notStock aside_unit) fun _ =>
    within_pure

theorem createPlan_raises : (adminCreateSubscriptionPlan cfg plan).Raises NotStock :=
  .bind (within_lift (checkPlanRequest_errorsIn cfg plan)) fun _ => within_insert fun _ => rfl

theorem setPlanStatus_raises (planID : Int) (on : Bool) :
    (adminUpdateSubscriptionPlanStatus planID on).Raises NotStock :=
  .require nofun <| within_update fun _ => rfl

theorem deletePlan_raises (planID : Int) :
    (adminDeleteSubscriptionPlan planID).Raises NotStock := by
  refine .require nofun <| .bind within_read fun _ => ?_
  exact .bind (within_found nofun) fun _ => within_update fun _ => rfl

theorem updatePayment_raises (tradeNo : String) (amount : ℚ) (currency : String) :
    (updateSubscriptionOrderPaymentAmount tradeNo amount currency).Raises NotStock := by
  refine .require nofun ?_
  refine .require nofun ?_
  exact .bind (within_updateWhere fun _ => rfl) fun _ => within_require fun _ => nofun

theorem purchaseByBalance_raises :
    (purchaseSubscriptionWithBalance cfg now userID planID tradeNo).Raises NotStock := by
  refine .require nofun ?_
  refine .bind getPlanById_raises fun plan => ?_
  refine .require nofun ?_
  refine .require nofun ?_
  refine .require nofun ?_
  refine .bind (within_lift (calcSubscriptionBalanceQuota_errorsIn _ _)) fun _ => ?_
  refine .bind within_select fun _ => .bind (within_found nofun) fun _ => ?_
  refine .require nofun ?_
  refine .bind (.ite (within_update fun _ => rfl) within_pure) fun _ => ?_
  exact .bind (createFromPlan_within lenient_notStock aside_unit
    (fun _ _ => rfl) ..) fun _ =>
    raises_insertOrder

theorem adminBindSubscription_raises :
    (adminBindSubscription cfg now userID planID).Raises NotStock := by
  refine .require nofun <| .bind within_read fun _ => ?_
  refine .bind (within_found nofun) fun _ => ?_
  exact .bind consumeDirect_raises fun _ =>
    createFromPlan_within lenient_notStock aside_unit (fun _ _ => rfl) ..

theorem updatePlan_raises (id : Int) (plan : SubscriptionPlan) :
    (adminUpdateSubscriptionPlan cfg id plan).Raises NotStock := by
  refine .require nofun ?_
  refine .bind (within_lift (checkPlanRequest_errorsIn cfg plan)) fun request => ?_
  refine .bind within_read fun _ => .bind (within_found nofun) fun current => ?_
  refine .bind ?_ fun next => within_update fun _ => rfl
  refine .require nofun <| .bind ?_ fun reserved => ?_
  · exact .require nofun within_select
  refine .ite within_pure (.ite ?_ ?_)
  · exact .require nofun within_pure
  · exact .require nofun within_pure

end

theorem loadOrderTx_raises : (loadOrderTx tradeNo expectedProvider).Raises NotStock :=
  .require nofun <| .bind within_read fun _ =>
    .bind (within_found nofun) fun _ => .require nofun <| within_pure

theorem StockLedger.covers (h : StockLedger st) (hord : order ∈ st.orders)
    (hpend : order.status = .pending) (hplan : st.plan? order.planId true = some plan) :
    order.stockReserved ≤ plan.stockLocked := by
  obtain ⟨hget, -⟩ := plan?_eq_some hplan
  have hsnd := h.shelves order.planId _ (shelf_of_get hget)
  have hheld : order.held ≤ heldStock st.orders order.planId :=
    le_keyedSum (fun o ho _ => (h.rows.sound o ho).held_nonneg) hord rfl
  rw [held, if_pos hpend] at hheld
  exact hheld.trans hsnd.covers

variable {st : Store} (h : StockLedger st) {order : SubscriptionOrder} (hord : order ∈ st.orders)
  (hpend : order.status = .pending)
include h hord hpend

theorem lockOrderPlan_succeeds : ∃ plan, st.plan? order.planId true = some plan ∧
    order.stockReserved ≤ plan.stockLocked ∧
    (lockSubscriptionPlanForStockTx order.planId true).run st = .ok (plan, st) := by
  obtain ⟨plan, hget⟩ := Option.isSome_iff_exists.mp (h.rows.orderPlan order hord)
  have hplan : st.plan? order.planId true = some plan := by
    rw [plan?, hget]
    rfl
  refine ⟨plan, hplan, h.covers hord hpend hplan, ?_⟩
  unfold lockSubscriptionPlanForStockTx
  rw [run_lift_bind_ok]
  refine ⟨(), require_ok.mpr (st.plans.inRange hget).1, ?_⟩
  rw [run_read_bind, run_lift, hplan]
  rfl

theorem consumeReserved_succeeds (order' : SubscriptionOrder)
    (hstock : order'.stockReserved = order.stockReserved) (hplan : plan.id = order.planId) :
    ∃ r st', (consumeReservedSubscriptionOrderStockTx order' plan).run st = .ok (r, st') := by
  unfold consumeReservedSubscriptionOrderStockTx
  split
  · exact ⟨_, _, rfl⟩
  obtain ⟨row, -, hcov, hlock⟩ := lockOrderPlan_succeeds h hord hpend
  rw [hplan, run_bind_of_ok hlock]
  refine ⟨_, _, run_lift_bind_ok.mpr ⟨(), require_ok.mpr ?_, rfl⟩⟩
  rw [hstock]
  exact not_lt.mpr hcov

theorem getOrderPlan_succeeds : ∃ plan, plan.id = order.planId ∧
    (getSubscriptionPlanByIdTx order.planId true).run st = .ok (plan, st) := by
  obtain ⟨row, hrow, -, -⟩ := lockOrderPlan_succeeds h hord hpend
  have hid : row.id = order.planId := plan?_id hrow
  refine ⟨row.normalizeDefaults, hid, ?_⟩
  unfold getSubscriptionPlanByIdTx
  rw [run_lift_bind_ok]
  refine ⟨(), require_ok.mpr (st.plans.inRange (plan?_eq_some hrow).1).1, ?_⟩
  rw [run_read_bind, hrow]
  rfl

theorem releaseReserved_succeeds (hplan : plan.id = order.planId) :
    ∃ r st', (releaseReservedSubscriptionOrderStockTx order plan).run st = .ok (r, st') := by
  unfold releaseReservedSubscriptionOrderStockTx
  split
  · exact ⟨_, _, rfl⟩
  obtain ⟨row, -, hcov, hlock⟩ := lockOrderPlan_succeeds h hord hpend
  rw [hplan, run_bind_of_ok hlock]
  exact ⟨_, _, run_lift_bind_ok.mpr ⟨(), require_ok.mpr (not_lt.mpr hcov), rfl⟩⟩

theorem releaseOrderStock_succeeds :
    ∃ r st', (releaseOrderStockTx order).run st = .ok (r, st') := by
  unfold releaseOrderStockTx
  split
  · obtain ⟨plan, hid, hplan⟩ := getOrderPlan_succeeds h hord hpend
    obtain ⟨r, st', hrel⟩ := releaseReserved_succeeds h hord hpend hid
    rw [run_bind_of_ok hplan, run_bind_of_ok hrel]
    exact ⟨_, _, rfl⟩
  · exact ⟨_, _, rfl⟩

theorem completePendingOrderTx_error
    (hrun : (completePendingOrderTx cfg fuel now callback order).run st = .error e) :
    NotStock e := by
  rcases run_bind_error hrun with hplan | ⟨plan, st₁, hplan, hrest⟩
  · exact getPlanById_raises.run hplan
  obtain ⟨rfl, hid, -⟩ := getPlanById_ok hplan
  rcases run_bind_error hrest with hvalid | ⟨⟨⟩, st₂, hvalid, hcons⟩
  · exact run (within_lift validatePayment_errorsIn) hvalid
  obtain ⟨u, -, hst₂⟩ := map_ok.mp ((run_lift _ _).symm.trans hvalid)
  cases hst₂
  rcases run_bind_error hcons with hspent | ⟨⟨order', plan'⟩, st₃, -, hrest⟩
  · obtain ⟨r, st', hok⟩ := consumeReserved_succeeds h hord hpend
      (order.withPayment callback.verification callback.actualMethod) rfl hid
    cases hok.symm.trans hspent
  refine run ?_ hrest
  refine .bind (createSubscriptions_within lenient_notStock aside_unit (fun _ _ => rfl) ..)
    fun _ => ?_
  refine .bind (upsertTopUp_within lenient_notStock aside_unit) fun _ => ?_
  refine .bind (within_update fun _ => rfl) fun _ => ?_
  exact .bind (applySubscriptionReferral_within lenient_notStock aside_unit) fun _ =>
    within_pure

omit hord hpend in
theorem completeOrder_error
    (hrun : (completeSubscriptionOrderWithValidation cfg fuel now tradeNo callback).run st =
      .error e) : NotStock e := by
  rcases run_bind_error hrun with hload | ⟨order, st₁, hload, hrest⟩
  · exact loadOrderTx_raises.run hload
  obtain ⟨hord, rfl⟩ := loadOrderTx_ok hload
  split at hrest
  · cases hrest
  rcases run_bind_error hrest with hstat | ⟨⟨⟩, st₂, hstat, hpaid⟩
  · exact run (within_require fun _ h => by cases h) hstat
  rw [run_lift, map_ok] at hstat
  obtain ⟨⟨⟩, hpend, hst₂⟩ := hstat
  cases hst₂
  rcases run_bind_error hpaid with hcomp | ⟨⟨⟩, st₃, -, hret⟩
  · exact completePendingOrderTx_error h (order?_mem hord) (require_ok.mp hpend) hcomp
  · cases hret

omit hord hpend in
theorem expireOrder_error
    (hrun : (expireSubscriptionOrderTx now tradeNo expectedProvider).run st = .error e) :
    NotStock e := by
  rcases run_bind_error hrun with hload | ⟨order, st₁, hload, hrest⟩
  · exact loadOrderTx_raises.run hload
  obtain ⟨hord, rfl⟩ := loadOrderTx_ok hload
  split at hrest
  · cases hrest
  rename_i hpend
  obtain ⟨r, st', hok⟩ :=
    releaseOrderStock_succeeds h (order?_mem hord) (not_not.mp hpend)
  rcases run_bind_error hrest with hrel | ⟨order', st₂, -, hsave⟩
  · cases hok.symm.trans hrel
  · cases hsave

end

/-- **The stock never turns out to be inconsistent.** -/
theorem SubscriptionOp.result_notStock (h : StockLedger st) (hres : op.result st = .error e) :
    NotStock e := by
  cases op <;> rw [SubscriptionOp.result] at hres
  case user => cases hres
  case createPlan => exact (createPlan_raises ..).run (map_error_iff.mp hres)
  case updatePlan cfg id plan =>
    exact (updatePlan_raises cfg id plan).run (map_error_iff.mp hres)
  case setPlanStatus id enabled =>
    exact (setPlanStatus_raises id enabled).run (map_error_iff.mp hres)
  case deletePlan id => exact (deletePlan_raises id).run (map_error_iff.mp hres)
  case createPending =>
    exact createPending_raises.run (map_error_iff.mp hres)
  case updatePayment tradeNo amount currency =>
    exact (updatePayment_raises tradeNo amount currency).run (map_error_iff.mp hres)
  case complete =>
    exact completeOrder_error h (map_error_iff.mp hres)
  case expire =>
    exact expireOrder_error h (map_error_iff.mp hres)
  case wallet =>
    exact (purchaseByWallet_raises ..).run (map_error_iff.mp hres)
  case balance =>
    exact (purchaseByBalance_raises ..).run (map_error_iff.mp hres)
  case bind =>
    exact (adminBindSubscription_raises ..).run (map_error_iff.mp hres)

/-! ## The result -/

def pendingReserved (orders : List SubscriptionOrder) (planID : Int) : Int :=
  ((orders.filter fun order => order.planId = planID && order.status = .pending).map
    (·.stockReserved)).sum

theorem heldStock_eq_pendingReserved (orders : List SubscriptionOrder) (planID : Int) :
    heldStock orders planID = pendingReserved orders planID := by
  have hval : ∀ order ∈ orders, order.held =
      if decide (order.status = .pending) = true then order.stockReserved else 0 := by
    intro order _
    simp [held]
  rw [heldStock, keyedSum_congr_val hval, keyedSum_ite]
  rfl

/-- **The stock ledger.** After any requests, what is locked of a plan is what
its pending orders have reserved, a limited plan has not promised and sold more
than its total, and no request can find the stock inconsistent. -/
theorem subscription_stock_ledger (base : Store) (acts : List SubscriptionOp) :
    (∀ k plan, (exec step (unsold base) acts).plan? k false = some plan →
      plan.stockLocked =
          pendingReserved (exec step (unsold base) acts).orders k ∧
        (0 < plan.stockTotal → plan.stockLocked + plan.stockSold ≤ plan.stockTotal)) ∧
      ∀ op : SubscriptionOp, op.result (exec step (unsold base) acts) ≠ .error .stockInvariant := by
  have hledger : StockLedger (exec step (unsold base) acts) :=
    exec_invariant StockLedger (fun _ op h => h.step op) (.unsold base) acts
  refine ⟨fun k plan hplan => ?_, fun op hop => op.result_notStock hledger hop rfl⟩
  obtain ⟨hget, hon⟩ := plan?_eq_some hplan
  have hdeleted : plan.deleted = false := by simpa using hon
  have hsound := hledger.shelves k _ (shelf_of_get hget)
  refine ⟨?_, hsound.fits hdeleted⟩
  rw [← heldStock_eq_pendingReserved]
  exact hsound.locked hdeleted

end HermesToken.Subscription
