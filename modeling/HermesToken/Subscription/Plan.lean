import HermesToken.Subscription.Store

/-!
# Plans and their stock

The stock of a plan (`model/subscription.go`) and what administrators do with
plans (`controller/subscription.go`). A plan with a total has `stockLocked` of
it reserved for pending orders and `stockSold` of it sold. Every change is an
UPDATE with the new values, computed from a SELECT before it.
-/

namespace HermesToken.Subscription

open Lib SubError

/-! ## Lookups -/

def SubscriptionPlan.hasStockLimit (plan : SubscriptionPlan) : Bool := decide (0 < plan.stockTotal)

def SubscriptionPlan.getStockAvailable (plan : SubscriptionPlan) : Int :=
  if plan.stockTotal ≤ 0 then 0
  else
    let available := plan.stockTotal - plan.stockLocked - plan.stockSold
    if available < 0 then 0 else available

def SubscriptionPlan.normalizeDefaults (plan : SubscriptionPlan) : SubscriptionPlan := { plan with
  allowBalancePay := some (plan.allowBalancePay.getD true)
  allowWalletOverflow := some (plan.allowWalletOverflow.getD true) }

def lockSubscriptionPlanForStockTx (planID : Int) (includeDeleted : Bool) :
    SubTx SubscriptionPlan := do
  require (0 < planID) (text "invalid plan id")
  let row ← Tx.read (.plan planID) fun st => st.plan? planID includeDeleted
  found row recordNotFound

def getSubscriptionPlanByIdTx (id : Int) (includeDeleted : Bool) : SubTx SubscriptionPlan := do
  require (0 < id) (text "invalid plan id")
  let row ← Tx.read (.plan id) fun st => st.plan? id includeDeleted
  let plan ← found row recordNotFound
  return plan.normalizeDefaults

/-! ## Stock -/

def reserveSubscriptionPlanStockTx (plan : SubscriptionPlan) (amount : Int) :
    SubTx SubscriptionPlan := do
  if amount ≤ 0 then return plan
  else
    let lockedPlan ← lockSubscriptionPlanForStockTx plan.id false
    if !lockedPlan.hasStockLimit then return lockedPlan
    else
      require (¬ lockedPlan.getStockAvailable < amount) outOfStock
      let lockedPlan := { lockedPlan with stockLocked := lockedPlan.stockLocked + amount }
      Tx.update (.plan lockedPlan.id) fun st => st.updatePlan lockedPlan.id fun row =>
        { row with stockLocked := lockedPlan.stockLocked }
      return lockedPlan

def clearStockReserved (order : SubscriptionOrder) : SubTx Unit :=
  Tx.update (.order order.tradeNo) fun st => st.updateOrder order.id fun row =>
    { row with stockReserved := 0 }

def releaseReservedSubscriptionOrderStockTx (order : SubscriptionOrder)
    (plan : SubscriptionPlan) : SubTx (SubscriptionOrder × SubscriptionPlan) := do
  if order.stockReserved ≤ 0 then return (order, plan)
  else
    let lockedPlan ← lockSubscriptionPlanForStockTx plan.id true
    require (¬ lockedPlan.stockLocked < order.stockReserved) stockInvariant
    let lockedPlan :=
      { lockedPlan with stockLocked := lockedPlan.stockLocked - order.stockReserved }
    Tx.update (.plan lockedPlan.id) fun st => st.updatePlan lockedPlan.id fun row =>
      { row with stockLocked := lockedPlan.stockLocked }
    clearStockReserved order
    return ({ order with stockReserved := 0 }, lockedPlan)

def consumeReservedSubscriptionOrderStockTx (order : SubscriptionOrder)
    (plan : SubscriptionPlan) : SubTx (SubscriptionOrder × SubscriptionPlan) := do
  if order.stockReserved ≤ 0 then return (order, plan)
  else
    let lockedPlan ← lockSubscriptionPlanForStockTx plan.id true
    require (¬ lockedPlan.stockLocked < order.stockReserved) stockInvariant
    let lockedPlan := { lockedPlan with
      stockLocked := lockedPlan.stockLocked - order.stockReserved
      stockSold := lockedPlan.stockSold + order.stockReserved }
    Tx.update (.plan lockedPlan.id) fun st => st.updatePlan lockedPlan.id fun row =>
      { row with stockLocked := lockedPlan.stockLocked, stockSold := lockedPlan.stockSold }
    clearStockReserved order
    return ({ order with stockReserved := 0 }, lockedPlan)

def consumeSubscriptionPlanStockDirectTx (plan : SubscriptionPlan) (amount : Int) :
    SubTx SubscriptionPlan := do
  if amount ≤ 0 then return plan
  else
    let lockedPlan ← lockSubscriptionPlanForStockTx plan.id false
    if !lockedPlan.hasStockLimit then return lockedPlan
    else
      require (¬ lockedPlan.getStockAvailable < amount) outOfStock
      let lockedPlan := { lockedPlan with stockSold := lockedPlan.stockSold + amount }
      Tx.update (.plan lockedPlan.id) fun st => st.updatePlan lockedPlan.id fun row =>
        { row with stockSold := lockedPlan.stockSold }
      return lockedPlan

/-! ## Administration -/

def reservedStock (orders : List SubscriptionOrder) (planID : Int) : Int :=
  ((orders.filter fun order => order.planId = planID && order.status = .pending &&
    decide (0 < order.stockReserved)).map (·.stockReserved)).sum

def sumReservedSubscriptionOrdersByPlanTx (planID : Int) : SubTx Int := do
  require (0 < planID) (text "invalid plan id")
  Tx.select fun st => reservedStock st.orders planID

/-- The stock columns that go with a new total. -/
def prepareSubscriptionPlanStockUpdateTx (current : SubscriptionPlan) (nextTotal : Int) :
    SubTx (Int × Int) := do
  require (¬ nextTotal < 0) stockNegative
  let reserved ← sumReservedSubscriptionOrdersByPlanTx current.id
  if current.stockTotal = 0 ∧ nextTotal = 0 then return (0, 0)
  else if (current.stockTotal = 0 ∧ 0 < nextTotal) ∨ (0 < current.stockTotal ∧ nextTotal = 0) then
    require (¬ 0 < reserved) stockBlocked
    return (0, 0)
  else
    require (¬ (0 < nextTotal ∧ nextTotal < current.stockLocked + current.stockSold))
      stockTooSmall
    return (current.stockLocked, current.stockSold)

/-- The checks of a plan that an administrator sends, with its defaults. -/
def checkPlanRequest (cfg : Settings) (plan : SubscriptionPlan) :
    Except SubError SubscriptionPlan := do
  require (trimSpace plan.title ≠ "") (text "套餐标题不能为空")
  require (¬ plan.priceAmount < 0) (text "价格不能为负数")
  require (¬ 9999 < plan.priceAmount) (text "价格不能超过9999")
  let durationUnit := if plan.durationUnit = .other "" then .month else plan.durationUnit
  let durationValue :=
    if plan.durationValue ≤ 0 ∧ durationUnit ≠ .custom then 1 else plan.durationValue
  require (¬ plan.maxPurchasePerUser < 0) (text "购买上限不能为负数")
  require (¬ plan.stockTotal < 0) stockNegative
  require (¬ plan.totalAmount < 0) (text "总额度不能为负数")
  let upgradeGroup := trimSpace plan.upgradeGroup
  require (upgradeGroup = "" ∨ cfg.containsGroupRatio upgradeGroup = true)
    (text "升级分组不存在")
  let downgradeGroup := trimSpace plan.downgradeGroup
  require (downgradeGroup = "" ∨ cfg.containsGroupRatio downgradeGroup = true)
    (text "降级分组不存在")
  require (¬ (plan.quotaResetPeriod = .custom ∧ plan.quotaResetCustomSeconds ≤ 0))
    (text "自定义重置周期需大于0秒")
  return { plan with
    currency := "USD"
    durationUnit := durationUnit
    durationValue := durationValue
    upgradeGroup := upgradeGroup
    downgradeGroup }

/-- The row of a new plan. A column with a default in the table takes it in
place of a zero value, so the plan is enabled in any case. -/
def newPlan (plan : SubscriptionPlan) (id : Int) : SubscriptionPlan := { plan.normalizeDefaults with
  id := id
  durationValue := if plan.durationValue = 0 then 1 else plan.durationValue
  enabled := true
  stockLocked := 0
  stockSold := 0
  deleted := false }

def Store.insertPlan (st : Store) (plan : SubscriptionPlan) : Store :=
  { st with plans := st.plans.insert (newPlan plan) fun _ => rfl }

theorem Store.get_insertPlan (st : Store) (plan : SubscriptionPlan) (k : Int) :
    (st.insertPlan plan).plans.get k =
      if k = st.plans.nextID then some (newPlan plan k) else st.plans.get k :=
  st.plans.get_insert (newPlan plan) (fun _ => rfl) k

def adminCreateSubscriptionPlan (cfg : Settings) (plan : SubscriptionPlan) : SubTx Unit := do
  let plan ← checkPlanRequest cfg plan
  Tx.insert fun st => st.insertPlan plan

/-- The columns of an update. Those of the permissions are left out when the
request does not give them. -/
def updatedPlan (request : SubscriptionPlan) (locked sold : Int) (row : SubscriptionPlan) :
    SubscriptionPlan :=
  { request with
    id := row.id
    stockLocked := locked
    stockSold := sold
    allowBalancePay := request.allowBalancePay.or row.allowBalancePay
    allowWalletOverflow := request.allowWalletOverflow.or row.allowWalletOverflow
    deleted := row.deleted }

def adminUpdateSubscriptionPlan (cfg : Settings) (id : Int) (plan : SubscriptionPlan) :
    SubTx Unit := do
  require (0 < id) (text "无效的ID")
  let request ← checkPlanRequest cfg plan
  let row ← Tx.read (.plan id) fun st => st.plan? id false
  let current ← found row recordNotFound
  let (nextLocked, nextSold) ← prepareSubscriptionPlanStockUpdateTx current request.stockTotal
  Tx.update (.plan id) fun st => st.updatePlan id (updatedPlan request nextLocked nextSold)

def adminUpdateSubscriptionPlanStatus (id : Int) (enabled : Bool) : SubTx Unit := do
  require (0 < id) (text "无效的ID")
  Tx.update (.plan id) fun st => st.updatePlan id fun row => { row with enabled }

def adminDeleteSubscriptionPlan (planID : Int) : SubTx Unit := do
  require (0 < planID) (text "invalid planId")
  let row ← Tx.read (.plan planID) fun st => st.plan? planID false
  let _ ← found row recordNotFound
  Tx.update (.plan planID) fun st => st.updatePlan planID fun row => { row with deleted := true }

end HermesToken.Subscription
