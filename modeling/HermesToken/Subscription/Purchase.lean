import HermesToken.Referral.Engine
import HermesToken.Subscription.Grant

/-!
# Orders and purchases

How subscriptions are sold. A pending order (`controller/subscription_order.go`)
is completed by a payment callback or expires; a purchase from the wallet, from
the balance and a binding by an administrator are done at once
(`model/subscription.go`). The order is read by a SELECT that takes no lock.

A completion ends with the settlement of the referral, whose loop over the
inviters has a fuel.
-/

namespace HermesToken.Subscription

open Lib SubError
open Payment (PaymentMethod PaymentProvider PaidMoney TopUp TopUpStatus)
open Referral (applySubscriptionReferralOnOrderSuccessTx)

/-! ## Money of an order -/

def SubscriptionOrder.expectedPaymentMoney (order : SubscriptionOrder) : ℚ :=
  if 0 < order.paymentMoney then order.paymentMoney else order.money

def SubscriptionOrder.expectedPaymentCurrency (order : SubscriptionOrder) : String :=
  trimSpace (toUpper order.paymentCurrency)

def calculateSubscriptionOrderTotal (unitPrice : ℚ) (quantity : Int) : ℚ :=
  if quantity ≤ 0 then 0 else roundTo (unitPrice * quantity) 2

def calculateSubscriptionWalletPaymentQuota (cfg : Settings) (orderTotal : ℚ) :
    Except SubError Int := do
  require (¬ (orderTotal < 0 ∨ cfg.quotaPerUnit ≤ 0)) walletQuotaInvalid
  if orderTotal = 0 then return 0
  else
    let required := roundTo (orderTotal * cfg.quotaPerUnit) 0
    require (required ≤ maxInt64) walletQuotaInvalid
    return intPart required

variable (cfg : Settings)

def calcSubscriptionBalanceQuota (priceAmount : ℚ) : Except SubError Int := do
  if priceAmount ≤ 0 then return 0
  else
    require (0 < cfg.quotaPerUnit) (text "额度单位配置错误")
    return wrap64 ⌈priceAmount * cfg.quotaPerUnit⌉

/-! ## Pending orders -/

inductive OrderEndpoint where
  | epay (paymentMethod : PaymentMethod)
  | stripe | creem | waffoPancake

def OrderEndpoint.paymentMethod : OrderEndpoint → PaymentMethod
  | .epay paymentMethod => paymentMethod
  | .stripe => .stripe
  | .creem => .creem
  | .waffoPancake => .waffoPancake

def OrderEndpoint.paymentProvider : OrderEndpoint → PaymentProvider
  | .epay _ => .epay
  | .stripe => .stripe
  | .creem => .creem
  | .waffoPancake => .waffoPancake

/-- What an endpoint asks of the plan. -/
def OrderEndpoint.validate (endpoint : OrderEndpoint) (plan : SubscriptionPlan) :
    Except SubError Unit := do
  require (plan.enabled = true) (text "套餐未启用")
  match endpoint with
  | .epay _ => require (¬ plan.priceAmount < 1 / 100) (text "套餐金额过低")
  | .stripe => require (plan.stripePriceId ≠ "") (text "该套餐未配置 StripePriceId")
  | .creem => require (plan.creemProductId ≠ "") (text "该套餐未配置 CreemProductId")
  | .waffoPancake =>
    require (trimSpace plan.waffoPancakeProductId ≠ "")
      (text "该套餐未配置 WaffoPancakeProductId")

def pendingOrder (endpoint : OrderEndpoint) (now userID quantity : Int) (tradeNo : String)
    (plan : SubscriptionPlan) : SubscriptionOrder :=
  let orderTotal := calculateSubscriptionOrderTotal plan.priceAmount quantity
  { id := 0
    userId := userID
    planId := plan.id
    money := orderTotal
    paymentMoney := orderTotal
    paymentCurrency := plan.currency
    quantity := quantity
    tradeNo := tradeNo
    paymentMethod := endpoint.paymentMethod
    paymentProvider := endpoint.paymentProvider
    createTime := now
    status := .pending
    stockReserved := if plan.hasStockLimit then quantity else 0 }

def createPendingSubscriptionOrder (endpoint : OrderEndpoint) (now userID planID quantity : Int)
    (tradeNo : String) : SubTx SubscriptionPlan := do
  require (0 < quantity) (text "invalid quantity")
  let row ← Tx.read (.plan planID) fun st => st.plan? planID false
  let plan ← found row recordNotFound
  endpoint.validate plan
  checkPurchaseLimitTx userID plan fun count =>
    decide (plan.maxPurchasePerUser < add64 count quantity)
  let lockedPlan ← reserveSubscriptionPlanStockTx plan quantity
  Tx.attempt (.order tradeNo) fun st =>
    st.insertOrder (pendingOrder endpoint now userID quantity tradeNo lockedPlan)
  return lockedPlan

def updateSubscriptionOrderPaymentAmount (tradeNo : String) (paymentMoney : ℚ)
    (paymentCurrency : String) : SubTx Unit := do
  require (trimSpace tradeNo ≠ "") (text "tradeNo is empty")
  require (0 < paymentMoney) (text "payment money must be positive")
  let updated ← Tx.updateWhere (.order tradeNo)
    (fun st => st.orders.any fun order => order.tradeNo = tradeNo && order.status = .pending)
    fun st => { st with orders := st.orders.map fun order =>
      if order.tradeNo = tradeNo ∧ order.status = .pending then
        { order with
          paymentMoney := paymentMoney
          paymentCurrency := trimSpace (toUpper paymentCurrency) }
      else order }
  require (updated = true) orderNotFound

/-! ## Completion and expiry -/

/-- What a callback says was paid. An empty name is not checked. -/
structure SubscriptionPaymentVerification where
  paymentMethod : PaymentMethod := .other ""
  paymentProvider : PaymentProvider := .other ""
  paidMoney : PaidMoney := .absent
  (paidCurrency productID : String := "")

def checkPaidMoney (order : SubscriptionOrder) : PaidMoney → Except SubError Unit
  | .absent => return ()
  | .invalid => .error (text "can't convert to decimal")
  | .value paid =>
    require (roundTo order.expectedPaymentMoney 2 = roundTo paid 2) orderAmountMismatch

def checkPaidCurrency (order : SubscriptionOrder) (paidCurrency : String) :
    Except SubError Unit :=
  let expectedCurrency := order.expectedPaymentCurrency
  let actualCurrency := trimSpace (toUpper paidCurrency)
  require (¬ (paidCurrency ≠ "" ∧ expectedCurrency ≠ "" ∧ actualCurrency ≠ "" ∧
    expectedCurrency ≠ actualCurrency)) orderPaymentMethodMismatch

def checkPaidProduct (plan : SubscriptionPlan) (verification : SubscriptionPaymentVerification) :
    Except SubError Unit :=
  let expectedProductID := match verification.paymentProvider with
    | .waffoPancake => trimSpace plan.waffoPancakeProductId
    | _ => trimSpace plan.creemProductId
  require (¬ (verification.productID ≠ "" ∧
    (expectedProductID = "" ∨ expectedProductID ≠ verification.productID)))
    orderProductMismatch

def validateSubscriptionOrderPayment (order : SubscriptionOrder) (plan : SubscriptionPlan) :
    Option SubscriptionPaymentVerification → Except SubError Unit
  | none => return ()
  | some verification => do
    require (¬ (verification.paymentProvider ≠ .other "" ∧ order.paymentProvider ≠ .other "" ∧
      order.paymentProvider ≠ verification.paymentProvider)) paymentMethodMismatch
    require (¬ (verification.paymentMethod ≠ .other "" ∧
      order.paymentMethod ≠ verification.paymentMethod)) orderPaymentMethodMismatch
    checkPaidMoney order verification.paidMoney
    checkPaidCurrency order verification.paidCurrency
    checkPaidProduct plan verification

section

variable (now : Int) (order : SubscriptionOrder)

def subscriptionTopUp : TopUp where
  id := 0
  userId := order.userId
  amount := 0
  money := order.expectedPaymentMoney
  tradeNo := order.tradeNo
  paymentMethod := order.paymentMethod
  paymentProvider := order.paymentProvider
  currency := order.expectedPaymentCurrency
  createTime := order.createTime
  completeTime := now
  status := .success

def updatedTopUp (topUp : TopUp) : TopUp := { topUp with
  money := order.expectedPaymentMoney
  currency :=
    if order.expectedPaymentCurrency ≠ "" then order.expectedPaymentCurrency else topUp.currency
  paymentMethod :=
    if topUp.paymentMethod = .other "" then order.paymentMethod else topUp.paymentMethod
  paymentProvider :=
    if topUp.paymentProvider = .other "" then order.paymentProvider else topUp.paymentProvider
  createTime := if topUp.createTime = 0 then order.createTime else topUp.createTime
  completeTime := now
  status := .success }

def upsertSubscriptionTopUpTx : SubTx Unit := do
  let topUp ← Tx.read (.topUp order.tradeNo) fun st => st.topUp? order.tradeNo
  match topUp with
  | none => Tx.attempt (.topUp order.tradeNo) fun st => st.insertTopUp (subscriptionTopUp now order)
  | some topUp =>
    Tx.update (.topUp order.tradeNo) fun st => st.saveTopUp (updatedTopUp now order topUp)

end

/-- The lookup of the order that a callback is about. -/
def loadOrderTx (tradeNo : String) (expectedProvider : PaymentProvider) :
    SubTx SubscriptionOrder := do
  require (tradeNo ≠ "") (text "tradeNo is empty")
  let row ← Tx.read (.order tradeNo) fun st => st.order? tradeNo
  let order ← found row orderNotFound
  require (¬ (expectedProvider ≠ .other "" ∧ order.paymentProvider ≠ .other "" ∧
    order.paymentProvider ≠ expectedProvider)) paymentMethodMismatch
  return order

/-- The order with the provider and the method of the callback. -/
def SubscriptionOrder.withPayment (order : SubscriptionOrder)
    (verification : Option SubscriptionPaymentVerification) (actualMethod : PaymentMethod) :
    SubscriptionOrder :=
  { order with
    paymentProvider := match verification with
      | some verification =>
        if order.paymentProvider = .other "" then verification.paymentProvider
        else order.paymentProvider
      | none => order.paymentProvider
    paymentMethod := if actualMethod ≠ .other "" then actualMethod else order.paymentMethod }

/-- The number of subscriptions that an order is for. -/
def SubscriptionOrder.subscriptionCount (order : SubscriptionOrder) : Nat :=
  if order.quantity ≤ 0 then 1 else order.quantity.toNat

/-- What a callback gives to a completion. -/
structure PaymentCallback where
  verification : Option SubscriptionPaymentVerification := none
  providerPayload : String := ""
  expectedProvider : PaymentProvider := .other ""
  actualMethod : PaymentMethod := .other ""

def SubscriptionOrder.completed (order : SubscriptionOrder) (now : Int) (providerPayload : String) :
    SubscriptionOrder :=
  { order with
    status := .success
    completeTime := now
    providerPayload := if providerPayload ≠ "" then providerPayload else order.providerPayload }

def completePendingOrderTx (fuel : Nat) (now : Int) (callback : PaymentCallback)
    (order : SubscriptionOrder) : SubTx Unit := do
  let plan ← getSubscriptionPlanByIdTx order.planId true
  validateSubscriptionOrderPayment order plan callback.verification
  let order := order.withPayment callback.verification callback.actualMethod
  let (order, plan) ← consumeReservedSubscriptionOrderStockTx order plan
  createUserSubscriptions cfg now order.userId plan .order order.subscriptionCount
  upsertSubscriptionTopUpTx now order
  let order := order.completed now callback.providerPayload
  Tx.update (.order order.tradeNo) fun st => st.saveOrder order
  let _ ← applySubscriptionReferralOnOrderSuccessTx cfg fuel order plan

/-- Complete an order: whether it was pending. -/
def completeSubscriptionOrderWithValidation (fuel : Nat) (now : Int) (tradeNo : String)
    (callback : PaymentCallback) : SubTx Bool := do
  let order ← loadOrderTx tradeNo callback.expectedProvider
  if order.status = .success then return false
  else
    require (order.status = .pending) orderStatusInvalid
    completePendingOrderTx cfg fuel now callback order
    return true

/-- A pending order gives its stock back, if it has some. -/
def releaseOrderStockTx (order : SubscriptionOrder) : SubTx SubscriptionOrder := do
  if 0 < order.stockReserved then
    let plan ← getSubscriptionPlanByIdTx order.planId true
    let (order, _) ← releaseReservedSubscriptionOrderStockTx order plan
    return order
  else return order

def expireSubscriptionOrderTx (now : Int) (tradeNo : String) (expectedProvider : PaymentProvider) :
    SubTx Bool := do
  let order ← loadOrderTx tradeNo expectedProvider
  if order.status ≠ .pending then return false
  else
    let order ← releaseOrderStockTx order
    Tx.update (.order order.tradeNo) fun st =>
      st.saveOrder { order with status := .expired, completeTime := now }
    return true

/-! ## Purchases without a payment -/

def takeWalletQuotaTx (userID requiredQuota : Int) : SubTx Unit := do
  if 0 < requiredQuota then
    let updated ← Tx.updateWhere (.user userID)
      (fun st => (st.user? userID).any fun user => decide (requiredQuota ≤ user.quota))
      fun st => st.updateUser userID fun user => { user with quota := user.quota - requiredQuota }
    require (updated = true) walletInsufficientBalance
  else return ()

def walletOrder (now userID quantity : Int) (tradeNo : String) (plan : SubscriptionPlan) :
    SubscriptionOrder :=
  let orderTotal := calculateSubscriptionOrderTotal plan.priceAmount quantity
  { id := 0
    userId := userID
    planId := plan.id
    money := orderTotal
    paymentMoney := orderTotal
    paymentCurrency := plan.currency
    quantity := quantity
    tradeNo := trimSpace tradeNo
    paymentMethod := .wallet
    status := .success
    createTime := now
    completeTime := now
    providerPayload := "\x7b\"payment_method\":\"wallet\"\x7d" }

structure SubscriptionWalletPurchaseResult where
  tradeNo : String
  money : ℚ
  (quantity deductedQuota balanceQuota : Int)

def purchaseSubscriptionWithWallet (fuel : Nat) (now userID planID quantity : Int)
    (tradeNo : String) : SubTx SubscriptionWalletPurchaseResult := do
  require (¬ (userID ≤ 0 ∨ planID ≤ 0 ∨ quantity ≤ 0 ∨ trimSpace tradeNo = ""))
    (text "invalid wallet subscription purchase")
  let plan ← lockSubscriptionPlanForStockTx planID false
  require (plan.enabled = true) (text "套餐未启用")
  require (¬ plan.priceAmount < 0) (text "套餐金额无效")
  checkPurchaseLimitTx userID plan fun count =>
    decide (plan.maxPurchasePerUser < add64 count quantity)
  let requiredQuota ← calculateSubscriptionWalletPaymentQuota cfg
    (calculateSubscriptionOrderTotal plan.priceAmount quantity)
  let row ← Tx.select fun st => st.user? userID
  let user ← found row recordNotFound
  require (¬ user.quota < requiredQuota) walletInsufficientBalance
  let lockedPlan ← consumeSubscriptionPlanStockDirectTx plan quantity
  takeWalletQuotaTx userID requiredQuota
  let orderID ← Tx.select fun st => st.nextOrderID
  let order := { walletOrder now userID quantity tradeNo lockedPlan with id := orderID }
  Tx.attempt (.order order.tradeNo) fun st => st.insertOrder order
  createUserSubscriptions cfg now userID lockedPlan .order quantity.toNat
  upsertSubscriptionTopUpTx now order
  let _ ← applySubscriptionReferralOnOrderSuccessTx cfg fuel order lockedPlan
  return {
    tradeNo := order.tradeNo
    money := order.money
    quantity := quantity
    deductedQuota := requiredQuota
    balanceQuota := if 0 < requiredQuota then user.quota - requiredQuota else user.quota }

def balanceOrder (now userID requiredQuota : Int) (tradeNo : String) (plan : SubscriptionPlan) :
    SubscriptionOrder where
  id := 0
  userId := userID
  planId := plan.id
  money := plan.priceAmount
  tradeNo := tradeNo
  paymentMethod := .balance
  paymentProvider := .balance
  status := .success
  createTime := now
  completeTime := now
  providerPayload := "charged_quota=" ++ toString requiredQuota

/-- The quota of a purchase is taken from the user, who was read before. -/
def chargeBalanceQuotaTx (userID requiredQuota : Int) : SubTx Unit :=
  if 0 < requiredQuota then
    Tx.update (.user userID) fun st => st.updateUser userID fun user =>
      { user with quota := user.quota - requiredQuota }
  else return ()

def purchaseSubscriptionWithBalance (now userID planID : Int) (tradeNo : String) : SubTx Unit := do
  require (¬ (userID ≤ 0 ∨ planID ≤ 0)) (text "invalid userId or planId")
  let plan ← getSubscriptionPlanByIdTx planID false
  require (plan.enabled = true) (text "套餐未启用")
  require (¬ plan.priceAmount < 0) (text "套餐价格不能为负数")
  require (plan.allowBalancePay ≠ some false) (text "该套餐不允许使用余额兑换")
  let requiredQuota ← calcSubscriptionBalanceQuota cfg plan.priceAmount
  let row ← Tx.select fun st => st.user? userID
  let user ← found row recordNotFound
  require (¬ (0 < requiredQuota ∧ user.quota < requiredQuota)) (text "余额不足")
  chargeBalanceQuotaTx userID requiredQuota
  createUserSubscriptionFromPlanTx cfg now userID plan .balance
  Tx.attempt (.order tradeNo) fun st =>
    st.insertOrder (balanceOrder now userID requiredQuota tradeNo plan)

def adminBindSubscription (now userID planID : Int) : SubTx Unit := do
  require (¬ (userID ≤ 0 ∨ planID ≤ 0)) (text "invalid userId or planId")
  let row ← Tx.read (.plan planID) fun st => st.plan? planID false
  let plan ← found row recordNotFound
  let lockedPlan ← consumeSubscriptionPlanStockDirectTx plan 1
  createUserSubscriptionFromPlanTx cfg now userID lockedPlan .admin

end HermesToken.Subscription
