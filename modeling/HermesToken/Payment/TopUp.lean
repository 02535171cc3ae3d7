import HermesToken.Lib.Decimal
import HermesToken.Lib.GoString
import HermesToken.Lib.Guard

/-!
# Top-up orders and redemption codes

The completions of a top-up order in `model/topup.go` and `Redeem` of
`model/redemption.go`, as functions of the row they read. Each returns the
row it saves and the quota it adds to a user in the same transaction, or
nothing when the order is already completed.
-/

namespace HermesToken.Payment

open Lib

inductive PaymentMethod where
  | stripe | creem | waffo | waffoPancake | wallet | cryptoUSDT | balance
  | other (name : String)
  deriving DecidableEq

inductive PaymentProvider where
  | epay | stripe | creem | waffo | waffoPancake | balance
  | other (name : String)
  deriving DecidableEq

inductive TopUpStatus where
  | pending | success | failed | expired
  deriving DecidableEq

structure TopUp where
  (id userId : Int)
  (amount money : ℚ)
  tradeNo : String
  paymentMethod : PaymentMethod
  paymentProvider : PaymentProvider
  (currency providerProductID : String := "")
  (createTime completeTime : Int := 0)
  status : TopUpStatus := .pending
  deriving DecidableEq

/-- A quota that a committed transaction added to a user. -/
structure Credit where
  (userId quota : Int)
  deriving DecidableEq

/-- The row a completion saves and what it credits. -/
structure Completion where
  topUp : TopUp
  credit : Credit
  deriving DecidableEq

/-- The configured quota of one unit of money. -/
structure Rates where
  quotaPerUnit : ℚ

def errPaymentMethodMismatch : String := "payment method mismatch"
def errTopUpPaymentMethodMismatch : String := "充值订单支付方式错误"
def errTopUpAmountMismatch : String := "充值订单金额不匹配"
def errTopUpCurrencyMismatch : String := "充值订单币种不匹配"
def errTopUpProductMismatch : String := "充值订单商品不匹配"
def errTopUpStatus : String := "充值订单状态错误"
def errTopUpMissing : String := "充值订单不存在"
def errNoReference : String := "未提供支付单号"
def errInvalidQuota : String := "无效的充值额度"

def quotaFromStandardTopUpAmount (rates : Rates) (amount : ℚ) : Int :=
  intPart (amount * rates.quotaPerUnit)

/-- The paid amount of a callback: not given, not a decimal, or a value. -/
inductive PaidMoney where
  | absent
  | invalid
  | value (x : ℚ)
  deriving DecidableEq

def equalTopUpMoney (expected : ℚ) : PaidMoney → Except String Bool
  | .value x => .ok (roundTo expected 2 = roundTo x 2)
  | _ => .error "can't convert to decimal"

/-- The paid amount must be that of the order, to the cent. -/
def checkMoney (topUp : TopUp) (paid : PaidMoney) : Except String PUnit := do
  let matched ← equalTopUpMoney topUp.money paid
  require (matched = true) errTopUpAmountMismatch

/-- Most callbacks check the paid amount only when they are given one. -/
def checkMoneyIfGiven (topUp : TopUp) (paid : PaidMoney) : Except String PUnit :=
  if paid = .absent then .ok ⟨⟩ else checkMoney topUp paid

def equalTopUpCurrency (expected actual : String) : Bool :=
  let expected := trimSpace (toUpper expected)
  let actual := trimSpace (toUpper actual)
  expected == "" || actual == "" || expected == actual

/-- What a payment callback says was paid. -/
structure Paid where
  money : PaidMoney := .absent
  (currency productID : String := "")

/-- The row that a completion saves. -/
def TopUp.completed (topUp : TopUp) (now : Int) : TopUp :=
  { topUp with completeTime := now, status := .success }

/-- The completion that adds `quota` to the order's user. -/
def TopUp.complete (topUp : TopUp) (now quota : Int) : Completion :=
  { topUp := topUp.completed now, credit := ⟨topUp.userId, quota⟩ }

/-- The lookup by trade number, which every completion starts with. -/
def lookup (topUp : TopUp) (tradeNo : String) (missing : String) : Except String PUnit := do
  require (tradeNo ≠ "") missing
  require (topUp.tradeNo = tradeNo) errTopUpMissing

section

variable (rates : Rates)

/-- `Recharge`, the Stripe callback. -/
def recharge (now : Int) (referenceId : String) (amountTotal : Int) (topUp : TopUp) :
    Except String (Option Completion) := do
  lookup topUp referenceId errNoReference
  require (topUp.paymentProvider = .stripe) errPaymentMethodMismatch
  require (topUp.status = .pending) errTopUpStatus
  require (equalTopUpCurrency topUp.currency "USD" = true) errTopUpCurrencyMismatch
  require (amountTotal > 0 → roundTo (topUp.money * 100) 0 = amountTotal)
    errTopUpAmountMismatch
  let quotaToAdd := quotaFromStandardTopUpAmount rates topUp.amount
  require (quotaToAdd > 0) errInvalidQuota
  return some (topUp.complete now quotaToAdd)

/-- The quota of an order that an administrator completes. -/
def manualQuota (topUp : TopUp) : Int :=
  if topUp.paymentProvider = .creem ∨ topUp.paymentMethod = .creem then intPart topUp.amount
  else if topUp.paymentProvider = .stripe then intPart (topUp.money * rates.quotaPerUnit)
  else quotaFromStandardTopUpAmount rates topUp.amount

def manualCompleteTopUp (now : Int) (tradeNo : String) (topUp : TopUp) :
    Except String (Option Completion) := do
  lookup topUp tradeNo "未提供订单号"
  if topUp.status = .success then return none
  else
    require (topUp.status = .pending) "订单状态不是待支付，无法补单"
    require (topUp.paymentMethod ≠ .cryptoUSDT) "USDT 充值订单必须通过链上交易证据补单"
    let quotaToAdd := manualQuota rates topUp
    require (quotaToAdd > 0) errInvalidQuota
    return some (topUp.complete now quotaToAdd)

/-- `RechargeCreem`. Its quota is not checked to be positive, and the user
must exist when an email is given. -/
def rechargeCreem (now : Int) (referenceId customerEmail : String) (paid : Paid)
    (userExists : Bool) (topUp : TopUp) : Except String (Option Completion) := do
  lookup topUp referenceId errNoReference
  require (topUp.paymentProvider = .creem) errPaymentMethodMismatch
  require (topUp.status = .pending) errTopUpStatus
  checkMoneyIfGiven topUp paid.money
  require (paid.currency ≠ "" → equalTopUpCurrency topUp.currency paid.currency = true)
    errTopUpCurrencyMismatch
  require (paid.productID ≠ "" → topUp.providerProductID ≠ "" →
      trimSpace topUp.providerProductID = trimSpace paid.productID)
    errTopUpProductMismatch
  require (customerEmail ≠ "" → userExists = true) "record not found"
  return some (topUp.complete now (intPart topUp.amount))

/-- The part that the two Waffo callbacks share once their own checks are
made. -/
def finishWaffo (now : Int) (topUp : TopUp) :
    Except String (Option Completion) := do
  let quotaToAdd := quotaFromStandardTopUpAmount rates topUp.amount
  require (quotaToAdd > 0) errInvalidQuota
  return some (topUp.complete now quotaToAdd)

variable (now : Int) (tradeNo : String) (paid : Paid) (topUp : TopUp)

/-- `RechargeWaffo`. The paid amount is mandatory. -/
def rechargeWaffo :
    Except String (Option Completion) := do
  lookup topUp tradeNo errNoReference
  require (topUp.paymentProvider = .waffo) errPaymentMethodMismatch
  if topUp.status = .success then return none
  else
    require (topUp.status = .pending) errTopUpStatus
    require (topUp.paymentMethod = .waffo) errTopUpPaymentMethodMismatch
    require (paid.money ≠ .absent) "未提供有效支付金额"
    checkMoney topUp paid.money
    require (equalTopUpCurrency topUp.currency paid.currency = true) errTopUpCurrencyMismatch
    finishWaffo rates now topUp

/-- `RechargeWaffoPancake`. Every part of the payment is optional. -/
def rechargeWaffoPancake :
    Except String (Option Completion) := do
  lookup topUp tradeNo errNoReference
  require (topUp.paymentProvider = .waffoPancake) errPaymentMethodMismatch
  if topUp.status = .success then return none
  else
    require (topUp.status = .pending) errTopUpStatus
    require (topUp.paymentMethod = .waffoPancake) errTopUpPaymentMethodMismatch
    checkMoneyIfGiven topUp paid.money
    require (trimSpace paid.currency ≠ "" →
        equalTopUpCurrency topUp.currency (trimSpace paid.currency) = true)
      errTopUpCurrencyMismatch
    require (trimSpace paid.productID ≠ "" → topUp.providerProductID ≠ "" →
        trimSpace topUp.providerProductID = trimSpace paid.productID)
      errTopUpProductMismatch
    finishWaffo rates now topUp

end

/-! ## Redemption codes -/

inductive RedemptionStatus where
  | enabled | disabled | used
  deriving DecidableEq

structure Redemption where
  id : Int
  key : String
  status : RedemptionStatus := .enabled
  quota : Int
  (redeemedTime usedUserId expiredTime : Int := 0)
  deriving DecidableEq

/-- `Redeem`: the code becomes used and its quota goes to the caller. -/
def redeem (now : Int) (key : String) (userId : Int) (redemption : Redemption) :
    Except String (Redemption × Credit) := do
  require (key ≠ "") "未提供兑换码"
  require (userId ≠ 0) "无效的 user id"
  require (redemption.key = key) "无效的兑换码"
  require (redemption.status = .enabled) "该兑换码已被使用"
  require (¬(redemption.expiredTime ≠ 0 ∧ redemption.expiredTime < now)) "该兑换码已过期"
  return ({ redemption with redeemedTime := now, status := .used, usedUserId := userId },
    ⟨userId, redemption.quota⟩)

end HermesToken.Payment
