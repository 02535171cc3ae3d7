import HermesToken.Lib.Int64
import HermesToken.Lib.Rows
import HermesToken.Lib.Table
import HermesToken.Lib.Transaction
import HermesToken.Payment.TopUp

/-!
# The tables of subscriptions and referrals

The rows of `model/subscription.go`, of the referral tables and of the users,
with the columns the modelled functions read or write. A query that gorm makes
on a type with `DeletedAt` does not see the rows that were deleted softly, and
an UPDATE does not reach them; `Unscoped` lookups see them.

The functions of the source are programs of statements (`SubTx`) on the
`Store`.
-/

namespace HermesToken.Subscription

open Lib
open Payment (PaymentMethod PaymentProvider TopUp TopUpStatus)

variable {includeDeleted : Bool}

structure User where
  id : Int
  quota : Int := 0
  group : String := "default"
  (inviterId affQuota affHistoryQuota : Int := 0)
  deleted : Bool := false
  deriving DecidableEq

inductive DurationUnit where
  | year | month | day | hour | custom
  | other (name : String)
  deriving DecidableEq

/-- The periods after `NormalizeResetPeriod`. -/
inductive ResetPeriod where
  | never | daily | weekly | monthly | custom
  deriving DecidableEq

structure SubscriptionPlan where
  id : Int
  title : String := ""
  priceAmount : ℚ := 0
  currency : String := "USD"
  durationUnit : DurationUnit := .month
  durationValue : Int := 1
  customSeconds : Int := 0
  enabled : Bool := true
  (allowBalancePay allowWalletOverflow : Option Bool := none)
  (stripePriceId creemProductId waffoPancakeProductId : String := "")
  (maxPurchasePerUser stockTotal stockLocked stockSold : Int := 0)
  (upgradeGroup downgradeGroup : String := "")
  totalAmount : Int := 0
  quotaResetPeriod : ResetPeriod := .never
  quotaResetCustomSeconds : Int := 0
  deleted : Bool := false
  deriving DecidableEq

structure SubscriptionOrder where
  (id userId planId : Int)
  money : ℚ
  paymentMoney : ℚ := 0
  paymentCurrency : String := ""
  quantity : Int := 1
  tradeNo : String
  paymentMethod : PaymentMethod
  paymentProvider : PaymentProvider := .other ""
  status : TopUpStatus
  (createTime completeTime stockReserved : Int := 0)
  providerPayload : String := ""
  deriving DecidableEq

inductive UserSubscriptionStatus where
  | active | expired | cancelled
  deriving DecidableEq

inductive SubscriptionSource where
  | order | admin | balance
  deriving DecidableEq

structure UserSubscription where
  (id userId planId amountTotal amountUsed startTime endTime : Int)
  status : UserSubscriptionStatus
  source : SubscriptionSource
  (lastResetTime nextResetTime : Int := 0)
  (upgradeGroup prevUserGroup downgradeGroup : String := "")
  allowWalletOverflow : Bool := true
  deriving DecidableEq

inductive PreConsumeStatus where
  | consumed | refunded
  deriving DecidableEq

structure SubscriptionPreConsumeRecord where
  requestId : String
  (userId userSubscriptionId preConsumed : Int)
  status : PreConsumeStatus
  updatedAt : Int := 0
  deriving DecidableEq

inductive TokenStatus where
  | enabled | disabled | expired | exhausted
  deriving DecidableEq

structure Token where
  (id userId expiredTime : Int)
  status : TokenStatus
  group : String := ""
  deriving DecidableEq

inductive ReferralLevelType where
  | direct | team
  | other (name : String)
  deriving DecidableEq

structure ReferralTemplate where
  id : Int
  levelType : ReferralLevelType
  enabled : Bool
  (directCapBps teamCapBps inviteeShareDefaultBps : Int)
  deriving DecidableEq

structure ReferralTemplateBinding where
  (id userId : Int)
  (referralType group : String)
  templateId : Int
  deriving DecidableEq

structure ReferralInviteeShareOverride where
  (inviterUserId inviteeUserId : Int)
  (referralType group : String)
  inviteeShareBps : Int
  deriving DecidableEq

inductive ReferralSettlementMode where
  | teamDirect | directWithTeamChain
  deriving DecidableEq

inductive ReferralStatus where
  | credited | reversed | partiallyReversed
  deriving DecidableEq

inductive RewardComponent where
  | teamDirectReward | directReward | inviteeReward | teamReward
  deriving DecidableEq

structure ReferralSettlementBatch where
  id : Int
  (referralType group sourceType : String)
  sourceId : Int
  sourceTradeNo : String
  (payerUserId immediateInviterUserId : Int)
  settlementMode : ReferralSettlementMode
  quotaPerUnitSnapshot : ℚ
  status : ReferralStatus
  deriving DecidableEq

structure ReferralSettlementRecord where
  (id batchId : Int := 0)
  (referralType group : String)
  beneficiaryUserId : Int
  beneficiaryLevelType : Option ReferralLevelType := none
  rewardComponent : RewardComponent
  sourceRewardComponent : Option RewardComponent := none
  (pathDistance matchedTeamIndex : Option Int := none)
  (weightSnapshot shareSnapshot : Option ℚ := none)
  (grossRewardQuotaSnapshot inviteeShareBpsSnapshot poolRateBpsSnapshot appliedRateBps : Option Int
    := none)
  rewardQuota : Int
  (reversedQuota debtQuota : Int := 0)
  status : ReferralStatus
  deriving DecidableEq

/-- The tables. Those that are queried by more than their key are lists. -/
structure Store where
  users : AutoTable User (·.id) := .empty _
  plans : AutoTable SubscriptionPlan (·.id) := .empty _
  orders : List SubscriptionOrder := []
  nextOrderID : Int := 1
  subscriptions : List UserSubscription := []
  nextSubscriptionID : Int := 1
  preConsumes : List SubscriptionPreConsumeRecord := []
  tokens : List Token := []
  topUps : List TopUp := []
  nextTopUpID : Int := 1
  templates : List ReferralTemplate := []
  bindings : List ReferralTemplateBinding := []
  overrides : List ReferralInviteeShareOverride := []
  batches : AutoTable ReferralSettlementBatch (·.id) := .empty _
  records : List ReferralSettlementRecord := []
  nextRecordID : Int := 1

/-- The rows that statements lock or ask for. -/
inductive Row where
  | user (id : Int)
  | plan (id : Int)
  | order (tradeNo : String)
  | topUp (tradeNo : String)
  | subscription (id : Int)
  | preConsume (requestID : String)
  | token (id : Int)
  | batch (id : Int)
  | record (id : Int)

/-! ## Errors -/

/-- The error values of the source. An `errors.New` value is equal to itself
only, so the named ones are apart from any `text`. `unfinished` stands for a
loop that has not come back. -/
inductive SubError where
  | orderNotFound | orderStatusInvalid | orderPaymentMethodMismatch
  | orderAmountMismatch | orderProductMismatch
  | outOfStock | stockBlocked | stockTooSmall | stockInvariant | stockNegative
  | walletInsufficientBalance | walletQuotaInvalid
  | quotaInsufficient (need : Int)
  | paymentMethodMismatch
  | referralRecordNotFound
  | recordNotFound
  | duplicatedKey
  | text (message : String)
  | unfinished
  deriving DecidableEq

def SubError.message : SubError → String
  | .orderNotFound => "subscription order not found"
  | .orderStatusInvalid => "subscription order status invalid"
  | .orderPaymentMethodMismatch => "subscription order payment method mismatch"
  | .orderAmountMismatch => "subscription order amount mismatch"
  | .orderProductMismatch => "subscription order product mismatch"
  | .outOfStock => "库存不足"
  | .stockBlocked => "存在待支付订单，暂不允许切换库存周期"
  | .stockTooSmall => "库存不能小于已锁定和已售数量"
  | .stockInvariant => "订阅库存状态不一致"
  | .stockNegative => "库存不能为负数"
  | .walletInsufficientBalance => "账户余额不足"
  | .walletQuotaInvalid => "账户余额配置错误"
  | .quotaInsufficient need => "subscription quota insufficient, need=" ++ toString need
  | .paymentMethodMismatch => "payment method mismatch"
  | .referralRecordNotFound => "subscription referral record not found"
  | .recordNotFound => "record not found"
  | .duplicatedKey => "duplicated key not allowed"
  | .text message => message
  | .unfinished => ""

/-- The transactions of these tables. -/
abbrev SubTx := Tx Store Row SubError

/-! ## Settings -/

/-- The calendar of the server's time zone, on Unix seconds. -/
structure Calendar where
  (addYears addMonths : Int → Int → Int)
  /-- 00:00 of the next day. -/
  nextDay : Int → Int
  /-- 00:00 of the next Monday. -/
  nextMonday : Int → Int
  /-- 00:00 of the first day of the next month. -/
  nextMonth : Int → Int

structure Settings where
  quotaPerUnit : ℚ
  teamDecayRatio : ℚ := 1
  teamMaxDepth : Int := 0
  containsGroupRatio : String → Bool := fun _ => false
  calendar : Calendar

/-! ## Lookups and updates -/

namespace Store

variable (st : Store)

/-- `First` on the users. -/
def user? (id : Int) : Option User := (st.users.get id).filter (!·.deleted)

def updateUser (id : Int) (f : User → User) : Store :=
  { st with users := st.users.modify id fun user => if user.deleted then user else f user }

/-- A lookup of a plan, also of a deleted one if `Unscoped`. -/
def plan? (id : Int) (includeDeleted : Bool) : Option SubscriptionPlan :=
  (st.plans.get id).filter fun plan => includeDeleted || !plan.deleted

def updatePlan (id : Int) (f : SubscriptionPlan → SubscriptionPlan) : Store :=
  { st with plans := st.plans.modify id fun plan => if plan.deleted then plan else f plan }

def order? (tradeNo : String) : Option SubscriptionOrder :=
  st.orders.find? (·.tradeNo = tradeNo)

def orderByID? (id : Int) : Option SubscriptionOrder := st.orders.find? (·.id = id)

def saveOrder (order : SubscriptionOrder) : Store :=
  { st with orders := saveRow (·.id) order st.orders }

def updateOrder (id : Int) (f : SubscriptionOrder → SubscriptionOrder) : Store :=
  { st with orders := st.orders.map fun order => if order.id = id then f order else order }

/-- An INSERT of an order. The trade number is unique. -/
def insertOrder (order : SubscriptionOrder) : Except SubError Store :=
  if (st.order? order.tradeNo).isSome then .error .duplicatedKey
  else .ok { st with
    orders := st.orders ++ [{ order with id := st.nextOrderID }]
    nextOrderID := st.nextOrderID + 1 }

def subscription? (id : Int) : Option UserSubscription :=
  st.subscriptions.find? (·.id = id)

def insertSubscription (sub : UserSubscription) : Store := { st with
  subscriptions := st.subscriptions ++ [{ sub with id := st.nextSubscriptionID }]
  nextSubscriptionID := st.nextSubscriptionID + 1 }

def saveSubscription (sub : UserSubscription) : Store :=
  { st with subscriptions := saveRow (·.id) sub st.subscriptions }

/-- The number of subscriptions of a user and a plan, in any status. -/
def countSubscriptions (userID planID : Int) : Int :=
  (st.subscriptions.filter fun sub => sub.userId = userID && sub.planId = planID).length

def topUp? (tradeNo : String) : Option TopUp := st.topUps.find? (·.tradeNo = tradeNo)

/-- An INSERT of a top-up. The trade number is unique. -/
def insertTopUp (topUp : TopUp) : Except SubError Store :=
  if (st.topUp? topUp.tradeNo).isSome then .error .duplicatedKey
  else .ok { st with
    topUps := st.topUps ++ [{ topUp with id := st.nextTopUpID }]
    nextTopUpID := st.nextTopUpID + 1 }

def saveTopUp (topUp : TopUp) : Store :=
  { st with topUps := saveRow (·.id) topUp st.topUps }

def insertBatch (batch : ReferralSettlementBatch) : Store :=
  { st with batches := st.batches.insert (fun id => { batch with id }) fun _ => rfl }

def saveBatch (batch : ReferralSettlementBatch) : Store :=
  { st with batches := st.batches.put batch }

def insertRecord (record : ReferralSettlementRecord) : Store := { st with
  records := st.records ++ [{ record with id := st.nextRecordID }]
  nextRecordID := st.nextRecordID + 1 }

def saveRecord (record : ReferralSettlementRecord) : Store :=
  { st with records := saveRow (·.id) record st.records }

variable {st}

section

variable {id : Int} {user : User} (h : st.user? id = some user)
include h

theorem user?_eq_some : st.users.get id = some user ∧ user.deleted = false := by
  simpa [user?, Option.filter_eq_some_iff] using h

theorem user?_id : user.id = id :=
  st.users.key_get (user?_eq_some h).1

theorem user?_pos : 0 < id :=
  (st.users.inRange (user?_eq_some h).1).1

end

theorem user?_updateUser
    (hf : ∀ user, (f user).id = user.id ∧ (f user).deleted = user.deleted) (id k : Int) :
    (st.updateUser id f).user? k =
      (st.user? k).map fun user => if k = id then f user else user := by
  have hkey : ∀ user : User, (if user.deleted then user else f user).id = user.id := by
    intro user
    split
    · rfl
    · exact (hf user).1
  simp only [user?, updateUser, AutoTable.get_modify _ hkey]
  cases h : st.users.get k with
  | none => rfl
  | some user =>
    by_cases hk : k = id
    · cases hdel : user.deleted <;> simp [hk, hdel, Option.filter, (hf user).2]
    · cases hdel : user.deleted <;> simp [hk, hdel, Option.filter]

theorem plan?_eq_some {id plan} (h : st.plan? id includeDeleted = some plan) :
    st.plans.get id = some plan ∧ (includeDeleted ∨ plan.deleted = false) := by
  simpa [plan?, Option.filter_eq_some_iff] using h

theorem plan?_id {id plan} (h : st.plan? id includeDeleted = some plan) : plan.id = id :=
  st.plans.key_get (plan?_eq_some h).1

theorem get_updatePlan (hf : ∀ plan, (f plan).id = plan.id) (id k : Int) :
    (st.updatePlan id f).plans.get k = (st.plans.get k).map fun plan =>
      if k = id ∧ plan.deleted = false then f plan else plan := by
  have hkey : ∀ plan : SubscriptionPlan, (if plan.deleted then plan else f plan).id = plan.id := by
    intro plan
    split
    · rfl
    · exact hf plan
  simp only [updatePlan, AutoTable.get_modify _ hkey]
  cases st.plans.get k with
  | none => rfl
  | some plan => by_cases hk : k = id <;> cases hdel : plan.deleted <;> simp [hk, hdel]

theorem updatePlan_congr {id plan} (h : st.plan? id includeDeleted = some plan) {f g}
    (hfg : f plan = g plan) : st.updatePlan id f = st.updatePlan id g := by
  unfold updatePlan
  congr 1
  refine st.plans.modify_congr fun row hrow => ?_
  obtain rfl : plan = row := Option.some.inj ((plan?_eq_some h).1.symm.trans hrow)
  rw [hfg]

theorem order?_mem (h : st.order? tradeNo = some order) : order ∈ st.orders :=
  List.mem_of_find?_eq_some h

theorem insertOrder_ok (h : st.insertOrder order = .ok st') :
    st.order? order.tradeNo = none ∧ st' = { st with
      orders := st.orders ++ [{ order with id := st.nextOrderID }]
      nextOrderID := st.nextOrderID + 1 } := by
  unfold insertOrder at h
  split at h
  · cases h
  rename_i hnone
  cases h
  exact ⟨by simpa using hnone, rfl⟩

theorem insertTopUp_ok (h : st.insertTopUp topUp = .ok st') : st' = { st with
      topUps := st.topUps ++ [{ topUp with id := st.nextTopUpID }]
      nextTopUpID := st.nextTopUpID + 1 } := by
  unfold insertTopUp at h
  split at h
  · cases h
  · cases h
    rfl

end Store

end HermesToken.Subscription
