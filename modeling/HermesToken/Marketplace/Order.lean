import HermesToken.Lib.GoString
import HermesToken.Lib.Guard
import HermesToken.Lib.Table
import HermesToken.Marketplace.Fee

/-!
# Fixed orders: tables, purchase, expiry and probe refund

The rows of `model/marketplace.go` that the fixed-order code reads and writes,
and the transactions of `marketplace_buyer.go` and `marketplace_settlement.go`
on them. A transaction is a function from the database to the database it
leaves, or the error it rolls back with.
-/

namespace HermesToken.Marketplace

open Lib

inductive FixedOrderStatus where
  | active | exhausted | expired | suspended | refunded
  deriving DecidableEq

def FixedOrderStatus.text : FixedOrderStatus → String
  | .active => "active"
  | .exhausted => "exhausted"
  | .expired => "expired"
  | .suspended => "suspended"
  | .refunded => "refunded"

inductive ListingStatus where
  | listed | unlisted
  deriving DecidableEq

inductive ServiceStatus where
  | enabled | disabled
  deriving DecidableEq

inductive HealthStatus where
  | untested | healthy | degraded | failed
  deriving DecidableEq

inductive CapacityStatus where
  | available | busy | exhausted
  deriving DecidableEq

inductive RiskStatus where
  | normal | watching | riskPaused
  deriving DecidableEq

inductive ProbeStatus where
  | unscored | pending | running | passed | warning | failed
  deriving DecidableEq

/-- `quota_mode` and `time_mode`; `unset` is the empty string. -/
inductive LimitMode where
  | unset | unlimited | limited
  deriving DecidableEq

inductive SettlementSource where
  | fixedOrderFill | fixedOrderFinal | poolFill
  deriving DecidableEq

inductive SettlementStatus where
  | pending | available | withdrawn | blocked | reversed
  deriving DecidableEq

structure MarketplaceCredential (F : Type) where
  (id sellerUserID : Int)
  (encryptedAPIKey models : String)
  quotaMode : LimitMode
  quotaLimit : Int
  timeMode : LimitMode
  timeLimitSeconds : Int
  multiplier : F
  concurrencyLimit : Int
  listingStatus : ListingStatus
  serviceStatus : ServiceStatus
  healthStatus : HealthStatus
  capacityStatus : CapacityStatus
  riskStatus : RiskStatus
  probeStatus : ProbeStatus
  (probeScore probeScoreMax : Int)

structure MarketplaceCredentialStats where
  credentialID : Int
  (currentConcurrency totalRequestCount fixedOrderRequestCount totalOfficialCost quotaUsed
    fixedOrderSoldQuota activeFixedOrderCount successCount avgLatencyMS lastSuccessAt : Int := 0)

/-- The outcome of a probe of the credential; `status = none` is the empty
string of an order that was never probed. -/
structure MarketplaceProbeCompletion where
  status : Option ProbeStatus := none
  (score scoreMax : Int := 0)
  grade : String := ""
  deriving DecidableEq

structure MarketplaceFixedOrder (F : Type) where
  (id buyerUserID sellerUserID credentialID purchasedQuota remainingQuota : Int)
  (spentQuota expiredQuota refundedQuota : Int := 0)
  purchaseProbeScore : Int
  refundProbe : MarketplaceProbeCompletion := {}
  (refundProbeCheckedAt refundedAt : Int := 0)
  (multiplierSnapshot platformFeeRateSnapshot : F)
  expiresAt : Int
  status : FixedOrderStatus
  deriving DecidableEq

structure MarketplaceFixedOrderFill (F : Type) where
  id : Int
  requestID : String
  (fixedOrderID buyerUserID sellerUserID credentialID : Int)
  model : String
  officialCost : Int
  multiplierSnapshot : F
  (buyerCharge latencyMS : Int)

structure MarketplaceSettlement (F : Type) where
  requestID : String
  (buyerUserID sellerUserID credentialID : Int)
  sourceType : SettlementSource
  (sourceID buyerCharge platformFee : Int)
  platformFeeRateSnapshot : F
  (sellerIncome officialCost : Int)
  multiplierSnapshot : F
  status : SettlementStatus := .pending
  availableAt : Int

/-- The log entry of a probe refund: the quota given back to the buyer. -/
structure FixedOrderRefund where
  (fixedOrderID quota : Int)

structure User where
  id : Int
  enabled : Bool
  quota : Int

/-- The committed database, as far as fixed orders use it. Fills, settlements
and refund log entries are only ever inserted. -/
structure DB (F : Type) where
  orders : Table Int (MarketplaceFixedOrder F) (·.id)
  nextOrderID : Int := 1
  credentials : Table Int (MarketplaceCredential F) (·.id)
  stats : Table Int MarketplaceCredentialStats (·.credentialID)
  users : Table Int User (·.id)
  fills : List (MarketplaceFixedOrderFill F) := []
  settlements : List (MarketplaceSettlement F) := []
  refunds : List FixedOrderRefund := []

/-- The settings and the secret store the fixed-order code reads. -/
structure Settings (F : Type) where
  enabled : Bool := true
  (feeRate quotaPerUnit : F)
  (minFixedOrderQuota maxFixedOrderQuota fixedOrderDefaultExpirySeconds : Int := 0)
  credentialSecret : Except String String := .ok ""
  decryptAPIKey : String → String → Except String String := fun key _ => .ok key

variable {F : Type}

namespace DB

/-- `tx.Save(&order)`: every column of the row is overwritten. -/
def saveOrder (db : DB F) (order : MarketplaceFixedOrder F) : DB F :=
  { db with orders := db.orders.save order }

/-- `tx.Create(order)` under the next id. -/
def insertOrder (db : DB F) (order : MarketplaceFixedOrder F) : DB F := { db with
  orders := db.orders.save order
  nextOrderID := db.nextOrderID + 1 }

def saveStats (db : DB F) (stats : MarketplaceCredentialStats) : DB F :=
  { db with stats := db.stats.save stats }

def saveCredential (db : DB F) (credential : MarketplaceCredential F) : DB F :=
  { db with credentials := db.credentials.save credential }

/-- `quota = quota + delta` on one user; no row matches when the user is
missing. -/
def addUserQuota (db : DB F) (userID delta : Int) : DB F :=
  match db.users.get userID with
  | none => db
  | some u => { db with users := db.users.save { u with quota := u.quota + delta } }

def logRefund (db : DB F) (entry : FixedOrderRefund) : DB F :=
  { db with refunds := db.refunds ++ [entry] }

/-- `WHERE id = ? AND buyer_user_id = ?` -/
def buyerOrder (db : DB F) (orderID buyerUserID : Int) :
    Option (MarketplaceFixedOrder F) :=
  (db.orders.get orderID).filter fun o => o.buyerUserID = buyerUserID

theorem buyerOrder_eq_some {db : DB F} {o : MarketplaceFixedOrder F} :
    db.buyerOrder orderID buyerUserID = some o
      ↔ db.orders.get orderID = some o ∧ o.buyerUserID = buyerUserID := by
  simp [buyerOrder, Option.filter_eq_some_iff]

end DB

def getOrCreateMarketplaceCredentialStatsForUpdate (db : DB F)
    (credentialID : Int) : MarketplaceCredentialStats :=
  (db.stats.get credentialID).getD { credentialID }

section

variable (credential : MarketplaceCredential F)

/-! ## Credentials -/

def marketplaceCredentialCapacityStatus (stats : MarketplaceCredentialStats) : CapacityStatus :=
  if credential.quotaMode = .limited ∧ credential.quotaLimit > 0
      ∧ stats.quotaUsed ≥ credential.quotaLimit then .exhausted
  else if credential.concurrencyLimit > 0
      ∧ stats.currentConcurrency ≥ credential.concurrencyLimit then .busy
  else .available

def marketplaceCredentialHasRoutableProbeScore : Bool :=
  match credential.probeStatus with
  | .passed | .warning =>
      credential.probeScore > 0 && credential.probeScoreMax > 0
  | _ => false

def isMarketplaceCredentialFixedRouteAvailable (stats : MarketplaceCredentialStats) : Bool :=
  credential.serviceStatus = .enabled
  && (credential.healthStatus = .healthy || credential.healthStatus = .degraded)
  && marketplaceCredentialHasRoutableProbeScore credential
  && marketplaceCredentialCapacityStatus credential stats ≠ .exhausted
  && credential.riskStatus ≠ .riskPaused

def isMarketplaceCredentialPurchaseEligible (stats : MarketplaceCredentialStats) : Bool :=
  credential.listingStatus = .listed
  && credential.serviceStatus = .enabled
  && (credential.healthStatus = .untested || credential.healthStatus = .healthy
      || credential.healthStatus = .degraded)
  && marketplaceCredentialHasRoutableProbeScore credential
  && marketplaceCredentialCapacityStatus credential stats ≠ .exhausted
  && credential.riskStatus ≠ .riskPaused

def marketplaceCredentialSupportsModel (modelName : String) : Bool :=
  let modelName := trimSpace modelName
  modelName ≠ ""
  && (split credential.models ',').any fun supported =>
      trimSpace supported = modelName

end

/-! ## Settlements -/

/-- Insert a settlement as available and credit the seller. A request id that
is already settled inserts nothing. -/
def createReleasedMarketplaceSettlementTx (db : DB F)
    (settlement : MarketplaceSettlement F) (now : Int) :
    Except String (DB F) :=
  if settlement.buyerCharge ≤ 0 then .ok db
  else do
    require (settlement.sellerUserID > 0) "seller user id is required"
    require (trimSpace settlement.requestID ≠ "")
      "marketplace settlement request id is required"
    require (settlement.sellerIncome ≥ 0)
      "marketplace seller income must not be negative"
    let settlement := { settlement with
      availableAt :=
        if settlement.availableAt ≤ 0 then now else settlement.availableAt
      status := .available }
    require (settlement.sellerIncome ≤ maxInt64)
      "released marketplace income exceeds supported user quota range"
    if db.settlements.any (·.requestID = settlement.requestID) then .ok db
    else do
      let db := { db with settlements := db.settlements ++ [settlement] }
      if settlement.sellerIncome ≤ 0 then .ok db
      else do
        require (db.users.get settlement.sellerUserID).isSome
          "seller user not found"
        .ok (db.addUserQuota settlement.sellerUserID settlement.sellerIncome)

def marketplaceFixedOrderFinalSettlementRequestID (orderID : Int) : String :=
  "marketplace_fixed_order_final:" ++ toString orderID

section

variable [FloatOps F]

/-- The settlement that pays the seller the quota left at expiry. -/
def marketplaceFixedOrderFinalSettlement (order : MarketplaceFixedOrder F)
    (now : Int) : MarketplaceSettlement F :=
  let platformFee := marketplacePlatformFeeFromBuyerCharge order.expiredQuota
    order.platformFeeRateSnapshot
  { requestID := marketplaceFixedOrderFinalSettlementRequestID order.id
    buyerUserID := order.buyerUserID
    sellerUserID := order.sellerUserID
    credentialID := order.credentialID
    sourceType := .fixedOrderFinal
    sourceID := order.id
    buyerCharge := order.expiredQuota
    platformFee := platformFee
    platformFeeRateSnapshot := order.platformFeeRateSnapshot
    sellerIncome := order.expiredQuota - platformFee
    officialCost := 0
    multiplierSnapshot := order.multiplierSnapshot
    availableAt := now }

def settleMarketplaceFixedOrderFinalTx (db : DB F)
    (order : MarketplaceFixedOrder F) (now : Int) : Except String (DB F) :=
  if order.id ≤ 0 ∨ order.expiredQuota ≤ 0 then .ok db
  else
    createReleasedMarketplaceSettlementTx db
      (marketplaceFixedOrderFinalSettlement order now) now

end

/-! ## Expiry -/

def isMarketplaceFixedOrderExpired (order : MarketplaceFixedOrder F)
    (now : Int) : Bool :=
  order.expiresAt > 0 && order.expiresAt ≤ now

def closeActiveFixedOrder (stats : MarketplaceCredentialStats) :
    MarketplaceCredentialStats :=
  if stats.activeFixedOrderCount > 0 then
    { stats with activeFixedOrderCount := stats.activeFixedOrderCount - 1 }
  else stats

theorem closeActive_concurrency (stats : MarketplaceCredentialStats) :
    (closeActiveFixedOrder stats).credentialID = stats.credentialID ∧
      (closeActiveFixedOrder stats).currentConcurrency = stats.currentConcurrency := by
  unfold closeActiveFixedOrder
  split <;> exact ⟨rfl, rfl⟩

/-- The row an expiry writes: what was left becomes expired quota. -/
def expiredRow (order : MarketplaceFixedOrder F) : MarketplaceFixedOrder F := { order with
  expiredQuota := add64 order.expiredQuota order.remainingQuota
  remainingQuota := 0
  status := .expired }

/-- The expiry transaction. It works on the row it is HANDED, whatever the
table holds by now, and saves that row whole. -/
def expireMarketplaceFixedOrderTx [FloatOps F] (db : DB F)
    (order : MarketplaceFixedOrder F) (now : Int) : Except String (DB F) :=
  if order.status ≠ .active then .ok db
  else do
    let order := expiredRow order
    let db ← settleMarketplaceFixedOrderFinalTx db order now
    let db := db.saveOrder order
    let stats := getOrCreateMarketplaceCredentialStatsForUpdate db
      order.credentialID
    .ok (db.saveStats (closeActiveFixedOrder stats))

section

variable (settings : Settings F)

/-- The plain SELECT of `GetBuyerMarketplaceFixedOrder`: the copy of the row
that the expiry transaction will be handed, if the order is due. -/
def getBuyerMarketplaceFixedOrderRead (db : DB F) (buyerUserID fixedOrderID now : Int) :
    Option (MarketplaceFixedOrder F) :=
  if settings.enabled then
    (db.buyerOrder fixedOrderID buyerUserID).filter
      (isMarketplaceFixedOrderExpired · now)
  else none

/-- The plain SELECT of `expireDueBuyerMarketplaceFixedOrders`, for one of the
rows it returns. -/
def expireDueBuyerMarketplaceFixedOrdersRead (db : DB F)
    (buyerUserID fixedOrderID now : Int) :
    Option (MarketplaceFixedOrder F) :=
  if buyerUserID ≤ 0 then none
  else
    (db.buyerOrder fixedOrderID buyerUserID).filter fun order =>
      order.status = .active && isMarketplaceFixedOrderExpired order now

/-! ## Purchase -/

structure MarketplaceFixedOrderCreateInput (F : Type) where
  (buyerUserID credentialID purchasedQuota : Int)
  purchasedAmountUSD : F

def normalizeMarketplaceFixedOrderCreateInput [FloatOps F]
    (input : MarketplaceFixedOrderCreateInput F) : MarketplaceFixedOrderCreateInput F :=
  if input.purchasedQuota ≤ 0 ∧ FloatOps.isPos input.purchasedAmountUSD then
    { input with
      purchasedQuota :=
        FloatOps.roundProduct input.purchasedAmountUSD settings.quotaPerUnit }
  else input

def validateMarketplaceEnabled : Except String Unit :=
  require settings.enabled "marketplace is not enabled"

def validateMarketplaceFixedOrderInput (input : MarketplaceFixedOrderCreateInput F) :
    Except String Unit := do
  validateMarketplaceEnabled settings
  require (input.buyerUserID > 0) "buyer user id is required"
  require (input.credentialID > 0) "marketplace credential id is required"
  require (input.purchasedQuota > 0) "purchased quota must be positive"
  require (input.purchasedQuota ≤ maxInt64)
    "purchased quota exceeds supported user quota range"
  require (¬ (settings.minFixedOrderQuota > 0
      ∧ input.purchasedQuota < settings.minFixedOrderQuota))
    ("purchased quota must be at least " ++ toString settings.minFixedOrderQuota)
  require (¬ (settings.maxFixedOrderQuota > 0
      ∧ input.purchasedQuota > settings.maxFixedOrderQuota))
    ("purchased quota must be at most " ++ toString settings.maxFixedOrderQuota)

def marketplaceFixedOrderExpiresAt (credential : MarketplaceCredential F) (now : Int) : Int :=
  if credential.timeMode = .limited then now + credential.timeLimitSeconds
  else if credential.timeMode = .unset
      ∧ settings.fixedOrderDefaultExpirySeconds > 0 then
    now + settings.fixedOrderDefaultExpirySeconds
  else 0

/-- The row a purchase inserts: the whole purchased quota is remaining. -/
def newFixedOrder (id buyerUserID purchasedQuota : Int) (feeRate : F)
    (credential : MarketplaceCredential F) (now : Int) : MarketplaceFixedOrder F :=
  { id := id
    buyerUserID := buyerUserID
    sellerUserID := credential.sellerUserID
    credentialID := credential.id
    purchasedQuota := purchasedQuota
    remainingQuota := purchasedQuota
    purchaseProbeScore := credential.probeScore
    multiplierSnapshot := credential.multiplier
    platformFeeRateSnapshot := feeRate
    expiresAt := marketplaceFixedOrderExpiresAt settings credential now
    status := .active }

def createMarketplaceFixedOrder [FloatOps F] (db : DB F)
    (input : MarketplaceFixedOrderCreateInput F) (now : Int) :
    Except String (DB F) := do
  let input := normalizeMarketplaceFixedOrderCreateInput settings input
  let feeRate := marketplaceFeeRateSnapshot settings.feeRate
  let purchased ← marketplaceBuyerChargeQuotaWithFee input.purchasedQuota feeRate
  validateMarketplaceFixedOrderInput settings
    { input with purchasedQuota := purchased }
  let credential ← found (db.credentials.get input.credentialID)
    "marketplace credential not found"
  require (credential.sellerUserID ≠ input.buyerUserID)
    "cannot buy own marketplace credential"
  let stats := getOrCreateMarketplaceCredentialStatsForUpdate db credential.id
  require (isMarketplaceCredentialPurchaseEligible credential stats)
    "marketplace credential is not eligible for fixed order purchase"
  let buyer ← found (db.users.get input.buyerUserID) "buyer user not found"
  require buyer.enabled "buyer user is disabled"
  require (purchased ≤ buyer.quota) "insufficient buyer quota"
  let db := db.addUserQuota input.buyerUserID (-purchased)
  let db := db.insertOrder (newFixedOrder settings db.nextOrderID
    input.buyerUserID purchased feeRate credential now)
  .ok (db.saveStats { stats with
    fixedOrderSoldQuota := stats.fixedOrderSoldQuota + purchased
    activeFixedOrderCount := stats.activeFixedOrderCount + 1 })

end

/-! ## Probe refund -/

def marketplaceFixedOrderProbeRefundScoreDrop : Int := 5

/-- The row with the outcome of a detection run. -/
def probedRow (order : MarketplaceFixedOrder F)
    (completion : MarketplaceProbeCompletion) (now : Int) :
    MarketplaceFixedOrder F :=
  { order with refundProbe := completion, refundProbeCheckedAt := now }

/-- A detection run stores its outcome on the active order; only the probe
columns are written. -/
def recordMarketplaceFixedOrderRefundProbeCompletion (db : DB F)
    (fixedOrderID : Int) (completion : MarketplaceProbeCompletion)
    (now : Int) : DB F :=
  match db.orders.get fixedOrderID with
  | none => db
  | some order =>
      if order.status = .active then db.saveOrder (probedRow order completion now)
      else db

section

variable (order : MarketplaceFixedOrder F) (completion : MarketplaceProbeCompletion) (now : Int)

def validateMarketplaceFixedOrderReleaseProbe : Except String Unit := do
  require (order.status = .active)
    ("marketplace fixed order is " ++ order.status.text)
  require (order.remainingQuota > 0)
    "marketplace fixed order has no remaining quota to refund"
  require (order.purchaseProbeScore > 0)
    "marketplace fixed order has no purchase probe score"
  require (¬ isMarketplaceFixedOrderExpired order now)
    "marketplace fixed order expired"
  require (completion.score
      ≤ order.purchaseProbeScore - marketplaceFixedOrderProbeRefundScoreDrop)
    ("marketplace fixed order probe score drop is less than "
      ++ toString marketplaceFixedOrderProbeRefundScoreDrop)

/-- The row a probe refund writes: what was left goes back to the buyer. -/
def refundedRow : MarketplaceFixedOrder F := { order with
  refundProbe := completion
  refundProbeCheckedAt := now
  refundedQuota := add64 order.refundedQuota order.remainingQuota
  remainingQuota := 0
  status := .refunded
  refundedAt := now }

end

/-- The refund of the remaining quota after a failed probe. The checks of
`validateMarketplaceFixedOrderReleaseProbe` are made twice in the source, once
before the stored detection is compared. -/
def refundBuyerMarketplaceFixedOrderRemainingQuota (db : DB F)
    (buyerUserID fixedOrderID : Int)
    (completion : MarketplaceProbeCompletion) (now : Int) :
    Except String (DB F) := do
  let order ← found (db.buyerOrder fixedOrderID buyerUserID)
    "marketplace fixed order not found"
  require (order.status = .active)
    ("marketplace fixed order is " ++ order.status.text)
  require (order.remainingQuota > 0)
    "marketplace fixed order has no remaining quota to refund"
  require (order.purchaseProbeScore > 0)
    "marketplace fixed order has no purchase probe score"
  require (¬ isMarketplaceFixedOrderExpired order now)
    "marketplace fixed order expired"
  require (order.refundProbe.status.isSome ∧ order.refundProbeCheckedAt > 0)
    "please detect the marketplace fixed order first"
  require (order.refundProbe = completion)
    "marketplace fixed order probe result changed, please detect again"
  validateMarketplaceFixedOrderReleaseProbe order completion now
  let db := db.saveOrder (refundedRow order completion now)
  let stats := getOrCreateMarketplaceCredentialStatsForUpdate db
    order.credentialID
  let db := db.saveStats (closeActiveFixedOrder stats)
  let db := db.addUserQuota buyerUserID order.remainingQuota
  .ok (db.logRefund ⟨order.id, order.remainingQuota⟩)

end HermesToken.Marketplace
