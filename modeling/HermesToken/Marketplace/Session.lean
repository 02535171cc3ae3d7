import HermesToken.Marketplace.Order

/-!
# Fixed-order billing sessions

`MarketplaceFixedOrderBillingSession` of `marketplace_fixed_order_relay.go`:
`Prepare`, `Reserve`, `Settle` and `Refund`. A session lives in memory, the
order in the database. A transaction that rolls back restores the database
but NOT the session, so a call returns the session as it is left, the
database as it is committed, and the error.
-/

namespace HermesToken.Marketplace

open Lib

variable {F : Type}

structure MarketplaceFixedOrderBillingSession (F : Type) where
  (orderID buyerUserID sellerUserID credentialID : Int)
  (model requestID : String)
  (multiplierSnapshot platformFeeRateSnapshot : F)
  preConsumedQuota : Int := 0
  (settled refunded capacityReleased : Bool := false)

structure Call (F : Type) where
  session : MarketplaceFixedOrderBillingSession F
  db : DB F
  result : Except String Unit

namespace MarketplaceFixedOrderBillingSession

variable (s : MarketplaceFixedOrderBillingSession F)

/-- The session after it took `delta` more from the order. -/
def reserved (delta : Int) : MarketplaceFixedOrderBillingSession F :=
  { s with preConsumedQuota := add64 s.preConsumedQuota delta }

/-- The session after it gave `delta` back to the order. -/
def released (delta : Int) : MarketplaceFixedOrderBillingSession F :=
  { s with preConsumedQuota :=
    if sub64 s.preConsumedQuota delta < 0 then 0
    else sub64 s.preConsumedQuota delta }

def asSettled : MarketplaceFixedOrderBillingSession F :=
  { s with settled := true, capacityReleased := true }

def asRefunded : MarketplaceFixedOrderBillingSession F :=
  { s with preConsumedQuota := 0, refunded := true, capacityReleased := true }

end MarketplaceFixedOrderBillingSession

/-- The order row after `delta` was reserved from it. -/
def reservedRow (order : MarketplaceFixedOrder F) (delta : Int) :
    MarketplaceFixedOrder F :=
  { order with
    remainingQuota := sub64 order.remainingQuota delta
    spentQuota := add64 order.spentQuota delta }

/-- The order row after `delta` was given back to it. -/
def releasedRow (order : MarketplaceFixedOrder F) (delta : Int) :
    MarketplaceFixedOrder F :=
  { order with
    remainingQuota := add64 order.remainingQuota delta
    spentQuota :=
      if order.spentQuota ≥ delta then sub64 order.spentQuota delta else 0 }

namespace MarketplaceFixedOrderBillingSession

variable (s : MarketplaceFixedOrderBillingSession F) (db : DB F)

def reserveDeltaTx (delta : Int) :
    Except String (MarketplaceFixedOrderBillingSession F × DB F) :=
  if delta ≤ 0 then .ok (s, db)
  else do
    let order ← found (db.buyerOrder s.orderID s.buyerUserID)
      "marketplace fixed order not found"
    require (order.status = .active)
      ("marketplace fixed order is " ++ order.status.text)
    require (delta ≤ order.remainingQuota)
      "marketplace fixed order remaining quota is insufficient"
    .ok (s.reserved delta, db.saveOrder (reservedRow order delta))

def reserveTx (targetQuota : Int) :
    Except String (MarketplaceFixedOrderBillingSession F × DB F) :=
  if targetQuota ≤ s.preConsumedQuota then .ok (s, db)
  else s.reserveDeltaTx db (sub64 targetQuota s.preConsumedQuota)

/-- Unlike a reservation, a release does not look at the order's status. -/
def releaseDeltaTx (delta : Int) :
    Except String (MarketplaceFixedOrderBillingSession F × DB F) :=
  if delta ≤ 0 then .ok (s, db)
  else do
    let order ← found (db.buyerOrder s.orderID s.buyerUserID)
      "marketplace fixed order not found"
    .ok (s.released delta, db.saveOrder (releasedRow order delta))

/-- The branch of `Settle` on the sign of the difference between the charge and
the reservation. -/
def adjustTx (delta : Int) :
    Except String (MarketplaceFixedOrderBillingSession F × DB F) :=
  if delta > 0 then s.reserveDeltaTx db delta
  else if delta < 0 then s.releaseDeltaTx db (neg64 delta)
  else .ok (s, db)

/-- One request fewer in flight. -/
def freeSlot (stats : MarketplaceCredentialStats) : MarketplaceCredentialStats :=
  if stats.currentConcurrency > 0 then
    { stats with currentConcurrency := stats.currentConcurrency - 1 }
  else stats

theorem freeSlot_credentialID (stats : MarketplaceCredentialStats) :
    (freeSlot stats).credentialID = stats.credentialID := by
  unfold freeSlot
  split <;> rfl

/-- Store the stats and bring the credential's capacity status up to date. -/
def saveCapacity (credentialID : Int) (stats : MarketplaceCredentialStats) :
    Except String (DB F) := do
  let db := db.saveStats stats
  let credential ← found (db.credentials.get credentialID) "record not found"
  .ok (db.saveCredential { credential with
    capacityStatus := marketplaceCredentialCapacityStatus credential stats })

def releaseCapacityTx : Except String (DB F) :=
  saveCapacity db s.credentialID
    (freeSlot (getOrCreateMarketplaceCredentialStatsForUpdate db s.credentialID))

section

variable [FloatOps F]

def buyerChargeForQuota (quota : Int) : Int :=
  marketplaceBuyerChargeWithFee quota s.platformFeeRateSnapshot

/-! ## Settle -/

/-- The first half of the settlement transaction: move the reservation to the
charge. It ends with `s.preConsumedQuota = buyerCharge` in memory. -/
def settleReserve (actualQuota : Int) :
    Except String (MarketplaceFixedOrderBillingSession F × DB F) := do
  let order ← found (db.orders.get s.orderID) "record not found"
  let buyerCharge := marketplaceCapActualFixedOrderBuyerCharge actualQuota
    s.preConsumedQuota order.remainingQuota s.platformFeeRateSnapshot
  let (s, db) ← s.adjustTx db (sub64 buyerCharge s.preConsumedQuota)
  .ok ({ s with preConsumedQuota := buyerCharge }, db)

def marketplaceNextAverageLatency (currentAvg successCountAfterIncrement
    latestLatency : Int) : Int :=
  if successCountAfterIncrement ≤ 1 then latestLatency
  else
    (currentAvg * (successCountAfterIncrement - 1) + latestLatency).tdiv
      successCountAfterIncrement

/-- The fill row of a settlement; the charge is what the session holds after
`settleReserve`. -/
def fill (id latencyMS : Int) : MarketplaceFixedOrderFill F :=
  let sellerIncome := s.preConsumedQuota
    - marketplacePlatformFeeFromBuyerCharge s.preConsumedQuota
        s.platformFeeRateSnapshot
  { id := id
    requestID := s.requestID
    fixedOrderID := s.orderID
    buyerUserID := s.buyerUserID
    sellerUserID := s.sellerUserID
    credentialID := s.credentialID
    model := s.model
    officialCost :=
      marketplaceOfficialCostFromBuyerCharge sellerIncome s.multiplierSnapshot
    multiplierSnapshot := s.multiplierSnapshot
    buyerCharge := s.preConsumedQuota
    latencyMS }

def fillSettlement (fill : MarketplaceFixedOrderFill F) (now : Int) :
    MarketplaceSettlement F :=
  let platformFee := marketplacePlatformFeeFromBuyerCharge s.preConsumedQuota
    s.platformFeeRateSnapshot
  { requestID := s.requestID
    buyerUserID := s.buyerUserID
    sellerUserID := s.sellerUserID
    credentialID := s.credentialID
    sourceType := .fixedOrderFill
    sourceID := fill.id
    buyerCharge := fill.buyerCharge
    platformFee := platformFee
    platformFeeRateSnapshot := s.platformFeeRateSnapshot
    sellerIncome := fill.buyerCharge - platformFee
    officialCost := fill.officialCost
    multiplierSnapshot := s.multiplierSnapshot
    availableAt := now }

def countSuccess (stats : MarketplaceCredentialStats)
    (officialCost latencyMS now : Int) : MarketplaceCredentialStats :=
  { stats with
    fixedOrderRequestCount := stats.fixedOrderRequestCount + 1
    totalRequestCount := stats.totalRequestCount + 1
    totalOfficialCost := stats.totalOfficialCost + officialCost
    quotaUsed := stats.quotaUsed + officialCost
    successCount := stats.successCount + 1
    avgLatencyMS := marketplaceNextAverageLatency stats.avgLatencyMS
      (stats.successCount + 1) latencyMS
    lastSuccessAt := now }

/-- The second half of the settlement transaction: the fill, the settlement,
the counters, and the order closed when nothing is left. Fills have a unique
request id. -/
def settleRecord (latencyMS now : Int) : Except String (DB F) := do
  let order ← found (db.orders.get s.orderID) "record not found"
  let stats :=
    freeSlot (getOrCreateMarketplaceCredentialStatsForUpdate db s.credentialID)
  let latencyMS := if latencyMS < 0 then 0 else latencyMS
  require (¬ db.fills.any (·.requestID = s.requestID))
    "duplicated key not allowed"
  let fill := s.fill (db.fills.length + 1) latencyMS
  let db := { db with fills := db.fills ++ [fill] }
  let db ← createReleasedMarketplaceSettlementTx db (s.fillSettlement fill now)
    now
  let stats := countSuccess stats fill.officialCost latencyMS now
  let exhausted := order.remainingQuota = 0 ∧ order.status = .active
  let stats := if exhausted then closeActiveFixedOrder stats else stats
  let db := if exhausted then db.saveOrder { order with status := .exhausted }
    else db
  saveCapacity db s.credentialID stats

/-- `Settle`. `commits` is whether the final COMMIT succeeds. -/
def settle (commits : Bool) (actualQuota latencyMS now : Int) : Call F :=
  if actualQuota < 0 then ⟨s, db, .error "actual quota must not be negative"⟩
  else if s.settled ∨ s.refunded then ⟨s, db, .ok ()⟩
  else match s.settleReserve db actualQuota with
  | .error e => ⟨s, db, .error e⟩
  | .ok (s, tx) =>
      match s.settleRecord tx latencyMS now with
      | .error e => ⟨s, db, .error e⟩
      | .ok tx =>
          if commits then ⟨s.asSettled, tx, .ok ()⟩
          else ⟨s, db, .error "commit failed"⟩

/-! ## Refund and Reserve -/

/-- `Refund`; its error is only logged. -/
def refund (commits : Bool) : Call F :=
  if s.settled ∨ s.refunded ∨ (s.preConsumedQuota ≤ 0 ∧ s.capacityReleased) then ⟨s, db, .ok ()⟩
  else match s.releaseDeltaTx db s.preConsumedQuota with
  | .error e => ⟨s, db, .error e⟩
  | .ok (s, tx) =>
      match (if s.capacityReleased then .ok tx else s.releaseCapacityTx tx) with
      | .error e => ⟨s, db, .error e⟩
      | .ok tx =>
          if commits then ⟨s.asRefunded, tx, .ok ()⟩
          else ⟨s, db, .error "commit failed"⟩

def needsRefund : Bool :=
  !s.settled && !s.refunded && (s.preConsumedQuota > 0 || !s.capacityReleased)

def reserve (commits : Bool) (targetQuota : Int) : Call F :=
  if targetQuota < 0 then ⟨s, db, .error "target quota must not be negative"⟩
  else if s.settled ∨ s.refunded
      ∨ s.buyerChargeForQuota targetQuota ≤ s.preConsumedQuota then
    ⟨s, db, .ok ()⟩
  else match s.reserveTx db (s.buyerChargeForQuota targetQuota) with
  | .error e => ⟨s, db, .error e⟩
  | .ok (s, tx) =>
      if commits then ⟨s, tx, .ok ()⟩
      else ⟨s, db, .error "commit failed"⟩

end

end MarketplaceFixedOrderBillingSession

/-! ## Prepare -/

structure MarketplaceFixedOrderRelayInput where
  (buyerUserID fixedOrderID : Int)
  model : String
  estimatedQuota : Int
  requestID : String

def validateMarketplaceFixedOrderRelayInput (settings : Settings F)
    (input : MarketplaceFixedOrderRelayInput) : Except String Unit := do
  validateMarketplaceEnabled settings
  require (input.buyerUserID > 0) "buyer user id is required"
  require (input.fixedOrderID > 0) "marketplace fixed order id is required"
  require (trimSpace input.model ≠ "") "model is required"
  require (input.estimatedQuota ≥ 0) "estimated quota must not be negative"
  require (trimSpace input.requestID ≠ "") "request id is required"

/-- The session `Prepare` opens on an order, before it reserves anything. -/
def newSession (order : MarketplaceFixedOrder F)
    (input : MarketplaceFixedOrderRelayInput) :
    MarketplaceFixedOrderBillingSession F :=
  { orderID := order.id
    buyerUserID := order.buyerUserID
    sellerUserID := order.sellerUserID
    credentialID := order.credentialID
    model := input.model
    requestID := input.requestID
    multiplierSnapshot := order.multiplierSnapshot
    platformFeeRateSnapshot := order.platformFeeRateSnapshot }

/-- `PrepareMarketplaceFixedOrderRelay`. An order found due is expired inside
the transaction, and the error that follows rolls that expiry back. -/
def prepareMarketplaceFixedOrderRelay [FloatOps F] (settings : Settings F)
    (db : DB F) (input : MarketplaceFixedOrderRelayInput) (now : Int) :
    Except String (MarketplaceFixedOrderBillingSession F × DB F) := do
  validateMarketplaceFixedOrderRelayInput settings input
  let order ← found (db.buyerOrder input.fixedOrderID input.buyerUserID)
    "marketplace fixed order not found"
  require (order.sellerUserID ≠ input.buyerUserID)
    "cannot use own marketplace fixed order"
  require (order.status = .active)
    ("marketplace fixed order is " ++ order.status.text)
  if isMarketplaceFixedOrderExpired order now then do
    let _ ← expireMarketplaceFixedOrderTx db order now
    .error "marketplace fixed order expired"
  else do
    let credential ← found (db.credentials.get order.credentialID)
      "marketplace credential not found"
    let stats := getOrCreateMarketplaceCredentialStatsForUpdate db credential.id
    require (isMarketplaceCredentialFixedRouteAvailable credential stats)
      "marketplace credential is not available for fixed order relay"
    require (marketplaceCredentialSupportsModel credential input.model)
      ("marketplace credential does not support model " ++ input.model)
    require (¬ (credential.concurrencyLimit > 0
        ∧ stats.currentConcurrency ≥ credential.concurrencyLimit))
      "marketplace credential concurrency is busy"
    let stats := { stats with currentConcurrency := stats.currentConcurrency + 1 }
    let db := db.saveStats stats
    let db := db.saveCredential { credential with
      capacityStatus := marketplaceCredentialCapacityStatus credential stats }
    let secret ← settings.credentialSecret
    let _apiKey ← settings.decryptAPIKey credential.encryptedAPIKey secret
    let session := newSession order input
    if input.estimatedQuota > 0 then
      session.reserveTx db (session.buyerChargeForQuota input.estimatedQuota)
    else .ok (session, db)

end HermesToken.Marketplace
