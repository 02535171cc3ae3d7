import HermesToken.Marketplace.Session
import HermesToken.Marketplace.Settlement

/-!
# Pool sessions

`PrepareMarketplacePoolRelay` and `MarketplacePoolRelaySession` of
`marketplace_pool_relay.go`. A pool session has no quota of its own, the buyer
pays through an ordinary billing session. What it holds is one slot of the
credential, and `Settle` is where the seller is paid.
-/

namespace HermesToken.Marketplace

open Lib MarketplaceFixedOrderBillingSession

variable {F : Type}

structure MarketplacePoolFill (F : Type) where
  id : Int
  requestID : String
  (buyerUserID sellerUserID credentialID : Int)
  model : String
  officialCost : Int
  multiplierSnapshot : F
  (buyerCharge latencyMS : Int)

/-- The database with the fills of the pool, which no fixed-order code
touches. -/
structure PoolDB (F : Type) where
  db : DB F
  poolFills : List (MarketplacePoolFill F) := []

structure MarketplacePoolRelaySession (F : Type) where
  (buyerUserID sellerUserID credentialID : Int)
  (model requestID : String)
  (multiplierSnapshot platformFeeRateSnapshot : F)
  (settled capacityReleased : Bool := false)

/-! ## Prepare -/

/-- What `Prepare` reads of its input. `candidates` are the ids that the
query returns for the filters, of vendor types that are enabled. -/
structure MarketplacePoolRelayInput where
  buyerUserID : Int
  (model requestID : String)
  candidates : List Int

structure MarketplacePoolCandidate (F : Type) where
  credential : MarketplaceCredential F
  stats : MarketplaceCredentialStats

section

variable (credential : MarketplaceCredential F)

def isMarketplacePoolVisibleCredential : Bool :=
  credential.listingStatus = .listed
  && credential.serviceStatus = .enabled
  && (credential.healthStatus = .untested || credential.healthStatus = .healthy
      || credential.healthStatus = .degraded)
  && credential.riskStatus ≠ .riskPaused

def isMarketplacePoolCredentialEligible (stats : MarketplaceCredentialStats) : Bool :=
  isMarketplacePoolVisibleCredential credential
  && marketplaceCredentialCapacityStatus credential stats = .available
  && !(credential.concurrencyLimit > 0 && stats.currentConcurrency ≥ credential.concurrencyLimit)
  && !(credential.quotaMode = .limited && stats.quotaUsed ≥ credential.quotaLimit)

def isMarketplacePoolRelayEligible (stats : MarketplaceCredentialStats) (buyerUserID : Int) :
    Bool :=
  !(buyerUserID > 0 && credential.sellerUserID = buyerUserID)
  && isMarketplaceCredentialPurchaseEligible credential stats
  && marketplaceCredentialHasRoutableProbeScore credential
  && isMarketplacePoolCredentialEligible credential stats

end

/-- The loop over the candidates; `better` is the comparison by route score,
multiplier and id. -/
def selectPoolCandidate (better : MarketplacePoolCandidate F → MarketplacePoolCandidate F → Bool)
    (db : DB F) (buyerUserID : Int) :
    List Int → Option (MarketplacePoolCandidate F) → Option (MarketplacePoolCandidate F)
  | [], selected => selected
  | id :: rest, selected =>
    let selected :=
      match db.credentials.get id with
      | none => selected
      | some credential =>
        let stats := getOrCreateMarketplaceCredentialStatsForUpdate db id
        if isMarketplacePoolRelayEligible credential stats buyerUserID then
          if selected.all (better ⟨credential, stats⟩) then some ⟨credential, stats⟩ else selected
        else selected
    selectPoolCandidate better db buyerUserID rest selected

def validateMarketplacePoolRelayInput (settings : Settings F) (input : MarketplacePoolRelayInput) :
    Except String Unit := do
  validateMarketplaceEnabled settings
  require (input.buyerUserID > 0) "buyer user id is required"
  require (trimSpace input.model ≠ "") "model is required"
  require (trimSpace input.requestID ≠ "") "request id is required"

/-- The session of a request on the credential that was selected. -/
def newPoolSession [FloatOps F] (settings : Settings F) (credential : MarketplaceCredential F)
    (input : MarketplacePoolRelayInput) : MarketplacePoolRelaySession F :=
  { buyerUserID := input.buyerUserID
    sellerUserID := credential.sellerUserID
    credentialID := credential.id
    model := input.model
    requestID := input.requestID
    multiplierSnapshot := credential.multiplier
    platformFeeRateSnapshot := marketplaceFeeRateSnapshot settings.feeRate }

def prepareMarketplacePoolRelay [FloatOps F] (settings : Settings F)
    (better : MarketplacePoolCandidate F → MarketplacePoolCandidate F → Bool) (d : PoolDB F)
    (input : MarketplacePoolRelayInput) :
    Except String (MarketplacePoolRelaySession F × PoolDB F) := do
  validateMarketplacePoolRelayInput settings input
  let selected ← found (selectPoolCandidate better d.db input.buyerUserID input.candidates none)
    "no eligible marketplace pool credential"
  let stats := { selected.stats with
    currentConcurrency := selected.stats.currentConcurrency + 1 }
  let credential := { selected.credential with
    capacityStatus := marketplaceCredentialCapacityStatus selected.credential stats }
  let db := (d.db.saveStats stats).saveCredential credential
  let secret ← settings.credentialSecret
  let _apiKey ← settings.decryptAPIKey credential.encryptedAPIKey secret
  .ok (newPoolSession settings credential input, { d with db })

/-! ## Settle and Release -/

structure PoolCall (F : Type) where
  session : MarketplacePoolRelaySession F
  store : PoolDB F
  result : Except String Unit

namespace MarketplacePoolRelaySession

variable (s : MarketplacePoolRelaySession F) (d : PoolDB F)

/-- `releaseCapacityLocked` and `Release`; an error is only logged. -/
def releaseCapacity (commits : Bool) : MarketplacePoolRelaySession F × PoolDB F :=
  if s.capacityReleased then (s, d)
  else
    match MarketplaceFixedOrderBillingSession.saveCapacity d.db s.credentialID
      (MarketplaceFixedOrderBillingSession.freeSlot
        (getOrCreateMarketplaceCredentialStatsForUpdate d.db s.credentialID)) with
    | .error _ => (s, d)
    | .ok db => if commits then ({ s with capacityReleased := true }, { d with db })
        else (s, d)

section

variable [FloatOps F]

def buyerChargeForQuota (quota : Int) : Int :=
  marketplaceBuyerChargeWithFee quota s.platformFeeRateSnapshot

def fill (id buyerCharge latencyMS : Int) : MarketplacePoolFill F :=
  let sellerIncome := buyerCharge
    - marketplacePlatformFeeFromBuyerCharge buyerCharge s.platformFeeRateSnapshot
  { id := id
    requestID := s.requestID
    buyerUserID := s.buyerUserID
    sellerUserID := s.sellerUserID
    credentialID := s.credentialID
    model := s.model
    officialCost := marketplaceOfficialCostFromBuyerCharge sellerIncome s.multiplierSnapshot
    multiplierSnapshot := s.multiplierSnapshot
    buyerCharge := buyerCharge
    latencyMS }

def fillSettlement (fill : MarketplacePoolFill F) (now : Int) : MarketplaceSettlement F :=
  let platformFee := marketplacePlatformFeeFromBuyerCharge fill.buyerCharge
    s.platformFeeRateSnapshot
  { requestID := s.requestID
    buyerUserID := s.buyerUserID
    sellerUserID := s.sellerUserID
    credentialID := s.credentialID
    sourceType := .poolFill
    sourceID := fill.id
    buyerCharge := fill.buyerCharge
    platformFee := platformFee
    platformFeeRateSnapshot := s.platformFeeRateSnapshot
    sellerIncome := fill.buyerCharge - platformFee
    officialCost := fill.officialCost
    multiplierSnapshot := s.multiplierSnapshot
    availableAt := now }

def countSuccess (stats : MarketplaceCredentialStats) (officialCost latencyMS now : Int) :
    MarketplaceCredentialStats :=
  { stats with
    totalRequestCount := stats.totalRequestCount + 1
    totalOfficialCost := stats.totalOfficialCost + officialCost
    quotaUsed := stats.quotaUsed + officialCost
    successCount := stats.successCount + 1
    avgLatencyMS := MarketplaceFixedOrderBillingSession.marketplaceNextAverageLatency
      stats.avgLatencyMS (stats.successCount + 1) latencyMS
    lastSuccessAt := now }

/-- The settlement transaction. The slot is given back whether or not the
session still has it. -/
def settleTx (buyerCharge latencyMS now : Int) : Except String (PoolDB F) := do
  let credential ← found (d.db.credentials.get s.credentialID) "record not found"
  let stats := MarketplaceFixedOrderBillingSession.freeSlot
    (getOrCreateMarketplaceCredentialStatsForUpdate d.db s.credentialID)
  let latencyMS := if latencyMS < 0 then 0 else latencyMS
  require (¬ d.poolFills.any (·.requestID = s.requestID)) "duplicated key not allowed"
  let fill := s.fill (d.poolFills.length + 1) buyerCharge latencyMS
  let db ← createReleasedMarketplaceSettlementTx d.db (s.fillSettlement fill now) now
  let stats := countSuccess stats fill.officialCost latencyMS now
  let db := (db.saveStats stats).saveCredential { credential with
    capacityStatus := marketplaceCredentialCapacityStatus credential stats }
  .ok { db, poolFills := d.poolFills ++ [fill] }

/-- `Settle`. A transaction that fails is followed by one that only gives the
slot back; `commits` and `releases` are whether their COMMITs succeed. -/
def settle (commits releases : Bool) (buyerCharge latencyMS now : Int) : PoolCall F :=
  if buyerCharge < 0 then ⟨s, d, .error "buyer charge must not be negative"⟩
  else if s.settled then ⟨s, d, .ok ()⟩
  else match s.settleTx d buyerCharge latencyMS now with
  | .error e =>
    let released := s.releaseCapacity d releases
    ⟨released.1, released.2, .error e⟩
  | .ok tx =>
    if commits then ⟨{ s with settled := true, capacityReleased := true }, tx, .ok ()⟩
    else
      let released := s.releaseCapacity d releases
      ⟨released.1, released.2, .error "commit failed"⟩

end

end MarketplacePoolRelaySession

/-! ## What the transactions do -/

section

variable {d : PoolDB F} {s s' : MarketplacePoolRelaySession F}

/-- The counters stored, and the credential with the capacity they leave. -/
def DB.saveUse (db : DB F) (credential : MarketplaceCredential F)
    (stats : MarketplaceCredentialStats) : DB F :=
  (db.saveStats stats).saveCredential { credential with
    capacityStatus := marketplaceCredentialCapacityStatus credential stats }

/-- One request more in flight. -/
def takeSlot (stats : MarketplaceCredentialStats) : MarketplaceCredentialStats :=
  { stats with currentConcurrency := stats.currentConcurrency + 1 }

/-- The row of an eligible credential, with its counters. -/
structure PoolCandidateOf (db : DB F) (buyerUserID : Int) (c : MarketplacePoolCandidate F) :
    Prop where
  stored : db.credentials.get c.credential.id = some c.credential
  stats : c.stats = getOrCreateMarketplaceCredentialStatsForUpdate db c.credential.id
  eligible : isMarketplacePoolRelayEligible c.credential c.stats buyerUserID = true

/-- By induction on the candidates: whatever is selected was found eligible. -/
theorem selectPoolCandidate_of {db buyerUserID} :
    ∀ (ids : List Int) (selected : Option (MarketplacePoolCandidate F)),
      (∀ c ∈ selected, PoolCandidateOf db buyerUserID c) →
      ∀ c ∈ selectPoolCandidate better db buyerUserID ids selected,
        PoolCandidateOf db buyerUserID c := by
  intro ids
  induction ids with
  | nil => exact fun selected h => h
  | cons id _ ih =>
  intro selected h
  refine ih _ ?_
  cases hget : db.credentials.get id with
  | none => exact h
  | some credential =>
  have hid : credential.id = id := db.credentials.key_get hget
  dsimp only
  split
  · rename_i helig
    split
    · intro c hc
      obtain rfl := Option.some.inj hc
      exact ⟨by rw [hid]; exact hget, by rw [hid], helig⟩
    · exact h
  · exact h

/-- **Prepare** takes a slot of an eligible credential, and nothing else
changes. -/
theorem preparePool_ok {input} [FloatOps F] {settings}
    (h : prepareMarketplacePoolRelay settings better d input = .ok (s, d')) :
    ∃ c, PoolCandidateOf d.db input.buyerUserID c ∧ 0 < input.buyerUserID ∧
      trimSpace input.requestID ≠ "" ∧ s = newPoolSession settings c.credential input ∧
      d' = { d with db := d.db.saveUse c.credential (takeSlot c.stats) } := by
  simp only [prepareMarketplacePoolRelay, validateMarketplacePoolRelayInput, seq_ok,
    require_ok, found_ok] at h
  obtain ⟨_, ⟨_, _, _, hbuyer, _, _, hreq⟩, c, hsel, _, _, _, _, hpair⟩ := h
  obtain ⟨rfl, rfl⟩ := Prod.mk.inj (Except.ok.inj hpair)
  exact ⟨c, selectPoolCandidate_of _ none (fun _ h => by cases h) c hsel, hbuyer, hreq, rfl, rfl⟩

theorem saveCapacity_ok {credentialID stats}
    (h : saveCapacity db credentialID stats = .ok db') :
    ∃ credential, db.credentials.get credentialID = some credential ∧
      db' = db.saveUse credential stats := by
  simp only [saveCapacity, found_seq_ok] at h
  obtain ⟨credential, hget, hok⟩ := h
  exact ⟨credential, hget, (Except.ok.inj hok).symm⟩

/-- **Release** gives the slot back, or does nothing. -/
theorem releaseCapacity_cases (s : MarketplacePoolRelaySession F) (d : PoolDB F) (commits : Bool) :
    s.releaseCapacity d commits = (s, d) ∨
      s.capacityReleased = false ∧ ∃ credential,
        d.db.credentials.get s.credentialID = some credential ∧
        s.releaseCapacity d commits = ({ s with capacityReleased := true },
          { d with db := d.db.saveUse credential (freeSlot
              (getOrCreateMarketplaceCredentialStatsForUpdate d.db s.credentialID)) }) := by
  unfold MarketplacePoolRelaySession.releaseCapacity
  split
  · exact .inl rfl
  rename_i hheld
  split
  · exact .inl rfl
  rename_i db hsave
  obtain ⟨credential, hget, rfl⟩ := saveCapacity_ok hsave
  split
  · exact .inr ⟨by simpa using hheld, credential, hget, rfl⟩
  · exact .inl rfl

variable [FloatOps F] {buyerCharge latencyMS now : Int}

def MarketplacePoolRelaySession.settlementOf (s : MarketplacePoolRelaySession F) (d : PoolDB F)
    (buyerCharge latencyMS now : Int) : MarketplaceSettlement F :=
  s.fillSettlement (s.fill (d.poolFills.length + 1) buyerCharge
    (if latencyMS < 0 then 0 else latencyMS)) now

/-- **The settlement transaction**: one fill, at most one settlement, and one
slot given back. -/
theorem settleTx_ok (h : s.settleTx d buyerCharge latencyMS now = .ok d') :
    ∃ credential tx stats, d.db.credentials.get s.credentialID = some credential ∧
      (∀ f ∈ d.poolFills, f.requestID ≠ s.requestID) ∧
      createReleasedMarketplaceSettlementTx d.db (s.settlementOf d buyerCharge latencyMS now) now =
        .ok tx ∧
      stats.credentialID = (getOrCreateMarketplaceCredentialStatsForUpdate d.db
        s.credentialID).credentialID ∧
      stats.currentConcurrency = (freeSlot
        (getOrCreateMarketplaceCredentialStatsForUpdate d.db s.credentialID)).currentConcurrency ∧
      d' = { db := tx.saveUse credential stats
             poolFills := d.poolFills ++ [s.fill (d.poolFills.length + 1) buyerCharge
              (if latencyMS < 0 then 0 else latencyMS)] } := by
  obtain ⟨credential, hget, h⟩ := found_seq_ok.mp h
  obtain ⟨hfrs, h⟩ := require_seq_ok.mp h
  obtain ⟨tx, htx, hpair⟩ := seq_ok.mp h
  refine ⟨credential, tx, _, hget, by simpa using hfrs, htx, ?_, ?_, (Except.ok.inj hpair).symm⟩
  · exact freeSlot_credentialID _
  · rfl

end

end HermesToken.Marketplace
