import HermesToken.Billing.Held
import HermesToken.Billing.Price
import HermesToken.Marketplace.Pool

/-!
# A request to the pool

`MarketplacePoolRelay` of `controller/marketplace_relay.go` from `Prepare` on,
with `MarketplacePoolBillingSession`. The buyer pays from the funding session,
the seller is paid by the pool session. `Settle` does the one and then the
other, in two transactions. A model that is free for the buyer's group has no
funding session, but its requests are still settled in the pool.
-/

namespace HermesToken.Marketplace

open Lib MarketplacePoolRelaySession
open Billing (Accounts BillingSession Faults RelayInfo Source Trust PriceSettings
  PriceInfo PriceData TokenCountMeta BillingSnapshot SameFunds Held fundingDebit
  preConsumeBilling preConsumeBilling_holds)

variable {F : Type}

/-! ## The billing session -/

structure MarketplacePoolBillingSession (F : Type) where
  funding : Option BillingSession
  pool : MarketplacePoolRelaySession F

/-- Which writes of a call the database accepts, and its clock. -/
structure PoolWrites where
  faults : Faults := {}
  (commits releases : Bool := true)
  (latencyMS now : Int := 0)

structure PoolBillingCall (F : Type) where
  session : MarketplacePoolBillingSession F
  accounts : Accounts
  store : PoolDB F
  result : Except String Unit

namespace MarketplacePoolBillingSession

variable (s : MarketplacePoolBillingSession F) (acc : Accounts) (d : PoolDB F)

/-- The second half of `Settle`. -/
def settlePool [FloatOps F] (w : PoolWrites) (buyerCharge : Int) : PoolBillingCall F :=
  let c := s.pool.settle d w.commits w.releases buyerCharge w.latencyMS w.now
  ⟨{ s with pool := c.session }, acc, c.store, c.result⟩

/-- `Settle`: when the funding cannot be settled the slot is given back. -/
def settle [FloatOps F] (w : PoolWrites) (actualQuota : Int) : PoolBillingCall F :=
  let buyerCharge := marketplaceBuyerChargeWithFee actualQuota s.pool.platformFeeRateSnapshot
  match s.funding with
  | none => s.settlePool acc d w buyerCharge
  | some funding =>
    let c := funding.settle acc buyerCharge w.faults
    match c.result with
    | .error e =>
      let released := s.pool.releaseCapacity d w.releases
      ⟨⟨some c.session, released.1⟩, c.accounts, released.2, .error e⟩
    | .ok _ => settlePool ⟨some c.session, s.pool⟩ c.accounts d w buyerCharge

/-- `Refund`, with the goroutine of the funding run to its end. -/
def refund (releases : Bool) : PoolBillingCall F :=
  let released := s.pool.releaseCapacity d releases
  match s.funding with
  | none => ⟨⟨none, released.1⟩, acc, released.2, .ok ()⟩
  | some funding =>
    ⟨⟨some funding.refund.1, released.1⟩,
      (Billing.Relay.runRefundJob funding.refund.1 funding.refund.2 acc).1, released.2, .ok ()⟩

/-- `NeedsRefund` asks the funding only. -/
def needsRefund : Bool :=
  match s.funding with
  | none => false
  | some funding => funding.needsRefund

end MarketplacePoolBillingSession

/-! ## The request -/

structure PoolRequest where
  input : MarketplacePoolRelayInput
  info : RelayInfo := {}
  trust : Trust := {}
  price : PriceInfo
  promptTokens : Int := 0
  count : TokenCountMeta := {}

/-- What happens to a request. `tries` are the funding sources in the order in
which the user's preference has them tried. While the handler runs other
requests change the tables; it settles a quota or does not, and fails or does
not. -/
structure PoolRun where
  tries : List (Source × Faults) := [(.wallet, {})]
  bodyRead : Bool := true
  meanwhile : PoolDB ℚ → PoolDB ℚ := id
  settlement : Option Int
  failed : Bool := false
  writes : PoolWrites := {}

/-- The part of the relay after the billing session exists. A request that
failed is refunded, and one that did not only if it needs to. -/
def finishPoolRelay (run : PoolRun) (s : MarketplacePoolBillingSession ℚ) (acc : Accounts)
    (d : PoolDB ℚ) : Accounts × PoolDB ℚ :=
  if !run.bodyRead then
    let c := s.refund acc d run.writes.releases
    (c.accounts, c.store)
  else
    let c : PoolBillingCall ℚ :=
      match run.settlement with
      | none => ⟨s, acc, run.meanwhile d, .ok ()⟩
      | some quota => s.settle acc (run.meanwhile d) run.writes quota
    if run.failed || c.session.needsRefund then
      let c := c.session.refund c.accounts c.store run.writes.releases
      (c.accounts, c.store)
    else (c.accounts, c.store)

/-- The quota that is pre-consumed, before the fee is added. -/
def estimatedPrice (prices : PriceSettings) (req : PoolRequest) (multiplier : ℚ) :
    Except String PriceData := do
  let (price, snapshot) ← prices.modelPriceHelper req.price req.promptTokens req.count
  return prices.applyMarketplaceMultiplier price snapshot req.promptTokens req.count multiplier

def marketplacePoolRelay (settings : Settings ℚ) (prices : PriceSettings)
    (better : MarketplacePoolCandidate ℚ → MarketplacePoolCandidate ℚ → Bool)
    (req : PoolRequest) (run : PoolRun) (acc : Accounts) (d : PoolDB ℚ) : Accounts × PoolDB ℚ :=
  match prepareMarketplacePoolRelay settings better d req.input with
  | .error _ => (acc, d)
  | .ok (session, d) =>
    match estimatedPrice prices req session.multiplierSnapshot with
    | .error _ => (acc, (session.releaseCapacity d run.writes.releases).2)
    | .ok price =>
      if price.freeModel then finishPoolRelay run ⟨none, session⟩ acc d
      else
        match preConsumeBilling req.info req.trust
          (session.buyerChargeForQuota price.quotaToPreConsume) run.tries acc with
        | (acc, none) => (acc, (session.releaseCapacity d run.writes.releases).2)
        | (acc, some funding) => finishPoolRelay run ⟨some funding, session⟩ acc d

/-! ## What the buyer pays and what is recorded -/

/-- What the request took from the buyer, whatever it was taken from. -/
def netDebit (acc₀ acc : Accounts) : Int :=
  fundingDebit (.wallet 0) acc₀ acc + fundingDebit (.subscription 0 0) acc₀ acc

/-- The buyer charge of the settlement recorded for the request. -/
def recordedCharge (d : PoolDB F) (requestID : String) : Int :=
  ((d.db.settlements.find? (·.requestID = requestID)).map (·.buyerCharge)).getD 0

/-- Nothing is recorded for the request. -/
structure Unrecorded (requestID : String) (d : PoolDB F) : Prop where
  settlements : ∀ st ∈ d.db.settlements, st.requestID ≠ requestID
  fills : ∀ f ∈ d.poolFills, f.requestID ≠ requestID

def SellersExist (d : PoolDB F) : Prop :=
  ∀ id, ∀ c ∈ d.db.credentials.get id, 0 < c.sellerUserID ∧ (d.db.users.get c.sellerUserID).isSome

/-- What other requests leave alone: they delete no credential and no user,
and record nothing under the id of the request. -/
structure Undisturbed (requestID : String) (d d' : PoolDB F) : Prop where
  credentials : ∀ id, (d.db.credentials.get id).isSome → (d'.db.credentials.get id).isSome
  users : ∀ id, (d.db.users.get id).isSome → (d'.db.users.get id).isSome
  unrecorded : Unrecorded requestID d → Unrecorded requestID d'

/-- The buyer paid what is recorded, and has a fill for it. -/
structure PoolAccounted (acc₀ acc : Accounts) (d : PoolDB F) (requestID : String) : Prop where
  charge : netDebit acc₀ acc = recordedCharge d requestID
  fill : netDebit acc₀ acc ≠ 0 →
    ∃ f ∈ d.poolFills, f.requestID = requestID ∧ f.buyerCharge = netDebit acc₀ acc

/-- Before it is settled, a billing session holds what it pre-consumed. -/
def MarketplacePoolBillingSession.Holds (s : MarketplacePoolBillingSession F)
    (acc₀ acc : Accounts) : Prop :=
  match s.funding with
  | none => SameFunds acc₀ acc
  | some funding => Held acc₀ funding acc

/-- There is no funding left to refund. -/
def MarketplacePoolBillingSession.Closed (s : MarketplacePoolBillingSession F) : Prop :=
  ∀ funding ∈ s.funding, funding.settled = true

open MarketplacePoolBillingSession

section

variable {acc₀ acc acc' : Accounts} {d d' : PoolDB F} {requestID : String}
  {s : MarketplacePoolBillingSession F}

theorem netDebit_of_sameFunds (h : SameFunds acc₀ acc) : netDebit acc₀ acc = 0 := by
  simp only [netDebit, h.fundingDebit_eq, Billing.fundingDebit_self, add_zero]

theorem Unrecorded.recordedCharge_eq (h : Unrecorded requestID d) :
    recordedCharge d requestID = 0 := by
  have hnone : d.db.settlements.find? (·.requestID = requestID) = none := by
    simpa using h.settlements
  simp [recordedCharge, hnone]

theorem Unrecorded.of_same (h : Unrecorded requestID d)
    (hsettle : d'.db.settlements = d.db.settlements) (hfills : d'.poolFills = d.poolFills) :
    Unrecorded requestID d' := by
  refine ⟨?_, ?_⟩
  · rw [hsettle]
    exact h.settlements
  · rw [hfills]
    exact h.fills

theorem Unrecorded.accounted (h : Unrecorded requestID d) (hdebit : netDebit acc₀ acc = 0) :
    PoolAccounted acc₀ acc d requestID :=
  ⟨hdebit.trans h.recordedCharge_eq.symm, fun hne => absurd hdebit hne⟩

theorem releaseCapacity_records (s : MarketplacePoolRelaySession F) (d : PoolDB F)
    (commits : Bool) :
    (s.releaseCapacity d commits).2.db.settlements = d.db.settlements ∧
      (s.releaseCapacity d commits).2.poolFills = d.poolFills := by
  rcases releaseCapacity_cases s d commits with h | ⟨_, credential, _, h⟩ <;> rw [h] <;>
    exact ⟨rfl, rfl⟩

theorem Unrecorded.releaseCapacity (h : Unrecorded requestID d) (s : MarketplacePoolRelaySession F)
    (commits : Bool) : Unrecorded requestID (s.releaseCapacity d commits).2 :=
  h.of_same (releaseCapacity_records s d commits).1 (releaseCapacity_records s d commits).2

theorem refund_records : (s.refund acc d releases).store =
    (s.pool.releaseCapacity d releases).2 := by
  unfold refund
  split <;> rfl

/-- **Refunding** gives back what the session holds. -/
theorem MarketplacePoolBillingSession.Holds.refund (h : s.Holds acc₀ acc)
    (hused : 0 ≤ acc₀.amountUsed) (d : PoolDB F) (releases : Bool) :
    netDebit acc₀ (s.refund acc d releases).accounts = 0 := by
  unfold Holds at h
  unfold MarketplacePoolBillingSession.refund
  cases hfund : s.funding with rw [hfund] at h
  | none =>
    exact netDebit_of_sameFunds h
  | some =>
    simp only [netDebit, Held.refund h hused, add_zero]

theorem refund_accounts_of_not_needed (h : s.needsRefund = false) :
    (s.refund acc d releases).accounts = acc := by
  unfold needsRefund at h
  unfold refund
  cases hfund : s.funding with
  | none => rfl
  | some funding =>
    rw [hfund] at h
    simp [BillingSession.refund, show funding.needsRefund = false from h,
      Billing.Relay.runRefundJob]

theorem MarketplacePoolBillingSession.Closed.needsRefund_eq (h : s.Closed) :
    s.needsRefund = false := by
  unfold needsRefund
  split
  · rfl
  · rename_i funding hfund
    simp [BillingSession.needsRefund, h funding hfund]

variable [FloatOps F]

/-- What the pool session needs for its settlement to be recorded. -/
structure PoolRecordable (d : PoolDB F) (s : MarketplacePoolRelaySession F) : Prop where
  unsettled : s.settled = false
  named : trimSpace s.requestID ≠ ""
  credential : (d.db.credentials.get s.credentialID).isSome
  seller : 0 < s.sellerUserID
  sellerFound : (d.db.users.get s.sellerUserID).isSome

section

variable {p : MarketplacePoolRelaySession F} {charge : Int} (h : PoolRecordable d p)
  (hfrs : Unrecorded p.requestID d) (hpos : 0 < charge) (hmax : charge ≤ maxInt64)
include h hfrs hpos hmax

theorem PoolRecordable.payable (latencyMS now : Int) :
    Payable d.db (p.settlementOf d charge latencyMS now) := by
  have hfee := feeFromBuyerCharge_bounds hpos.le p.platformFeeRateSnapshot
  have hinc : (p.settlementOf d charge latencyMS now).sellerIncome =
      charge - marketplacePlatformFeeFromBuyerCharge charge p.platformFeeRateSnapshot := rfl
  exact ⟨hpos, h.seller, h.named, by omega, by omega, hfrs.settlements, fun _ => h.sellerFound⟩

/-- **Settling in the pool** records a charge that is positive. -/
theorem PoolRecordable.settle (releases : Bool) (latencyMS now : Int) :
    let c := p.settle d true releases charge latencyMS now
    recordedCharge c.store p.requestID = charge ∧
      ∃ f ∈ c.store.poolFills, f.requestID = p.requestID ∧ f.buyerCharge = charge := by
  obtain ⟨credential, hcred⟩ := Option.isSome_iff_exists.mp h.credential
  have hany : ¬ d.poolFills.any (·.requestID = p.requestID) := by simpa using hfrs.fills
  have hins := (h.payable hfrs hpos hmax latencyMS now).inserted now
  have htx : ∃ tx, p.settleTx d charge latencyMS now = .ok tx := by
    refine ⟨_, found_seq_ok.mpr ⟨credential, hcred, require_seq_ok.mpr ⟨hany,
      seq_ok.mpr ⟨_, hins, rfl⟩⟩⟩⟩
  obtain ⟨tx, htx⟩ := htx
  have hcall : p.settle d true releases charge latencyMS now =
      ⟨{ p with settled := true, capacityReleased := true }, tx, .ok ()⟩ := by
    simp [MarketplacePoolRelaySession.settle, not_lt.mpr hpos.le, h.unsettled, htx]
  obtain ⟨_, tx', _, _, _, hins', _, _, rfl⟩ := settleTx_ok htx
  obtain rfl := Except.ok.inj (hins.symm.trans hins')
  rw [hcall]
  refine ⟨?_, _, List.mem_append_right _ (List.mem_singleton_self _), rfl, rfl⟩
  have hnone : d.db.settlements.find? (·.requestID = p.requestID) = none := by
    simpa using hfrs.settlements
  show ((List.find? _ (DB.paySettlement _ _).settlements).map _).getD 0 = charge
  rw [DB.paySettlement_settlements, List.find?_append, hnone]
  simp [MarketplaceSettlement.released, settlementOf, fillSettlement, fill]

end

theorem settle_zero_settlements (p : MarketplacePoolRelaySession F) (d : PoolDB F)
    (commits releases : Bool) (latencyMS now : Int) :
    (p.settle d commits releases 0 latencyMS now).store.db.settlements = d.db.settlements := by
  unfold MarketplacePoolRelaySession.settle
  split
  · rfl
  split
  · rfl
  split
  · exact (releaseCapacity_records p d releases).1
  rename_i htx
  split
  · obtain ⟨_, tx', _, _, _, hins, _, _, rfl⟩ := settleTx_ok htx
    obtain rfl := Except.ok.inj hins
    rfl
  · exact (releaseCapacity_records p d releases).1

/-- **The second half of `Settle`** when the buyer has paid the charge. -/
theorem settlePool_accounted (hdebit : netDebit acc₀ acc = charge)
    (hfrs : Unrecorded s.pool.requestID d) (w : PoolWrites) (hmax : charge ≤ maxInt64)
    (hnn : 0 ≤ charge) (hrecord : 0 < charge → w.commits ∧ PoolRecordable d s.pool) :
    PoolAccounted acc₀ acc (s.settlePool acc d w charge).store s.pool.requestID := by
  rcases hnn.eq_or_lt with hzero | hpos
  · subst hzero
    have hsame := settle_zero_settlements s.pool d w.commits w.releases w.latencyMS w.now
    refine ⟨?_, fun hne => absurd hdebit hne⟩
    rw [hdebit]
    unfold recordedCharge settlePool
    rw [hsame]
    exact hfrs.recordedCharge_eq.symm
  obtain ⟨hcom, hrec⟩ := hrecord hpos
  obtain ⟨hchg, f, hf, hid, hfill⟩ :=
    hrec.settle hfrs hpos hmax w.releases w.latencyMS w.now
  rw [← hcom] at hchg hf
  exact ⟨hdebit.trans hchg.symm, fun _ => ⟨f, hf, hid, hfill.trans hdebit.symm⟩⟩

/-- **Settle.** Either it fails before anything is paid, or the buyer has paid
what is recorded. -/
theorem MarketplacePoolBillingSession.Holds.settle (h : s.Holds acc₀ acc)
    (hused : 0 ≤ acc₀.amountUsed) (hfrs : Unrecorded s.pool.requestID d) (w : PoolWrites)
    (htoken : w.faults.token)
    (hfits : ChargeFits quota s.pool.platformFeeRateSnapshot) (hfree : s.funding = none → quota ≤ 0)
    (hrecord : 0 < quota → w.commits ∧ PoolRecordable d s.pool) :
    let c := s.settle acc d w quota
    (c.session.Holds acc₀ c.accounts ∧ Unrecorded s.pool.requestID c.store) ∨
      (c.session.Closed ∧ PoolAccounted acc₀ c.accounts c.store s.pool.requestID) := by
  obtain ⟨hnn, hmax⟩ := buyerCharge_bounds hfits
  have hpositive : 0 < marketplaceBuyerChargeWithFee quota s.pool.platformFeeRateSnapshot →
      w.commits ∧ PoolRecordable d s.pool := by
    intro hpos
    refine hrecord (lt_of_not_ge fun hle => ?_)
    rw [buyerCharge_of_nonpos hle] at hpos
    exact lt_irrefl 0 hpos
  unfold Holds at h
  simp only [MarketplacePoolBillingSession.settle]
  cases hfund : s.funding with
  | none =>
    rw [hfund] at h
    rw [buyerCharge_of_nonpos (hfree hfund)]
    refine .inr ⟨fun f hf => ?_, settlePool_accounted (netDebit_of_sameFunds h) hfrs w
      (by decide) (le_refl 0) fun hpos => absurd hpos (lt_irrefl 0)⟩
    simp [settlePool, hfund] at hf
  | some funding =>
  rw [hfund] at h
  generalize marketplaceBuyerChargeWithFee quota s.pool.platformFeeRateSnapshot = charge
    at hnn hmax hpositive
  cases hok : (funding.settle acc charge w.faults).result with
  | error =>
    obtain ⟨hsess, hacc⟩ := Held.settle_failed h htoken (by rw [hok]; rfl)
    simp only [hok, hsess, hacc]
    exact .inl ⟨h, hfrs.releaseCapacity s.pool w.releases⟩
  | ok =>
  have hisOk : (funding.settle acc charge w.faults).result.isOk := by rw [hok]; rfl
  obtain ⟨_, hdebit⟩ := Held.settle h hused hnn (h.sessionAccepts_of_ok hisOk)
  have hsum : netDebit acc₀ (funding.settle acc charge w.faults).accounts = charge := by
    simp only [netDebit, hdebit]
    show (if false = funding.funding.isSubscription then charge else 0) +
      (if true = funding.funding.isSubscription then charge else 0) = charge
    cases funding.funding.isSubscription <;> simp
  simp only [hok]
  refine .inr ⟨fun f hf => ?_, settlePool_accounted
    (s := ⟨some (funding.settle acc charge w.faults).session, s.pool⟩)
    hsum hfrs w hmax hnn hpositive⟩
  obtain rfl := Option.some.inj hf
  exact Billing.settle_result_ok hisOk

end

/-! ## Every request -/

section

variable {settings : Settings ℚ} {prices : PriceSettings} {req : PoolRequest} {run : PoolRun}
  {better : MarketplacePoolCandidate ℚ → MarketplacePoolCandidate ℚ → Bool}
  {acc₀ acc : Accounts} {d : PoolDB ℚ}

/-- A request that nothing is recorded for yet. -/
structure PoolRequest.New (req : PoolRequest) (acc : Accounts) (d : PoolDB F) : Prop where
  record : acc.record = none
  amountUsed : 0 ≤ acc.amountUsed
  unrecorded : Unrecorded req.input.requestID d

/-- **When the two sides agree.** The charges fit in 64 bits, a free request is
settled with nothing, the token accepts what is settled, and the settlement of
a quota is recorded: it commits, the credential, the seller and the request id
are as they were. -/
structure PoolRun.Safe (settings : Settings ℚ) (prices : PriceSettings) (req : PoolRequest)
    (run : PoolRun) (d : PoolDB ℚ) : Prop where
  estimateFits : ∀ id, ∀ c ∈ d.db.credentials.get id,
    ∀ price, estimatedPrice prices req c.multiplier = .ok price →
      ChargeFits price.quotaToPreConsume (marketplaceFeeRateSnapshot settings.feeRate)
  chargeFits : ∀ quota ∈ run.settlement,
    ChargeFits quota (marketplaceFeeRateSnapshot settings.feeRate)
  free : prices.FreeRequest req.price → ∀ quota ∈ run.settlement, quota ≤ 0
  token : run.writes.faults.token = true
  commits : ∀ quota ∈ run.settlement, 0 < quota → run.writes.commits = true
  sellers : SellersExist d
  meanwhile : ∀ d, Undisturbed req.input.requestID d (run.meanwhile d)

theorem estimatedPrice_free
    (h : estimatedPrice prices req multiplier = .ok price) (hfree : price.freeModel) :
    prices.FreeRequest req.price := by
  simp only [estimatedPrice, seq_ok, return_ok, Prod.exists] at h
  obtain ⟨base, snapshot, hbase, rfl⟩ := h
  exact PriceSettings.freeRequest_of_freeModel hbase hfree

theorem finishPoolRelay_accounted (h : s.Holds acc₀ acc) (hused : 0 ≤ acc₀.amountUsed)
    (hfrs : Unrecorded s.pool.requestID d) (hmean : Unrecorded s.pool.requestID (run.meanwhile d))
    (htoken : run.writes.faults.token)
    (hfits : ∀ quota ∈ run.settlement, ChargeFits quota s.pool.platformFeeRateSnapshot)
    (hfree : s.funding = none → ∀ quota ∈ run.settlement, quota ≤ 0)
    (hrecord : ∀ quota ∈ run.settlement, 0 < quota →
      run.writes.commits ∧ PoolRecordable (run.meanwhile d) s.pool) :
    PoolAccounted acc₀ (finishPoolRelay run s acc d).1 (finishPoolRelay run s acc d).2
      s.pool.requestID := by
  -- a session that holds is refunded, or needs no refund because it holds nothing
  have hheld : ∀ (c : PoolBillingCall ℚ), c.session.Holds acc₀ c.accounts →
      Unrecorded s.pool.requestID c.store → ∀ failed : Bool,
      let e := if failed || c.session.needsRefund then
        let r := c.session.refund c.accounts c.store run.writes.releases
        (r.accounts, r.store) else (c.accounts, c.store)
      PoolAccounted acc₀ e.1 e.2 s.pool.requestID := by
    intro c hc hnone failed
    have hrf := hc.refund hused c.store run.writes.releases
    dsimp only
    split
    · dsimp only
      rw [refund_records]
      exact (hnone.releaseCapacity c.session.pool run.writes.releases).accounted hrf
    rename_i hneed
    have hnot : failed = false ∧ c.session.needsRefund = false := by simpa using hneed
    rw [refund_accounts_of_not_needed hnot.2] at hrf
    exact hnone.accounted hrf
  unfold finishPoolRelay
  split
  · dsimp only
    rw [refund_records]
    exact (hfrs.releaseCapacity s.pool run.writes.releases).accounted
      (h.refund hused d run.writes.releases)
  cases hpaid : run.settlement with
  | none => exact hheld ⟨s, acc, run.meanwhile d, .ok ()⟩ h hmean run.failed
  | some quota =>
  rcases h.settle hused hmean run.writes htoken (hfits quota hpaid)
    (fun hnone => hfree hnone quota hpaid) (hrecord quota hpaid) with
    ⟨hc, hnone⟩ | ⟨hclose, hacc⟩
  · exact hheld _ hc hnone run.failed
  dsimp only
  split
  · dsimp only
    rw [refund_accounts_of_not_needed hclose.needsRefund_eq, refund_records]
    obtain ⟨hsettle, hfills⟩ := releaseCapacity_records
      (s.settle acc (run.meanwhile d) run.writes quota).session.pool
      (s.settle acc (run.meanwhile d) run.writes quota).store run.writes.releases
    refine ⟨?_, ?_⟩
    · unfold recordedCharge
      rw [hsettle]
      exact hacc.charge
    · rw [hfills]
      exact hacc.fill
  · exact hacc

/-- **Pool conservation.** What a request takes from the buyer is the charge of
the settlement recorded for it, and a buyer who paid has a fill. -/
theorem poolRelay_conserves (settings : Settings ℚ) (prices : PriceSettings)
    (better : MarketplacePoolCandidate ℚ → MarketplacePoolCandidate ℚ → Bool)
    (req : PoolRequest) (run : PoolRun) (acc : Accounts) (d : PoolDB ℚ)
    (hnew : req.New acc d) (hsafe : run.Safe settings prices req d) :
    let e := marketplacePoolRelay settings prices better req run acc d
    netDebit acc e.1 = recordedCharge e.2 req.input.requestID ∧
      (netDebit acc e.1 ≠ 0 → ∃ f ∈ e.2.poolFills,
        f.requestID = req.input.requestID ∧ f.buyerCharge = netDebit acc e.1) := by
  suffices h : PoolAccounted acc (marketplacePoolRelay settings prices better req run acc d).1
      (marketplacePoolRelay settings prices better req run acc d).2 req.input.requestID from
    ⟨h.charge, h.fill⟩
  have hnothing := netDebit_of_sameFunds (SameFunds.refl acc)
  unfold marketplacePoolRelay
  split
  · exact hnew.unrecorded.accounted hnothing
  rename_i d₁ hprepare
  obtain ⟨c, hc, _, hnamed, rfl, rfl⟩ := preparePool_ok hprepare
  obtain ⟨hseller, hfound⟩ := hsafe.sellers _ _ hc.stored
  have hfresh : Unrecorded req.input.requestID
      { d with db := d.db.saveUse c.credential (takeSlot c.stats) } :=
    hnew.unrecorded.of_same rfl rfl
  have hmeanwhile := hsafe.meanwhile { d with db := d.db.saveUse c.credential (takeSlot c.stats) }
  generalize hd₁ : { d with db := d.db.saveUse c.credential (takeSlot c.stats) } = d₁
    at hfresh hmeanwhile
  have hrecordable : PoolRecordable (run.meanwhile d₁) (newPoolSession settings c.credential
      req.input) := by
    refine ⟨rfl, hnamed, hmeanwhile.credentials _ ?_, hseller, hmeanwhile.users _ ?_⟩
    · rw [← hd₁]
      show ((d.db.credentials.save _).get c.credential.id).isSome
      rw [Table.get_save_self _ _ rfl]
      rfl
    · rw [← hd₁]
      exact hfound
  split
  · exact (hfresh.releaseCapacity _ run.writes.releases).accounted hnothing
  rename_i price hprice
  have hend : ∀ (funding : Option BillingSession) (acc' : Accounts),
      (MarketplacePoolBillingSession.mk funding (newPoolSession settings c.credential
        req.input)).Holds acc acc' →
      (funding = none → ∀ quota ∈ run.settlement, quota ≤ 0) → _ :=
    fun funding acc' hholds hfree => finishPoolRelay_accounted hholds hnew.amountUsed hfresh
      (hmeanwhile.unrecorded hfresh) hsafe.token hsafe.chargeFits hfree
      fun quota hquota hpos => ⟨hsafe.commits quota hquota hpos, hrecordable⟩
  split
  · rename_i hfree
    exact hend none acc (SameFunds.refl acc) fun _ => hsafe.free (estimatedPrice_free hprice hfree)
  have hestimate : 0 ≤ (newPoolSession settings c.credential req.input).buyerChargeForQuota
      price.quotaToPreConsume :=
    buyerCharge_nonneg (hsafe.estimateFits _ _ hc.stored price hprice)
  have htries := preConsumeBilling_holds req.info req.trust hestimate hnew.record run.tries acc
    (SameFunds.refl acc)
  split
  · rename_i acc' heq
    rw [heq] at htries
    exact (hfresh.releaseCapacity _ run.writes.releases).accounted (netDebit_of_sameFunds htries)
  · rename_i acc' funding heq
    rw [heq] at htries
    exact hend (some funding) acc' htries nofun

end

/-! ### A request for 100 at a fee of one tenth -/

def samplePoolCredential : MarketplaceCredential ℚ where
  id := 1
  sellerUserID := 2
  encryptedAPIKey := "key"
  models := "gpt"
  quotaMode := .unlimited
  quotaLimit := 0
  timeMode := .unlimited
  timeLimitSeconds := 0
  multiplier := 1
  concurrencyLimit := 4
  listingStatus := .listed
  serviceStatus := .enabled
  healthStatus := .healthy
  capacityStatus := .available
  riskStatus := .normal
  probeStatus := .passed
  probeScore := 90
  probeScoreMax := 100

def samplePoolDB : PoolDB ℚ where
  db := {
    orders := Table.empty _
    credentials := (Table.empty _).save samplePoolCredential
    stats := Table.empty _
    users := (Table.empty _).save ⟨2, true, 0⟩ }

def samplePoolSettings : Settings ℚ where
  feeRate := 1 / 10
  quotaPerUnit := 500000

/-- What is free is not pre-consumed, and the group "trial" is free. -/
def samplePoolPrices : PriceSettings where
  enableFreeModelPreConsume := false
  modelRatio := fun _ => some 1
  groupRatio := fun name => if name = "trial" then some 0 else none

def samplePoolRequest (group : String) : PoolRequest where
  input := ⟨3, "gpt", "req-1", [1]⟩
  price := { originModelName := "gpt", usingGroup := group }

def samplePoolFunds : Accounts := { userQuota := 10000, remainQuota := 10000 }

def samplePoolRun (group : String) (run : PoolRun) : Accounts × PoolDB ℚ :=
  marketplacePoolRelay samplePoolSettings samplePoolPrices (fun _ _ => true)
    (samplePoolRequest group) run samplePoolFunds samplePoolDB

theorem samplePool_stored {id c}
    (h : samplePoolDB.db.credentials.get id = some c) : c = samplePoolCredential := by
  have hget : ((Table.empty _).save samplePoolCredential).get id = some c := h
  rw [Table.get_save] at hget
  split at hget
  · exact (Option.some.inj hget).symm
  · cases hget

theorem samplePool_safe :
    PoolRun.Safe samplePoolSettings samplePoolPrices (samplePoolRequest "default")
      { settlement := some 100 } samplePoolDB where
  estimateFits := by
    intro id c hc price hprice
    rw [samplePool_stored hc] at hprice
    have hquo : (estimatedPrice samplePoolPrices (samplePoolRequest "default") 1).toOption.map
        (·.quotaToPreConsume) = some 500 := by decide +kernel
    rw [show estimatedPrice samplePoolPrices (samplePoolRequest "default") 1 = .ok price
      from hprice] at hquo
    rw [show price.quotaToPreConsume = 500 from Option.some.inj hquo]
    decide +kernel
  chargeFits := by
    intro quota hquo
    obtain rfl := Option.some.inj hquo
    decide +kernel
  free := by
    rintro ⟨_, hgrp | ⟨_, hratio⟩⟩
    · exact absurd hgrp (by decide +kernel)
    · exact absurd (show (1 : ℚ) = 0 from hratio) one_ne_zero
  token := rfl
  commits _ _ _ := rfl
  sellers := by
    intro id c hc
    rw [samplePool_stored hc]
    exact ⟨by decide, by decide +kernel⟩
  meanwhile _ := ⟨fun _ h => h, fun _ h => h, fun h => h⟩

theorem samplePool_new : (samplePoolRequest "default").New samplePoolFunds samplePoolDB where
  record := rfl
  amountUsed := le_refl 0
  unrecorded := ⟨fun _ h => absurd h List.not_mem_nil, fun _ h => absurd h List.not_mem_nil⟩

/-- The buyer pays 110, and 110 are recorded. -/
theorem poolRelay_conserves_sample :
    let e := samplePoolRun "default" { settlement := some 100 }
    netDebit samplePoolFunds e.1 = 110 ∧ recordedCharge e.2 "req-1" = 110 := by
  have h := poolRelay_conserves samplePoolSettings samplePoolPrices (fun _ _ => true)
    (samplePoolRequest "default") { settlement := some 100 } samplePoolFunds samplePoolDB
    samplePool_new samplePool_safe
  have hdebit : netDebit samplePoolFunds
      (samplePoolRun "default" { settlement := some 100 }).1 = 110 := by decide +kernel
  exact ⟨hdebit, h.1.symm.trans hdebit⟩

/-- **Paid on one side only.** In a free group the seller is credited 100 and
the buyer pays nothing. When the settlement in the pool cannot be committed, or
the token refuses its part, the buyer pays 110 and nothing is recorded. -/
theorem poolRelay_one_sided :
    (let e := samplePoolRun "trial" { settlement := some 100 }
    netDebit samplePoolFunds e.1 = 0 ∧ recordedCharge e.2 "req-1" = 110 ∧
      (e.2.db.users.get 2).map (·.quota) = some 100) ∧
    (let e := samplePoolRun "default" { settlement := some 100, writes := { commits := false } }
    netDebit samplePoolFunds e.1 = 110 ∧ recordedCharge e.2 "req-1" = 0 ∧ e.2.poolFills = []) ∧
    (let e := samplePoolRun "default"
      { settlement := some 100, writes := { faults := { token := false } } }
    netDebit samplePoolFunds e.1 = 110 ∧ recordedCharge e.2 "req-1" = 0 ∧ e.2.poolFills = []) := by
  decide +kernel

end HermesToken.Marketplace
