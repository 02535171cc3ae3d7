import HermesToken.Marketplace.PoolRelay
import HermesToken.Marketplace.Schedule

/-!
# The whole marketplace

Fixed orders, the pool and the release of settlements share the tables of
credentials, users and settlements. A market is the schedule of the fixed-order
code together with the billing sessions of the pool, and its steps are those
of all three. The funding of a pool session belongs to the buyer: what its
accounts hold when a call reads them is part of the step.
-/

namespace HermesToken.Marketplace

open Lib
open Billing (Accounts BillingSession)
open MarketplaceFixedOrderBillingSession (adjustTx releaseDeltaTx_ok reserveDeltaTx_ok
  settleReserve)

variable {F : Type}

structure Market (F : Type) where
  schedule : Schedule F
  poolFills : List (MarketplacePoolFill F) := []
  pool : List (MarketplacePoolBillingSession F) := []

/-- `poolSettle` and `poolRefund` are the calls of the billing session,
`sessionSettle` and `sessionRelease` those of the session of the pool in it. -/
inductive MarketAct (F : Type) where
  | fixed (act : Act F)
  | poolPrepare (settings : Settings F)
      (better : MarketplacePoolCandidate F → MarketplacePoolCandidate F → Bool)
      (input : MarketplacePoolRelayInput) (funding : Option BillingSession) (commits : Bool)
  | poolSettle (i : Nat) (acc : Accounts) (w : PoolWrites) (actualQuota : Int)
  | poolRefund (i : Nat) (acc : Accounts) (releases : Bool)
  | sessionSettle (i : Nat) (w : PoolWrites) (buyerCharge : Int)
  | sessionRelease (i : Nat) (releases : Bool)
  | release (settings : Settings F) (sellerUserID now limit clock : Int) (commits : Bool)

namespace Market

section

variable (m : Market F)

def db : DB F := m.schedule.world.db

def store : PoolDB F := ⟨m.db, m.poolFills⟩

/-- The market with other tables. -/
def setStore (d : PoolDB F) : Market F := { m with
  schedule := { m.schedule with world := { m.schedule.world with db := d.db } }
  poolFills := d.poolFills }

/-- A call on the `i`-th session of the pool. -/
def poolCall (i : Nat)
    (f : MarketplacePoolBillingSession F → MarketplacePoolBillingSession F × PoolDB F) :
    Market F :=
  match m.pool[i]? with
  | none => m
  | some s => { m.setStore (f s).2 with pool := m.pool.set i (f s).1 }

/-- The end of a `Prepare`. -/
def openPool (commits : Bool) (funding : Option BillingSession)
    (tx : Except String (MarketplacePoolRelaySession F × PoolDB F)) : Market F :=
  match tx with
  | .error _ => m
  | .ok (s, d) => if commits then { m.setStore d with pool := m.pool ++ [⟨funding, s⟩] } else m

def commitRelease (commits : Bool)
    (tx : Except String (DB F × MarketplaceSettlementReleaseResult)) : Market F :=
  match tx with
  | .error _ => m
  | .ok (db, _) => if commits then m.setStore ⟨db, m.poolFills⟩ else m

end

def step [FloatOps F] (m : Market F) : MarketAct F → Market F
  | .fixed act => { m with schedule := m.schedule.step act }
  | .poolPrepare settings better input funding commits =>
      m.openPool commits funding (prepareMarketplacePoolRelay settings better m.store input)
  | .poolSettle i acc w actualQuota => m.poolCall i fun s =>
      let c := s.settle acc m.store w actualQuota
      (c.session, c.store)
  | .poolRefund i acc releases => m.poolCall i fun s =>
      let c := s.refund acc m.store releases
      (c.session, c.store)
  | .sessionSettle i w buyerCharge => m.poolCall i fun s =>
      let c := s.pool.settle m.store w.commits w.releases buyerCharge w.latencyMS w.now
      ({ s with pool := c.session }, c.store)
  | .sessionRelease i releases => m.poolCall i fun s =>
      let released := s.pool.releaseCapacity m.store releases
      ({ s with pool := released.1 }, released.2)
  | .release settings sellerUserID now limit clock commits =>
      m.commitRelease commits
        (releaseSellerAvailableMarketplaceSettlements settings m.db sellerUserID now limit clock)

end Market

/-! ## What the fixed-order transactions do -/

section

variable {db db' : DB F} {s s' : MarketplaceFixedOrderBillingSession F}

theorem reserveDeltaTx_db (h : s.reserveDeltaTx db delta = .ok (s', db')) :
    db' = db ∨ ∃ order, db' = db.saveOrder order := by
  rcases reserveDeltaTx_ok h with
    ⟨_, _, hdb⟩ | ⟨_, order, _, _, _, _, hdb⟩
  · exact .inl hdb
  · exact .inr ⟨_, hdb⟩

theorem releaseDeltaTx_db (h : s.releaseDeltaTx db delta = .ok (s', db')) :
    db' = db ∨ ∃ order, db' = db.saveOrder order := by
  rcases releaseDeltaTx_ok h with
    ⟨_, _, hdb⟩ | ⟨_, order, _, _, hdb⟩
  · exact .inl hdb
  · exact .inr ⟨_, hdb⟩

theorem adjustTx_db (h : s.adjustTx db delta = .ok (s', db')) :
    db' = db ∨ ∃ order, db' = db.saveOrder order := by
  unfold adjustTx at h
  split at h
  · exact reserveDeltaTx_db h
  split at h
  · exact releaseDeltaTx_db h
  · obtain ⟨_, rfl⟩ := Prod.mk.inj (Except.ok.inj h)
    exact .inl rfl

variable [FloatOps F]

theorem settleReserve_db (h : s.settleReserve db actualQuota = .ok (s', db')) :
    db' = db ∨ ∃ order, db' = db.saveOrder order := by
  obtain ⟨order, _, h⟩ := found_seq_ok.mp h
  obtain ⟨⟨s₁, tx⟩, hmove, h⟩ := seq_ok.mp h
  obtain ⟨_, rfl⟩ := Prod.mk.inj (Except.ok.inj h)
  exact adjustTx_db hmove

end

end HermesToken.Marketplace
