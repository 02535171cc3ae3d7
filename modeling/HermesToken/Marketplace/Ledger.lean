import HermesToken.Lib.Run
import HermesToken.Marketplace.Pool

/-!
# The ledger of a fixed order

Every quota an order was bought with is at any time in exactly one place:
still remaining, spent, expired or refunded; and what is spent is either on a
fill or held by a session that is still open.

The result is read off the order table, the fills and the sessions only, so
the transactions are first projected to these BOOKS; the invariant and its
preservation are stated about books and sessions. The invariant carries a
parameter `P` for the slack between the spent quota and its two uses: `P` is
"zero" for runs in which every transaction commits, and "not negative" when
transactions also roll back.
-/

namespace HermesToken.Marketplace

open Lib

variable {F : Type} {order : MarketplaceFixedOrder F} {settings : Settings F}

/-- The tables the ledger is read from. -/
structure Books (F : Type) where
  orders : Table Int (MarketplaceFixedOrder F) (·.id)
  nextOrderID : Int
  fills : List (MarketplaceFixedOrderFill F)
  settlements : List (MarketplaceSettlement F)
  refunds : List FixedOrderRefund

namespace DB

def books (db : DB F) : Books F :=
  ⟨db.orders, db.nextOrderID, db.fills, db.settlements, db.refunds⟩

variable (db : DB F)

@[simp] theorem saveOrder_books (o : MarketplaceFixedOrder F) :
    (db.saveOrder o).books = { db.books with orders := db.books.orders.save o } := rfl

@[simp] theorem saveStats_books (s : MarketplaceCredentialStats) :
    (db.saveStats s).books = db.books := rfl

@[simp] theorem addUserQuota_books (u d : Int) : (db.addUserQuota u d).books = db.books := by
  unfold addUserQuota
  split <;> rfl

@[simp] theorem paySettlement_books (st : MarketplaceSettlement F) :
    (db.paySettlement st).books = { db.books with settlements := db.settlements ++ [st] } := by
  unfold paySettlement
  split
  · rfl
  · exact addUserQuota_books ..

@[simp] theorem logRefund_books (e : FixedOrderRefund) :
    (db.logRefund e).books = { db.books with refunds := db.books.refunds ++ [e] } := rfl

@[simp] theorem insertOrder_books (o : MarketplaceFixedOrder F) :
    (db.insertOrder o).books = { db.books with
      orders := db.books.orders.save o
      nextOrderID := db.books.nextOrderID + 1 } := rfl

end DB

/-! ## What each transaction does to the books

One lemma per transaction, for a call that succeeds. -/

/-- The settlements after the insert of `st`: unchanged when the charge is not
positive or the request id is taken, and otherwise with one more row. -/
inductive Grows (l : List (MarketplaceSettlement F))
    (st : MarketplaceSettlement F) : List (MarketplaceSettlement F) → Prop
  | same : Grows l st l
  | insert (st' : MarketplaceSettlement F)
      (fresh : ∀ x ∈ l, x.requestID ≠ st.requestID)
      (requestID : st'.requestID = st.requestID)
      (sourceType : st'.sourceType = st.sourceType)
      (sourceID : st'.sourceID = st.sourceID)
      (buyerCharge : st'.buyerCharge = st.buyerCharge) :
      Grows l st (l ++ [st'])

theorem createReleased_books {db db' : DB F}
    (h : createReleasedMarketplaceSettlementTx db st now = .ok db') :
    ∃ l, db'.books = { db.books with settlements := l } ∧ Grows db.settlements st l := by
  rcases createReleased_ok h with rfl | ⟨hpay, rfl⟩
  · exact ⟨_, rfl, .same⟩
  · exact ⟨_, DB.paySettlement_books .., .insert _ hpay.fresh rfl rfl rfl rfl⟩

section

variable [FloatOps F] {db db' : DB F} {now : Int}

theorem expireFixedOrder_ok (h : expireMarketplaceFixedOrderTx db order now = .ok db') :
    (order.status ≠ .active ∧ db' = db) ∨
      order.status = .active ∧ ∃ tx,
        settleMarketplaceFixedOrderFinalTx db (expiredRow order) now = .ok tx ∧
        db' = (tx.saveOrder (expiredRow order)).saveStats (closeActiveFixedOrder
          (getOrCreateMarketplaceCredentialStatsForUpdate tx order.credentialID)) := by
  unfold expireMarketplaceFixedOrderTx at h
  split at h
  · exact .inl ⟨‹_›, (Except.ok.inj h).symm⟩
  rename_i hact
  obtain ⟨tx, hfin, h⟩ := seq_ok.mp h
  exact .inr ⟨not_not.mp hact, tx, hfin, (Except.ok.inj h).symm⟩

theorem expireFixedOrder_books (h : expireMarketplaceFixedOrderTx db order now = .ok db') :
    (order.status ≠ .active ∧ db' = db) ∨
      order.status = .active ∧ ∃ l,
        db'.books = { db.books with
          orders := db.orders.save (expiredRow order), settlements := l }
        ∧ Grows db.settlements (marketplaceFixedOrderFinalSettlement (expiredRow order) now) l := by
  refine (expireFixedOrder_ok h).imp_right fun ⟨hact, tx, hfin, hdb'⟩ => ⟨hact, ?_⟩
  subst hdb'
  unfold settleMarketplaceFixedOrderFinalTx at hfin
  split at hfin
  · cases hfin
    exact ⟨_, rfl, .same⟩
  obtain ⟨l, hbks, hgrows⟩ :=
    createReleased_books hfin
  refine ⟨l, ?_, hgrows⟩
  rw [DB.saveStats_books, DB.saveOrder_books, hbks]
  rfl

omit [FloatOps F] in
theorem refundRemaining_books (h : refundBuyerMarketplaceFixedOrderRemainingQuota db buyerUserID
      fixedOrderID completion now = .ok db') :
    ∃ order, db.orders.get fixedOrderID = some order
      ∧ db'.books = { db.books with
          orders := db.orders.save (refundedRow order completion now)
          refunds := db.refunds ++ [⟨order.id, order.remainingQuota⟩] } := by
  unfold refundBuyerMarketplaceFixedOrderRemainingQuota at h
  simp only [found_seq_ok, require_seq_ok] at h
  obtain ⟨order, hget, -, -, -, -, -, -, h⟩ := h
  obtain ⟨_, -, hrest⟩ := seq_ok.mp h
  cases hrest
  refine ⟨order, (DB.buyerOrder_eq_some.mp hget).1, ?_⟩
  rw [DB.logRefund_books, DB.addUserQuota_books]
  rfl

/-- A purchase inserts one active order that nobody has used yet. -/
theorem createFixedOrder_books (h : createMarketplaceFixedOrder settings db input now = .ok db') :
    ∃ order, order.id = db.nextOrderID
      ∧ 0 < order.purchasedQuota ∧ order.purchasedQuota ≤ maxInt64
      ∧ order.remainingQuota = order.purchasedQuota ∧ order.spentQuota = 0
      ∧ order.expiredQuota = 0 ∧ order.refundedQuota = 0 ∧ order.status = .active
      ∧ db'.books = { db.books with
          orders := db.orders.save order
          nextOrderID := db.nextOrderID + 1 } := by
  unfold createMarketplaceFixedOrder at h
  generalize normalizeMarketplaceFixedOrderCreateInput settings input = input at h
  obtain ⟨purchased, -, h⟩ := seq_ok.mp h
  obtain ⟨_, hvalid, h⟩ := seq_ok.mp h
  simp only [found_seq_ok, require_seq_ok] at h
  obtain ⟨credential, -, -, -, buyer, -, -, -, h⟩ := h
  cases h
  simp only [validateMarketplaceFixedOrderInput, validateMarketplaceEnabled,
    require_seq_ok] at hvalid
  obtain ⟨-, -, -, hpos, hmax, -⟩ := hvalid
  refine ⟨newFixedOrder settings db.nextOrderID input.buyerUserID purchased
    (marketplaceFeeRateSnapshot settings.feeRate) credential now,
    rfl, hpos, hmax, rfl, rfl, rfl, rfl, rfl, ?_⟩
  have hnext := congrArg Books.nextOrderID (db.addUserQuota_books input.buyerUserID (-purchased))
  dsimp only [DB.books] at hnext
  rw [DB.saveStats_books, DB.insertOrder_books, DB.addUserQuota_books, hnext]
  rfl

omit [FloatOps F] in
theorem recordRefundProbe_books (db : DB F)
    (fixedOrderID : Int) (completion : MarketplaceProbeCompletion) (now : Int) :
    (recordMarketplaceFixedOrderRefundProbeCompletion db fixedOrderID
        completion now).books = db.books ∨
      ∃ order, db.orders.get fixedOrderID = some order
        ∧ (recordMarketplaceFixedOrderRefundProbeCompletion db fixedOrderID
            completion now).books = { db.books with
          orders := db.orders.save (probedRow order completion now) } := by
  unfold recordMarketplaceFixedOrderRefundProbeCompletion
  split
  · exact .inl rfl
  split
  · exact .inr ⟨_, ‹_›, rfl⟩
  · exact .inl rfl

end

namespace MarketplaceFixedOrderBillingSession

variable {s s' : MarketplaceFixedOrderBillingSession F} {db db' : DB F}
  {now : Int}

theorem reserveDeltaTx_ok (h : s.reserveDeltaTx db delta = .ok (s', db')) :
    (delta ≤ 0 ∧ s' = s ∧ db' = db) ∨
      0 < delta ∧ ∃ order, db.orders.get s.orderID = some order
        ∧ order.status = .active ∧ delta ≤ order.remainingQuota
        ∧ s' = s.reserved delta
        ∧ db' = db.saveOrder (reservedRow order delta) := by
  unfold reserveDeltaTx at h
  split at h
  · cases h
    exact .inl ⟨‹_›, rfl, rfl⟩
  simp only [found_seq_ok, require_seq_ok] at h
  obtain ⟨order, hget, hact, hle, h⟩ := h
  cases h
  have hrow := (DB.buyerOrder_eq_some.mp hget).1
  exact .inr ⟨by omega, order, hrow, hact, hle, rfl, rfl⟩

/-- A reservation up to a target is a reservation of some amount. -/
theorem reserveTx_ok (h : s.reserveTx db target = .ok (s', db')) :
    ∃ delta, delta ≤ maxInt64 ∧ s.reserveDeltaTx db delta = .ok (s', db') := by
  unfold reserveTx at h
  split at h
  · exact ⟨0, by decide, h⟩
  · exact ⟨_, wrap64_le _, h⟩

theorem releaseDeltaTx_ok (h : s.releaseDeltaTx db delta = .ok (s', db')) :
    (delta ≤ 0 ∧ s' = s ∧ db' = db) ∨
      0 < delta ∧ ∃ order, db.orders.get s.orderID = some order
        ∧ s' = s.released delta
        ∧ db' = db.saveOrder (releasedRow order delta) := by
  unfold releaseDeltaTx at h
  split at h
  · cases h
    exact .inl ⟨‹_›, rfl, rfl⟩
  simp only [found_seq_ok] at h
  obtain ⟨order, hget, h⟩ := h
  cases h
  exact .inr ⟨by omega, order, (DB.buyerOrder_eq_some.mp hget).1, rfl, rfl⟩

theorem saveCapacity_books {credentialID stats} (h : saveCapacity db credentialID stats = .ok db') :
    db'.books = db.books := by
  obtain ⟨credential, -, rfl⟩ := saveCapacity_ok h
  rfl

section

variable [FloatOps F]

/-- The order row after a settlement: closed when nothing is left. -/
def settledOrders (b : Books F) (order : MarketplaceFixedOrder F) :
    Table Int (MarketplaceFixedOrder F) (·.id) :=
  if order.remainingQuota = 0 ∧ order.status = .active then
    b.orders.save { order with status := .exhausted }
  else b.orders

/-- The tables with that row. -/
def closeExhausted (db : DB F) (order : MarketplaceFixedOrder F) : DB F :=
  if order.remainingQuota = 0 ∧ order.status = .active then
    db.saveOrder { order with status := .exhausted }
  else db

omit [FloatOps F] in
theorem closeExhausted_db (db : DB F) (order : MarketplaceFixedOrder F) :
    closeExhausted db order = db ∨ ∃ row, closeExhausted db order = db.saveOrder row := by
  unfold closeExhausted
  split
  · exact .inr ⟨_, rfl⟩
  · exact .inl rfl

theorem settleRecord_ok {latencyMS} (h : s.settleRecord db latencyMS now = .ok db') :
    ∃ order latency tx credential stats, db.orders.get s.orderID = some order ∧
      createReleasedMarketplaceSettlementTx
        { db with fills := db.fills ++ [s.fill (db.fills.length + 1) latency] }
        (s.fillSettlement (s.fill (db.fills.length + 1) latency) now) now = .ok tx ∧
      stats.credentialID = (getOrCreateMarketplaceCredentialStatsForUpdate db
        s.credentialID).credentialID ∧
      stats.currentConcurrency = (freeSlot
        (getOrCreateMarketplaceCredentialStatsForUpdate db s.credentialID)).currentConcurrency ∧
      db' = (closeExhausted tx order).saveUse credential stats := by
  simp only [settleRecord, found_seq_ok, require_seq_ok] at h
  obtain ⟨order, hget, -, h⟩ := h
  obtain ⟨tx, htx, h⟩ := seq_ok.mp h
  obtain ⟨credential, -, rfl⟩ := saveCapacity_ok h
  refine ⟨order, _, tx, credential, _, hget, htx, ?_, ?_, rfl⟩
  · split
    · exact (closeActive_concurrency _).1.trans (freeSlot_credentialID _)
    · exact freeSlot_credentialID _
  · split
    · exact (closeActive_concurrency _).2
    · rfl

theorem settleRecord_books {latencyMS} (h : s.settleRecord db latencyMS now = .ok db') :
    ∃ order latency l, db.orders.get s.orderID = some order
      ∧ db'.books = { db.books with
          orders := settledOrders db.books order
          fills := db.fills ++ [s.fill (db.fills.length + 1) latency]
          settlements := l }
      ∧ Grows db.settlements (s.fillSettlement (s.fill (db.fills.length + 1) latency) now) l := by
  obtain ⟨order, latency, tx, credential, stats, hget, htx, -, -, rfl⟩ := settleRecord_ok h
  obtain ⟨l, hbks, hgrows⟩ := createReleased_books htx
  refine ⟨order, latency, l, hget, ?_, hgrows⟩
  show (closeExhausted tx order).books = _
  unfold closeExhausted settledOrders
  split
  · rw [DB.saveOrder_books, hbks]
    rfl
  · rw [hbks]
    rfl

end

end MarketplaceFixedOrderBillingSession

/-- **Prepare** takes a slot of a credential that has one; the fresh session of
the order then reserves some amount. -/
theorem prepareFixed_ok [FloatOps F]
    (h : prepareMarketplaceFixedOrderRelay settings db input now = .ok (s, db')) :
    ∃ order credential delta, db.orders.get input.fixedOrderID = some order ∧ delta ≤ maxInt64 ∧
      db.credentials.get order.credentialID = some credential ∧
      ¬ (credential.concurrencyLimit > 0 ∧ (getOrCreateMarketplaceCredentialStatsForUpdate db
        credential.id).currentConcurrency ≥ credential.concurrencyLimit) ∧
      (newSession order input).reserveDeltaTx (db.saveUse credential (takeSlot
          (getOrCreateMarketplaceCredentialStatsForUpdate db credential.id))) delta
        = .ok (s, db') := by
  obtain ⟨_, -, h⟩ := seq_ok.mp h
  simp only [found_seq_ok, require_seq_ok] at h
  obtain ⟨order, hget, -, -, h⟩ := h
  have hrow := (DB.buyerOrder_eq_some.mp hget).1
  split at h
  · obtain ⟨_, -, h⟩ := seq_ok.mp h
    cases h
  simp only [found_seq_ok, require_seq_ok] at h
  obtain ⟨credential, hcred, -, -, hlim, h⟩ := h
  obtain ⟨secret, -, h⟩ := seq_ok.mp h
  obtain ⟨apiKey, -, h⟩ := seq_ok.mp h
  split at h
  · obtain ⟨delta, hmax, hdlt⟩ :=
      MarketplaceFixedOrderBillingSession.reserveTx_ok h
    exact ⟨order, credential, delta, hrow, hmax, hcred, hlim, hdlt⟩
  · exact ⟨order, credential, 0, hrow, by decide, hcred, hlim, h⟩

/-! ## The invariant -/

/-- What a session holds of its order: nothing once it is settled or
refunded. -/
def MarketplaceFixedOrderBillingSession.held
    (s : MarketplaceFixedOrderBillingSession F) : Int :=
  if s.settled ∨ s.refunded then 0 else s.preConsumedQuota

def fillTotal (b : Books F) (orderID : Int) : Int :=
  keyedSum (·.fixedOrderID) (·.buyerCharge) orderID b.fills

/-- What the order's sessions that are neither settled nor refunded hold. -/
def heldTotal (ss : List (MarketplaceFixedOrderBillingSession F))
    (orderID : Int) : Int :=
  keyedSum (·.orderID) (·.held) orderID ss

/-- Spent quota that is neither on a fill nor held by an open session. -/
def slack (b : Books F) (ss : List (MarketplaceFixedOrderBillingSession F))
    (order : MarketplaceFixedOrder F) : Int :=
  order.spentQuota - fillTotal b order.id - heldTotal ss order.id

structure Balanced (order : MarketplaceFixedOrder F) : Prop where
  remaining_nonneg : 0 ≤ order.remainingQuota
  spent_nonneg : 0 ≤ order.spentQuota
  expired_nonneg : 0 ≤ order.expiredQuota
  refunded_nonneg : 0 ≤ order.refundedQuota
  conserved : order.purchasedQuota = order.remainingQuota + order.spentQuota
    + order.expiredQuota + order.refundedQuota
  purchased_le : order.purchasedQuota ≤ maxInt64

/-- The ledger invariant of all orders, with the slack of each in `P`. -/
structure Ledger (P : Int → Prop) (b : Books F)
    (ss : List (MarketplaceFixedOrderBillingSession F)) : Prop where
  balanced : ∀ {o order}, b.orders.get o = some order → Balanced order
  slack_mem : ∀ {o order}, b.orders.get o = some order → P (slack b ss order)
  order_lt : ∀ {o order}, b.orders.get o = some order → o < b.nextOrderID
  fill_nonneg : ∀ f ∈ b.fills, 0 ≤ f.buyerCharge
  fill_lt : ∀ f ∈ b.fills, f.fixedOrderID < b.nextOrderID
  held_nonneg : ∀ s ∈ ss, 0 ≤ s.held
  session_lt : ∀ s ∈ ss, s.orderID < b.nextOrderID

section

variable {P : Int → Prop} {b : Books F}
  {ss : List (MarketplaceFixedOrderBillingSession F)}
  {i : Nat}

/-- **The move rule**: a step that keeps the set of orders, keeps every row
balanced and moves every slack by nothing keeps the ledger. -/
theorem Ledger.move (h : Ledger P b ss) (hnext : b'.nextOrderID = b.nextOrderID)
    (hrow : ∀ {o order'}, b'.orders.get o = some order' →
      ∃ order, b.orders.get o = some order ∧ Balanced order'
        ∧ slack b' ss' order' = slack b ss order)
    (hfill : ∀ f ∈ b'.fills, f ∈ b.fills ∨ 0 ≤ f.buyerCharge ∧ f.fixedOrderID < b.nextOrderID)
    (hheld : ∀ s ∈ ss', s ∈ ss ∨ 0 ≤ s.held ∧ s.orderID < b.nextOrderID) :
    Ledger P b' ss' where
  balanced hget := by
    obtain ⟨_, -, hbal, -⟩ := hrow hget
    exact hbal
  slack_mem hget := by
    obtain ⟨order, hold, -, hslack⟩ := hrow hget
    rw [hslack]
    exact h.slack_mem hold
  order_lt hget := by
    obtain ⟨order, hold, -⟩ := hrow hget
    rw [hnext]
    exact h.order_lt hold
  fill_nonneg f hf := (hfill f hf).elim (h.fill_nonneg f) (·.1)
  fill_lt f hf := by
    rw [hnext]
    exact (hfill f hf).elim (h.fill_lt f) (·.2)
  held_nonneg s hs := (hheld s hs).elim (h.held_nonneg s) (·.1)
  session_lt s hs := by
    rw [hnext]
    exact (hheld s hs).elim (h.session_lt s) (·.2)

theorem heldTotal_set (hi : ss[i]? = some s) (hid : s'.orderID = s.orderID) (o : Int) :
    heldTotal (ss.set i s') o = heldTotal ss o + (if s.orderID = o then s'.held - s.held else 0) :=
  keyedSum_set hi hid

variable (h : Ledger P b ss)
include h

/-- What one session holds is covered by the spent quota of its order. -/
theorem Ledger.held_le (hP : ∀ x, P x → 0 ≤ x) (hi : ss[i]? = some s)
    (hget : b.orders.get s.orderID = some order) : s.held ≤ order.spentQuota := by
  have hslack := hP _ (h.slack_mem hget)
  have hid : order.id = s.orderID := b.orders.key_get hget
  have hfills : 0 ≤ fillTotal b order.id :=
    keyedSum_nonneg fun f hf _ => h.fill_nonneg f hf
  have hheld : s.held ≤ heldTotal ss order.id :=
    le_keyedSum (fun x hx _ => h.held_nonneg x hx) (List.mem_of_getElem? hi) hid.symm
  unfold slack at hslack
  omega

/-- A session is replaced by one of the same order, and its order row by one
whose spent quota moved by the same amount. -/
theorem Ledger.transfer (hi : ss[i]? = some s) (hget : b.orders.get s.orderID = some order)
    (hsid : s'.orderID = s.orderID) (hoid : order'.id = order.id) (hbal : Balanced order')
    (hheld : 0 ≤ s'.held) (hspent : order'.spentQuota - order.spentQuota = s'.held - s.held) :
    Ledger P { b with orders := b.orders.save order' } (ss.set i s') := by
  have hid : order.id = s.orderID := b.orders.key_get hget
  refine h.move rfl ?_ (fun f hf => .inl hf) ?_
  · intro o x hx
    rw [Table.get_save] at hx
    split at hx
    · -- the order of the session: spent and held move together
      rename_i ho
      obtain rfl := Option.some.inj hx
      refine ⟨order, by rw [← ho, hoid, hid]; exact hget, hbal, ?_⟩
      have hsum := heldTotal_set hi hsid order.id
      unfold slack
      rw [hoid, hsum]
      show order'.spentQuota - fillTotal b order.id - _ = _
      omega
    -- another order: nothing moves
    have hxid : x.id = o := b.orders.key_get hx
    refine ⟨x, hx, h.balanced hx, ?_⟩
    have hsum := heldTotal_set hi hsid x.id
    unfold slack
    show x.spentQuota - fillTotal b x.id - _ = _
    omega
  intro x hx
  rcases List.mem_or_eq_of_mem_set hx with hx | rfl
  · exact .inl hx
  refine .inr ⟨hheld, ?_⟩
  rw [hsid]
  exact h.order_lt hget

/-- An order row is replaced by a balanced one with the same spent quota;
settlements and refunds are free. -/
theorem Ledger.rewrite (hget : b.orders.get o = some order) (hoid : order'.id = order.id)
    (hbal : Balanced order') (hspent : order'.spentQuota = order.spentQuota)
    (hb : b'.orders = b.orders.save order') (hfills : b'.fills = b.fills)
    (hnext : b'.nextOrderID = b.nextOrderID) : Ledger P b' ss := by
  have hid : order.id = o := b.orders.key_get hget
  have htot : ∀ k, fillTotal b' k = fillTotal b k := by
    intro k
    unfold fillTotal
    rw [hfills]
  refine h.move hnext ?_ (fun f hf => .inl (hfills ▸ hf)) (fun x hx => .inl hx)
  intro k x hx
  rw [hb, Table.get_save] at hx
  split at hx
  · obtain rfl := Option.some.inj hx
    refine ⟨order, by rw [← ‹order'.id = k›, hoid, hid]; exact hget, hbal, ?_⟩
    unfold slack
    rw [htot, hoid, hspent]
  · refine ⟨x, hx, h.balanced hx, ?_⟩
    unfold slack
    rw [htot]

theorem Ledger.setSession (hi : ss[i]? = some s) (hsid : s'.orderID = s.orderID)
    (hheld : 0 ≤ s'.held) (hP : ∀ x, P x → P (x + (s.held - s'.held))) :
    Ledger P b (ss.set i s') where
  balanced := h.balanced
  slack_mem {o order} hget := by
    have hold := h.slack_mem hget
    have hsum := heldTotal_set hi hsid order.id
    split at hsum
    · have hnew := hP _ hold
      unfold slack at hnew ⊢
      convert hnew using 1
      omega
    · unfold slack at hold ⊢
      rw [hsum]
      simpa using hold
  order_lt := h.order_lt
  fill_nonneg := h.fill_nonneg
  fill_lt := h.fill_lt
  held_nonneg x hx := by
    rcases List.mem_or_eq_of_mem_set hx with hx | rfl
    · exact h.held_nonneg x hx
    · exact hheld
  session_lt x hx := by
    rcases List.mem_or_eq_of_mem_set hx with hx | rfl
    · exact h.session_lt x hx
    · rw [hsid]
      exact h.session_lt s (List.mem_of_getElem? hi)

theorem Ledger.addSession (hlt : s.orderID < b.nextOrderID) (hheld : s.held = 0) :
    Ledger P b (ss ++ [s]) := by
  refine h.move rfl ?_ (fun f hf => .inl hf) ?_
  · intro o order hget
    refine ⟨order, hget, h.balanced hget, ?_⟩
    simp [slack, heldTotal, hheld]
  intro x hx
  rcases List.mem_append.mp hx with hx | hx
  · exact .inl hx
  · obtain rfl := List.mem_singleton.mp hx
    exact .inr ⟨hheld.ge, hlt⟩

theorem Ledger.addOrder (hP : P 0) (hid : order.id = b.nextOrderID) (hbal : Balanced order)
    (hspent : order.spentQuota = 0) :
    Ledger P { b with
      orders := b.orders.save order
      nextOrderID := b.nextOrderID + 1 } ss where
  balanced hx := by
    rw [Table.get_save] at hx
    split at hx
    · obtain rfl := Option.some.inj hx
      exact hbal
    · exact h.balanced hx
  slack_mem {o x} hx := by
    rw [Table.get_save] at hx
    split at hx
    · obtain rfl := Option.some.inj hx
      have hfills : fillTotal b order.id = 0 :=
        keyedSum_eq_zero fun f hf => by
          have := h.fill_lt f hf
          omega
      have hheld : heldTotal ss order.id = 0 :=
        keyedSum_eq_zero fun s hs => by
          have := h.session_lt s hs
          omega
      unfold slack
      rw [hspent, hheld]
      change P (0 - fillTotal b order.id - 0)
      rw [hfills]
      exact hP
    · exact h.slack_mem hx
  order_lt {o x} hx := by
    rw [Table.get_save] at hx
    dsimp only
    split at hx
    · omega
    · have := h.order_lt hx
      omega
  fill_nonneg := h.fill_nonneg
  fill_lt f hf := by
    have := h.fill_lt f hf
    dsimp only
    omega
  held_nonneg := h.held_nonneg
  session_lt s hs := by
    have := h.session_lt s hs
    dsimp only
    omega

end

/-! ## The rows the transactions write are balanced -/

namespace Balanced

variable {order : MarketplaceFixedOrder F}

variable (h : Balanced order)
include h

theorem reservedRow_spent (hpos : 0 < delta) (hle : delta ≤ order.remainingQuota) :
    (reservedRow order delta).remainingQuota = order.remainingQuota - delta
      ∧ (reservedRow order delta).spentQuota = order.spentQuota + delta := by
  have ⟨hr, hs, he, hf, hsum, hmax⟩ := h
  exact ⟨sub64_eq (InInt64.of_nonneg (by omega) (by omega)),
    add64_eq (InInt64.of_nonneg (by omega) (by omega))⟩

theorem reserved (hpos : 0 < delta) (hle : delta ≤ order.remainingQuota) :
    Balanced (reservedRow order delta) := by
  obtain ⟨_, _⟩ := h.reservedRow_spent hpos hle
  have ⟨hr, hs, he, hf, hsum, hmax⟩ := h
  refine ⟨by omega, by omega, he, hf, ?_, hmax⟩
  change order.purchasedQuota = _ + _ + order.expiredQuota + order.refundedQuota
  omega

theorem releasedRow_spent (hpos : 0 < delta) (hle : delta ≤ order.spentQuota) :
    (releasedRow order delta).remainingQuota = order.remainingQuota + delta
      ∧ (releasedRow order delta).spentQuota = order.spentQuota - delta := by
  have ⟨hr, hs, he, hf, hsum, hmax⟩ := h
  refine ⟨add64_eq (InInt64.of_nonneg (by omega) (by omega)), ?_⟩
  -- the clamp at zero is not taken
  show (if _ then _ else _) = _
  rw [if_pos hle]
  exact sub64_eq (InInt64.of_nonneg (by omega) (by omega))

theorem released (hpos : 0 < delta) (hle : delta ≤ order.spentQuota) :
    Balanced (releasedRow order delta) := by
  obtain ⟨_, _⟩ := h.releasedRow_spent hpos hle
  have ⟨hr, hs, he, hf, hsum, hmax⟩ := h
  refine ⟨by omega, by omega, he, hf, ?_, hmax⟩
  change order.purchasedQuota = _ + _ + order.expiredQuota + order.refundedQuota
  omega

theorem expired :
    (expiredRow order).expiredQuota = order.expiredQuota + order.remainingQuota
      ∧ Balanced (expiredRow order) := by
  have ⟨hr, hs, he, hf, hsum, hmax⟩ := h
  have hexp : (expiredRow order).expiredQuota
      = order.expiredQuota + order.remainingQuota :=
    add64_eq (InInt64.of_nonneg (by omega) (by omega))
  refine ⟨hexp, le_refl 0, hs, by omega, hf, ?_, hmax⟩
  change order.purchasedQuota = 0 + order.spentQuota + _ + order.refundedQuota
  omega

theorem refunded (c : MarketplaceProbeCompletion) (now : Int) :
    (refundedRow order c now).refundedQuota
        = order.refundedQuota + order.remainingQuota
      ∧ Balanced (refundedRow order c now) := by
  have ⟨hr, hs, he, hf, hsum, hmax⟩ := h
  have href : (refundedRow order c now).refundedQuota
      = order.refundedQuota + order.remainingQuota :=
    add64_eq (InInt64.of_nonneg (by omega) (by omega))
  refine ⟨href, le_refl 0, hs, he, by omega, ?_, hmax⟩
  change order.purchasedQuota = 0 + order.spentQuota + order.expiredQuota + _
  omega

end Balanced

end HermesToken.Marketplace
