import HermesToken.Marketplace.Conservation

/-!
# What was paid out for an order

The settlements of an order are those of its fills and the final one of its
expiry. The invariant compares each kind with the column of the order it is
paid from: fill settlements with the fills, the final settlement with the
expired quota, the logged refunds with the refunded quota.
-/

namespace HermesToken.Marketplace

open Lib MarketplaceFixedOrderBillingSession Books Option List

variable {F : Type} {order : MarketplaceFixedOrder F} {l : List (MarketplaceSettlement F)}
  {commits : Bool} {now : Int}

/-- The order whose fill the settlement pays, if it pays one. Fills have the
ids 1, 2, 3, ... in the order they were inserted. -/
def filledOrder (fills : List (MarketplaceFixedOrderFill F))
    (st : MarketplaceSettlement F) : Option Int :=
  if st.sourceType = .fixedOrderFill then (fills[(st.sourceID - 1).toNat]?).map (·.fixedOrderID)
  else none

/-- The order the settlement closes, if it is a final one. -/
def closedOrder (st : MarketplaceSettlement F) : Option Int :=
  if st.sourceType = .fixedOrderFinal then some st.sourceID else none

def settledOrder (fills : List (MarketplaceFixedOrderFill F))
    (st : MarketplaceSettlement F) : Option Int :=
  match st.sourceType with
  | .fixedOrderFill => (fills[(st.sourceID - 1).toNat]?).map (·.fixedOrderID)
  | .fixedOrderFinal => some st.sourceID
  | .poolFill => none

namespace Books

variable (b : Books F)

def settledTotal (o : Int) : Int :=
  keyedSum (settledOrder b.fills) (·.buyerCharge) (some o) b.settlements

/-- The buyer charges of the settlements of the order's fills. -/
def filledTotal (o : Int) : Int :=
  keyedSum (filledOrder b.fills) (·.buyerCharge) (some o) b.settlements

def closedTotal (o : Int) : Int :=
  keyedSum closedOrder (·.buyerCharge) (some o) b.settlements

def refundTotal (o : Int) : Int :=
  keyedSum (·.fixedOrderID) (·.quota) o b.refunds

theorem settledTotal_eq : b.settledTotal o = b.filledTotal o + b.closedTotal o := by
  unfold settledTotal filledTotal closedTotal
  induction b.settlements with
  | nil => rfl
  | cons st _ ih =>
      rw [keyedSum_cons, keyedSum_cons, keyedSum_cons, ih]
      unfold settledOrder filledOrder closedOrder
      cases st.sourceType <;> simp <;> omega

end Books

section

variable {fills : List (MarketplaceFixedOrderFill F)}
  {st : MarketplaceSettlement F}
  {l l' : List (MarketplaceSettlement F)} {o : Int}

theorem filledOrder_append {fill} (h : st.sourceType = .fixedOrderFill →
    (st.sourceID - 1).toNat < fills.length) :
    filledOrder (fills ++ [fill]) st = filledOrder fills st := by
  unfold filledOrder
  split
  · rw [getElem?_append_left (h ‹_›)]
  · rfl

theorem filledOrder_last {fill} (htype : st.sourceType = .fixedOrderFill)
    (hsrc : st.sourceID = fills.length + 1) :
    filledOrder (fills ++ [fill]) st = some fill.fixedOrderID := by
  have hidx : (st.sourceID - 1).toNat = fills.length := by omega
  simp [filledOrder, htype, hidx]

/-- Inserting the settlement of the newest fill adds at most its charge. -/
theorem filledTotal_grows {fill} (hnn : 0 ≤ fill.buyerCharge)
    (hchg : st.buyerCharge = fill.buyerCharge)
    (htype : st.sourceType = .fixedOrderFill) (hsrc : st.sourceID = fills.length + 1)
    (hmem : ∀ x ∈ l, x.sourceType = .fixedOrderFill → (x.sourceID - 1).toNat < fills.length)
    (hgrows : Grows l st l') :
    keyedSum (filledOrder (fills ++ [fill])) (·.buyerCharge) (some o) l'
      ≤ keyedSum (filledOrder fills) (·.buyerCharge) (some o) l
        + (if fill.fixedOrderID = o then fill.buyerCharge else 0) := by
  have hold : keyedSum (filledOrder (fills ++ [fill])) (·.buyerCharge) (some o) l
      = keyedSum (filledOrder fills) (·.buyerCharge) (some o) l :=
    keyedSum_congr fun x hx => by rw [filledOrder_append (hmem x hx)]
  cases hgrows with
  | same =>
      split <;> omega
  | insert _ _ _ htype' hsrc' hchg' =>
      rw [keyedSum_append, hold, keyedSum_cons,
        filledOrder_last (htype'.trans htype) (hsrc'.trans hsrc),
        hchg', hchg]
      simp

/-- An insert that is not a final settlement leaves the final ones alone. -/
theorem closedTotal_grows (htype : st.sourceType ≠ .fixedOrderFinal) (hgrows : Grows l st l') :
    keyedSum closedOrder (·.buyerCharge) (some o) l'
      = keyedSum closedOrder (·.buyerCharge) (some o) l := by
  cases hgrows with
  | same => rfl
  | insert st' _ _ htype' =>
      have hnone : closedOrder st' = none := if_neg (htype' ▸ htype)
      simp [hnone]

/-- An insert that is not of a fill leaves the fill settlements alone. -/
theorem filledTotal_grows_eq (htype : st.sourceType ≠ .fixedOrderFill) (hgrows : Grows l st l') :
    keyedSum (filledOrder fills) (·.buyerCharge) (some o) l'
      = keyedSum (filledOrder fills) (·.buyerCharge) (some o) l := by
  cases hgrows with
  | same => rfl
  | insert st' _ _ htype' =>
      have hnone : filledOrder fills st' = none := if_neg (htype' ▸ htype)
      simp [hnone]

/-- The final settlement of order `k` is inserted only when there was none;
`c` bounds both its charge and what was there before. -/
theorem closedTotal_insert (htype : st.sourceType = .fixedOrderFinal) (hsrc : st.sourceID = k)
    (hreq : st.requestID = marketplaceFixedOrderFinalSettlementRequestID k)
    (hids : ∀ x ∈ l, x.sourceType = .fixedOrderFinal →
      x.requestID = marketplaceFixedOrderFinalSettlementRequestID x.sourceID)
    (hgrows : Grows l st l') (hc : st.buyerCharge ≤ c)
    (hold : keyedSum closedOrder (·.buyerCharge) (some k) l ≤ c) :
    keyedSum closedOrder (·.buyerCharge) (some k) l' ≤ c := by
  cases hgrows with
  | same => exact hold
  | insert st' hfrs _ htype' hsrc' hchg' =>
  have hzero : keyedSum closedOrder (·.buyerCharge) (some k) l = 0 := by
    refine keyedSum_eq_zero fun x hx hkey => ?_
    unfold closedOrder at hkey
    split at hkey
    · rename_i hfin
      have hxk : x.sourceID = k := some.inj hkey
      exact hfrs x hx (by rw [hids x hx hfin, hxk, hreq])
    · cases hkey
  have hkey : closedOrder st' = some k := by
    unfold closedOrder
    rw [htype', htype, if_pos rfl, hsrc', hsrc]
  rw [keyedSum_append, hzero, keyedSum_cons, hkey, hchg']
  simpa using hc

theorem closedTotal_insert_ne (hsrc : st.sourceID = k) (hne : k ≠ o) (hgrows : Grows l st l') :
    keyedSum closedOrder (·.buyerCharge) (some o) l'
      = keyedSum closedOrder (·.buyerCharge) (some o) l := by
  cases hgrows with
  | same => rfl
  | insert st' _ _ _ hsrc' =>
    have hkey : closedOrder st' ≠ some o := by
      unfold closedOrder
      split
      · intro heq
        exact hne (by rw [← hsrc, ← hsrc', some.inj heq])
      · simp
    simp [hkey]

end

structure Payout (b : Books F) : Prop where
  filled_le : ∀ o, b.filledTotal o ≤ fillTotal b o
  closed_le : ∀ {o order}, b.orders.get o = some order →
    b.closedTotal o ≤ order.expiredQuota
  refund_le : ∀ {o order}, b.orders.get o = some order →
    b.refundTotal o ≤ order.refundedQuota
  source_mem : ∀ st ∈ b.settlements, st.sourceType = .fixedOrderFill →
    (st.sourceID - 1).toNat < b.fills.length
  final_id : ∀ st ∈ b.settlements, st.sourceType = .fixedOrderFinal →
    st.requestID = marketplaceFixedOrderFinalSettlementRequestID st.sourceID
      ∧ st.sourceID < b.nextOrderID
  refund_lt : ∀ r ∈ b.refunds, r.fixedOrderID < b.nextOrderID

namespace Payout

variable {b : Books F}

/-- The rows change, but neither their expired nor their refunded quota. -/
theorem saveRow (h : Payout b) (hget : b.orders.get o = some order) (hid : order'.id = order.id)
    (hexp : order'.expiredQuota = order.expiredQuota)
    (href : order'.refundedQuota = order.refundedQuota) :
    Payout { b with orders := b.orders.save order' } := by
  have hrow : ∀ {k x}, (b.orders.save order').get k = some x →
      ∃ y, b.orders.get k = some y ∧ x.expiredQuota = y.expiredQuota
        ∧ x.refundedQuota = y.refundedQuota := by
    intro k x hx
    rw [Table.get_save] at hx
    split at hx
    · rename_i hk
      obtain rfl := some.inj hx
      have ho : o = k := by
        rw [← hk, hid]
        exact (b.orders.key_get hget).symm
      exact ⟨order, ho ▸ hget, hexp, href⟩
    · exact ⟨x, hx, rfl, rfl⟩
  refine ⟨h.filled_le, ?_, ?_, h.source_mem, h.final_id, h.refund_lt⟩
  · intro k x hx
    obtain ⟨y, hy, he, -⟩ := hrow hx
    rw [he]
    exact h.closed_le hy
  · intro k x hx
    obtain ⟨y, hy, -, hr⟩ := hrow hx
    rw [hr]
    exact h.refund_le hy

theorem addOrder (h : Payout b) (hid : order.id = b.nextOrderID) (hexp : order.expiredQuota = 0)
    (href : order.refundedQuota = 0) :
    Payout { b with
      orders := b.orders.save order
      nextOrderID := b.nextOrderID + 1 } := by
  refine ⟨h.filled_le, ?_, ?_, h.source_mem, ?_, ?_⟩
  · intro o x hx
    rw [Table.get_save] at hx
    split at hx
    · obtain rfl := some.inj hx
      rw [hexp]
      refine (keyedSum_eq_zero fun st hst hkey => ?_).le
      unfold closedOrder at hkey
      split at hkey
      · rename_i hfin
        have hlt := (h.final_id st hst hfin).2
        have := some.inj hkey
        omega
      · cases hkey
    · exact h.closed_le hx
  · intro o x hx
    rw [Table.get_save] at hx
    split at hx
    · obtain rfl := some.inj hx
      rw [href]
      refine (keyedSum_eq_zero fun r hr hkey => ?_).le
      have hlt := h.refund_lt r hr
      omega
    · exact h.refund_le hx
  · intro st hst hfin
    obtain ⟨hreq, hlt⟩ := h.final_id st hst hfin
    exact ⟨hreq, by dsimp only; omega⟩
  intro r hr
  have hlt := h.refund_lt r hr
  dsimp only
  omega

/-- A probe refund: the logged quota is the one the row records. -/
theorem refundRow (h : Payout b) (hget : b.orders.get o = some order)
    (hbal : Balanced order) (hlt : o < b.nextOrderID) (c : MarketplaceProbeCompletion) (now : Int) :
    Payout { b with
      orders := b.orders.save (refundedRow order c now)
      refunds := b.refunds ++ [⟨order.id, order.remainingQuota⟩] } := by
  have hid : order.id = o := b.orders.key_get hget
  obtain ⟨_, -⟩ := hbal.refunded c now
  refine ⟨h.filled_le, ?_, ?_, h.source_mem, h.final_id, ?_⟩
  · intro k x hx
    rw [Table.get_save] at hx
    split at hx
    · rename_i hk
      obtain rfl := some.inj hx
      have ho : o = k := hid ▸ hk
      subst ho
      have hle := h.closed_le hget
      exact hle
    · exact h.closed_le hx
  · intro k x hx
    show keyedSum _ _ k (b.refunds ++ [_]) ≤ _
    rw [keyedSum_append, keyedSum_cons, keyedSum_nil]
    dsimp only
    rw [Table.get_save] at hx
    split at hx
    · rename_i hk
      obtain rfl := some.inj hx
      have ho : o = k := hid ▸ hk
      subst ho
      have hle := h.refund_le hget
      unfold refundTotal at hle
      omega
    rename_i hk
    have hle := h.refund_le hx
    unfold refundTotal at hle
    rw [if_neg (show ¬ order.id = k from hk)]
    omega
  intro r hr
  rcases mem_append.mp hr with hr | hr
  · exact h.refund_lt r hr
  · obtain rfl := mem_singleton.mp hr
    exact hid ▸ hlt

/-- A fill and, unless its request id was taken, its settlement. -/
theorem addFill (h : Payout b) {fill : MarketplaceFixedOrderFill F} {st : MarketplaceSettlement F}
    (hnn : 0 ≤ fill.buyerCharge) (hchg : st.buyerCharge = fill.buyerCharge)
    (htype : st.sourceType = .fixedOrderFill) (hsrc : st.sourceID = b.fills.length + 1)
    (hgrows : Grows b.settlements st l) :
    Payout { b with fills := b.fills ++ [fill], settlements := l } := by
  have hmem : ∀ x ∈ l, x ∈ b.settlements ∨
      x.sourceType = .fixedOrderFill ∧ x.sourceID = b.fills.length + 1 := by
    intro x hx
    cases hgrows with
    | same => exact .inl hx
    | insert _ _ _ htype' hsrc' =>
        rcases mem_append.mp hx with hx | hx
        · exact .inl hx
        · obtain rfl := mem_singleton.mp hx
          exact .inr ⟨htype'.trans htype, hsrc'.trans hsrc⟩
  refine ⟨?_, ?_, h.refund_le, ?_, ?_, h.refund_lt⟩
  · intro o
    have hgrow := filledTotal_grows (o := o) hnn hchg htype hsrc h.source_mem hgrows
    have hle := h.filled_le o
    unfold filledTotal at hle ⊢
    unfold fillTotal at hle ⊢
    simp only [keyedSum_append, keyedSum_cons, keyedSum_nil]
    omega
  · intro o order hget
    have hclose := h.closed_le hget
    unfold closedTotal at hclose ⊢
    rw [closedTotal_grows (by rw [htype]; decide) hgrows]
    exact hclose
  · intro x hx hfill
    simp only [length_append, length_singleton]
    rcases hmem x hx with hx | ⟨-, hx⟩
    · have hlt := h.source_mem x hx hfill
      omega
    · omega
  intro x hx hfin
  rcases hmem x hx with hx | ⟨hfill, -⟩
  · exact h.final_id x hx hfin
  · rw [hfill] at hfin
    cases hfin

theorem expireRow [FloatOps F] (h : Payout b)
    (hget : b.orders.get copy.id = some row) (hsame : SameLedger row copy) (hbal : Balanced row)
    (hlt : copy.id < b.nextOrderID) (hgrows : Grows b.settlements
      (marketplaceFixedOrderFinalSettlement (expiredRow copy) now) l) :
    Payout { b with
      orders := b.orders.save (expiredRow copy), settlements := l } := by
  obtain ⟨hexp, -⟩ := (hsame.balanced hbal).expired
  have hrem := (hsame.balanced hbal).remaining_nonneg
  have hmem : ∀ x ∈ l, x ∈ b.settlements ∨
      x.sourceType = .fixedOrderFinal ∧ x.sourceID = copy.id
        ∧ x.requestID = marketplaceFixedOrderFinalSettlementRequestID copy.id := by
    intro x hx
    cases hgrows with
    | same => exact .inl hx
    | insert _ _ hreq htype hsrc =>
        rcases mem_append.mp hx with hx | hx
        · exact .inl hx
        · obtain rfl := mem_singleton.mp hx
          exact .inr ⟨htype, hsrc, hreq⟩
  refine ⟨?_, ?_, ?_, ?_, ?_, h.refund_lt⟩
  · intro o
    have hle := h.filled_le o
    unfold filledTotal at hle ⊢
    rw [filledTotal_grows_eq
      (show SettlementSource.fixedOrderFinal ≠ .fixedOrderFill by decide) hgrows]
    exact hle
  · intro o x hx
    rw [Table.get_save] at hx
    unfold closedTotal
    split at hx
    · -- the expired order: its final settlement pays the expired quota
      rename_i ho
      obtain rfl := some.inj hx
      obtain rfl : copy.id = o := ho
      have hold := h.closed_le hget
      unfold closedTotal at hold
      refine closedTotal_insert rfl rfl rfl
        (fun x hx hfin => (h.final_id x hx hfin).1) hgrows (le_refl _) ?_
      rw [hexp, ← hsame.expired]
      omega
    · rename_i ho
      have hold := h.closed_le hx
      rw [closedTotal_insert_ne rfl ho hgrows]
      exact hold
  · intro o x hx
    rw [Table.get_save] at hx
    split at hx
    · rename_i ho
      obtain rfl := some.inj hx
      obtain rfl : copy.id = o := ho
      have hold := h.refund_le hget
      rw [hsame.refunded] at hold
      exact hold
    · exact h.refund_le hx
  · intro x hx hfill
    rcases hmem x hx with hx | ⟨hfin, -⟩
    · exact h.source_mem x hx hfill
    · rw [hfin] at hfill
      cases hfill
  intro x hx hfin
  rcases hmem x hx with hx | ⟨-, hsrc, hreq⟩
  · exact h.final_id x hx hfin
  · rw [hsrc]
    exact ⟨hreq, hlt⟩

theorem addPool (h : Payout b) (hpool : ∀ st ∈ pool, st.sourceType = .poolFill) :
    Payout { b with settlements := b.settlements ++ pool } := by
  refine ⟨?_, ?_, h.refund_le, ?_, ?_, h.refund_lt⟩
  · intro o
    have hle := h.filled_le o
    have hzero : keyedSum (filledOrder b.fills) (·.buyerCharge) (some o) pool
        = 0 := by
      refine keyedSum_eq_zero fun st hst => ?_
      rw [filledOrder, hpool st hst]
      simp
    unfold filledTotal at hle ⊢
    simp only [keyedSum_append, hzero, add_zero]
    exact hle
  · intro o order hget
    have hle := h.closed_le hget
    have hzero : keyedSum closedOrder (·.buyerCharge) (some o) pool = 0 := by
      refine keyedSum_eq_zero fun st hst => ?_
      rw [closedOrder, hpool st hst]
      simp
    unfold closedTotal at hle ⊢
    simp only [keyedSum_append, hzero, add_zero]
    exact hle
  · intro st hst hfill
    rcases mem_append.mp hst with hst | hst
    · exact h.source_mem st hst hfill
    · rw [hpool st hst] at hfill
      cases hfill
  intro st hst hfin
  rcases mem_append.mp hst with hst | hst
  · exact h.final_id st hst hfin
  · rw [hpool st hst] at hfin
    cases hfin

/-! ## The transactions keep the payouts -/

variable {db db' : DB F} {s s' : MarketplaceFixedOrderBillingSession F}

theorem reserveDeltaTx (h : Payout db.books)
    (hok : s.reserveDeltaTx db delta = .ok (s', db')) : Payout db'.books := by
  rcases reserveDeltaTx_ok hok with
    ⟨-, rfl, rfl⟩ | ⟨-, order, hget, -, -, rfl, rfl⟩
  · exact h
  · exact h.saveRow hget rfl rfl rfl

theorem releaseDeltaTx (h : Payout db.books)
    (hok : s.releaseDeltaTx db delta = .ok (s', db')) : Payout db'.books := by
  rcases releaseDeltaTx_ok hok with
    ⟨-, rfl, rfl⟩ | ⟨-, order, hget, rfl, rfl⟩
  · exact h
  · exact h.saveRow hget rfl rfl rfl

variable [FloatOps F]

theorem settleReserve (h : Payout db.books)
    (hok : s.settleReserve db actual = .ok (s', db')) : Payout db'.books := by
  obtain ⟨order, -, hok⟩ := found_seq_ok.mp hok
  obtain ⟨⟨s₁, tx⟩, hmove, hok⟩ := seq_ok.mp hok
  cases hok
  unfold adjustTx at hmove
  split at hmove
  · exact h.reserveDeltaTx hmove
  split at hmove
  · exact h.releaseDeltaTx hmove
  · cases hmove
    exact h

theorem settleRecord (h : Payout db.books) (hnn : 0 ≤ s.preConsumedQuota) {latencyMS : Int}
    (hok : s.settleRecord db latencyMS now = .ok db') : Payout db'.books := by
  obtain ⟨order, latency, l, hget, hbks, hgrows⟩ :=
    settleRecord_books hok
  have hfill : Payout { db.books with
      fills := db.fills ++ [s.fill (db.fills.length + 1) latency]
      settlements := l } :=
    h.addFill
      (show 0 ≤ (s.fill (db.fills.length + 1) latency).buyerCharge from hnn)
      rfl rfl rfl hgrows
  rw [hbks]
  unfold settledOrders
  split
  · have hclose := hfill.saveRow hget
      (show ({ order with status := .exhausted } :
        MarketplaceFixedOrder F).id = order.id from rfl) rfl rfl
    exact hclose
  · exact hfill

theorem settle (h : Payout db.books)
    (hnn : s.Open → ∀ s₁ tx, s.settleReserve db actual = .ok (s₁, tx) →
      0 ≤ s₁.preConsumedQuota) : Payout (s.settle db commits actual latencyMS now).db.books := by
  unfold MarketplaceFixedOrderBillingSession.settle
  split
  · exact h
  split
  · exact h
  rename_i hopen
  split
  · exact h
  rename_i s₁ tx hresv
  split
  · exact h
  rename_i hrec
  split
  · exact (h.settleReserve hresv).settleRecord (hnn hopen s₁ tx hresv) hrec
  · exact h

omit [FloatOps F] in
theorem refund (h : Payout db.books) : Payout (s.refund db commits).db.books := by
  unfold MarketplaceFixedOrderBillingSession.refund
  split
  · exact h
  split
  · exact h
  rename_i tx hrel
  split
  · exact h
  rename_i tx' hcap
  split
  · have hbks : tx'.books = tx.books := by
      split at hcap
      · cases hcap
        rfl
      · exact saveCapacity_books hcap
    rw [hbks]
    exact h.releaseDeltaTx hrel
  · exact h

theorem reserve (h : Payout db.books) : Payout (s.reserve db commits target).db.books := by
  unfold MarketplaceFixedOrderBillingSession.reserve
  split
  · exact h
  split
  · exact h
  split
  · exact h
  rename_i hresv
  obtain ⟨delta, -, hdlt⟩ := reserveTx_ok hresv
  split
  · exact h.reserveDeltaTx hdlt
  · exact h

end Payout

end HermesToken.Marketplace
