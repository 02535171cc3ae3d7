import HermesToken.Marketplace.Ledger

/-!
# Serial runs keep the ledger

The session calls, one by one, keep the invariant of
`HermesToken.Marketplace.Ledger`; serial runs of all operations follow by the
run rule. A charge that does not fit in 64 bits wraps to a negative number,
and then the ledger is lost: the counterexample shows such a run.
-/

namespace HermesToken.Marketplace

open Lib MarketplaceFixedOrderBillingSession List

variable {F : Type} {P : Int → Prop} {db : DB F}
  {ss : List (MarketplaceFixedOrderBillingSession F)}
  {s : MarketplaceFixedOrderBillingSession F} {i : Nat} {order : MarketplaceFixedOrder F}
  {settings : Settings F}

namespace MarketplaceFixedOrderBillingSession

variable {delta now : Int} {commits : Bool}

def Open (s : MarketplaceFixedOrderBillingSession F) : Prop :=
  ¬ (s.settled ∨ s.refunded)

instance (s : MarketplaceFixedOrderBillingSession F) : Decidable s.Open :=
  inferInstanceAs (Decidable (¬ _))

/-- The same session holding `q`. -/
def withQuota (s : MarketplaceFixedOrderBillingSession F) (q : Int) :
    MarketplaceFixedOrderBillingSession F :=
  { s with preConsumedQuota := q }

theorem held_of_open (h : s.Open) : s.held = s.preConsumedQuota := if_neg h

section

variable (s)

@[simp] theorem held_asSettled : s.asSettled.held = 0 := by
  simp [held, asSettled]

@[simp] theorem held_asRefunded : s.asRefunded.held = 0 := by
  simp [held, asRefunded]

end

theorem held_withQuota (h : s.Open) (q : Int) : (s.withQuota q).held = q :=
  if_neg h

end MarketplaceFixedOrderBillingSession

section

variable (hP : ∀ x, P x → 0 ≤ x)

include hP

section

variable (h : Ledger P db.books ss) (hi : ss[i]? = some s) (hopen : s.Open)
include h hi hopen

/-- A reservation moves `delta` from the remaining quota to the session. -/
theorem Ledger.reserveDeltaTx (hok : s.reserveDeltaTx db delta = .ok (s', db')) :
    s' = s.withQuota (s.preConsumedQuota + max delta 0) ∧ Ledger P db'.books (ss.set i s') := by
  have hheld := h.held_nonneg s (mem_of_getElem? hi)
  rcases reserveDeltaTx_ok hok with
    ⟨hdlt, rfl, rfl⟩ | ⟨hpos, order, hget, -, hle, rfl, rfl⟩
  · refine ⟨?_, h.setSession hi rfl hheld (by simp)⟩
    rw [max_eq_right hdlt, add_zero]
    rfl
  have hcover := h.held_le hP hi hget
  have hbal := h.balanced hget
  obtain ⟨_, _⟩ := hbal.reservedRow_spent hpos hle
  have hpre := s.held_of_open hopen
  have hsum : add64 s.preConsumedQuota delta = s.preConsumedQuota + delta := by
    have ⟨_, _, _, _, _, _⟩ := hbal
    exact add64_eq (InInt64.of_nonneg (by omega) (by omega))
  have hs' : s.reserved delta = s.withQuota (s.preConsumedQuota + delta) := by
    unfold reserved
    rw [hsum]
    rfl
  rw [hs', max_eq_left hpos.le]
  refine ⟨rfl, h.transfer hi hget rfl rfl (hbal.reserved hpos hle) ?_ ?_⟩
  · rw [s.held_withQuota hopen]
    omega
  · rw [s.held_withQuota hopen, hpre]
    omega

/-- A release of no more than the session holds moves it back. -/
theorem Ledger.releaseDeltaTx (hle : delta ≤ s.preConsumedQuota)
    (hok : s.releaseDeltaTx db delta = .ok (s', db')) :
    s' = s.withQuota (s.preConsumedQuota - max delta 0) ∧ Ledger P db'.books (ss.set i s') := by
  have hheld := h.held_nonneg s (mem_of_getElem? hi)
  rcases releaseDeltaTx_ok hok with
    ⟨hdlt, rfl, rfl⟩ | ⟨hpos, order, hget, rfl, rfl⟩
  · refine ⟨?_, h.setSession hi rfl hheld (by simp)⟩
    rw [max_eq_right hdlt, sub_zero]
    rfl
  have hcover := h.held_le hP hi hget
  have hbal := h.balanced hget
  have hpre := s.held_of_open hopen
  obtain ⟨_, _⟩ := hbal.releasedRow_spent hpos (by omega)
  have hdiff : sub64 s.preConsumedQuota delta = s.preConsumedQuota - delta := by
    have ⟨_, _, _, _, _, _⟩ := hbal
    exact sub64_eq (InInt64.of_nonneg (by omega) (by omega))
  have hs' : s.released delta = s.withQuota (s.preConsumedQuota - delta) := by
    unfold released
    rw [hdiff, if_neg (by omega)]
    rfl
  rw [hs', max_eq_left hpos.le]
  refine ⟨rfl, h.transfer hi hget rfl rfl (hbal.released hpos (by omega)) ?_ ?_⟩
  · rw [s.held_withQuota hopen]
    omega
  · rw [s.held_withQuota hopen, hpre]
    omega

/-- The adjustment by `delta`, in either direction. -/
theorem Ledger.adjustTx (hlow : 0 ≤ s.preConsumedQuota + delta)
    (hpre : s.preConsumedQuota ≤ maxInt64) (hok : s.adjustTx db delta = .ok (s', db')) :
    s' = s.withQuota (s.preConsumedQuota + delta) ∧ Ledger P db'.books (ss.set i s') := by
  have hheld := h.held_nonneg s (mem_of_getElem? hi)
  unfold MarketplaceFixedOrderBillingSession.adjustTx at hok
  split at hok
  · have hmove := h.reserveDeltaTx hP hi hopen hok
    rwa [max_eq_left (by omega)] at hmove
  split at hok
  · have hneg : neg64 delta = -delta :=
      neg64_eq (InInt64.of_nonneg (by omega) (by omega))
    rw [hneg] at hok
    have hmove := h.releaseDeltaTx hP hi hopen (by omega) hok
    rwa [max_eq_left (by omega), sub_neg_eq_add] at hmove
  cases hok
  have hzero : delta = 0 := by omega
  refine ⟨?_, h.setSession hi rfl hheld (by simp)⟩
  rw [hzero, add_zero]
  rfl

end

variable [FloatOps F]

/-- The first half of `Settle` leaves an open session that holds exactly the
charge. The charge is not negative and, unless it is the full charge for the
actual quota, no more than what the session held. -/
theorem Ledger.settleReserve (h : Ledger P db.books ss) (hi : ss[i]? = some s) (hopen : s.Open)
    (hfit : ChargeFits actual s.platformFeeRateSnapshot)
    (hok : s.settleReserve db actual = .ok (s', db')) :
    ∃ charge, s' = s.withQuota charge ∧ 0 ≤ charge
      ∧ (s.buyerChargeForQuota actual ≤ s.preConsumedQuota → charge ≤ s.preConsumedQuota)
      ∧ Ledger P db'.books (ss.set i s') := by
  obtain ⟨order, hget, hok⟩ := found_seq_ok.mp hok
  obtain ⟨⟨s₁, tx⟩, hmove, hok⟩ := seq_ok.mp hok
  have hheld := h.held_nonneg s (mem_of_getElem? hi)
  have hcover := h.held_le hP hi hget
  have ⟨hr, _, _, _, _, _⟩ := h.balanced hget
  rw [s.held_of_open hopen] at hheld hcover
  obtain ⟨hnn, hle⟩ := capBuyerCharge_bounds hfit hheld hr (by omega)
  have hcap : s.buyerChargeForQuota actual ≤ s.preConsumedQuota →
      marketplaceCapActualFixedOrderBuyerCharge actual s.preConsumedQuota
        order.remainingQuota s.platformFeeRateSnapshot ≤ s.preConsumedQuota := by
    intro hle
    change marketplaceBuyerChargeWithFee actual s.platformFeeRateSnapshot ≤ _ at hle
    simp [marketplaceCapActualFixedOrderBuyerCharge, hle]
  generalize marketplaceCapActualFixedOrderBuyerCharge actual
    s.preConsumedQuota order.remainingQuota s.platformFeeRateSnapshot
    = charge at hnn hle hcap hmove hok
  have hdlt : sub64 charge s.preConsumedQuota = charge - s.preConsumedQuota :=
    sub64_eq (by unfold InInt64 maxInt64 at *; omega)
  rw [hdlt] at hmove
  obtain ⟨rfl, hledger⟩ := h.adjustTx hP hi hopen (by omega) (by omega) hmove
  have hsame : s.preConsumedQuota + (charge - s.preConsumedQuota) = charge := by
    omega
  rw [hsame] at hledger
  cases hok
  exact ⟨charge, rfl, hnn, hcap, hledger⟩

omit hP in
/-- The second half of `Settle` moves what the session holds to a fill. -/
theorem Ledger.settleRecord (h : Ledger P db.books ss) (hi : ss[i]? = some s) (hopen : s.Open)
    (hok : s.settleRecord db latencyMS now = .ok db') :
    Ledger P db'.books (ss.set i s.asSettled) := by
  obtain ⟨order, latency, l, hget, hbks, -⟩ :=
    settleRecord_books hok
  have hheld := h.held_nonneg s (mem_of_getElem? hi)
  have hpre := s.held_of_open hopen
  have hfills : ∀ o, fillTotal db'.books o = fillTotal db.books o
      + (if s.orderID = o then s.preConsumedQuota else 0) := by
    intro o
    rw [hbks]
    show keyedSum _ _ o (db.fills ++ [s.fill _ latency]) = _
    rw [keyedSum_append, keyedSum_cons, keyedSum_nil, add_zero]
    rfl
  have hslack : ∀ x : MarketplaceFixedOrder F,
      slack db'.books (ss.set i s.asSettled) x = slack db.books ss x := by
    intro x
    have hsum := heldTotal_set hi (show s.asSettled.orderID = s.orderID from rfl) x.id
    rw [s.held_asSettled, hpre] at hsum
    unfold slack
    rw [hfills, hsum]
    split <;> omega
  refine h.move (by rw [hbks]) ?_ ?_ ?_
  · intro o x hx
    rw [hbks] at hx
    unfold settledOrders at hx
    split at hx
    · -- nothing is left: the row is closed with the same quota columns
      rw [Table.get_save] at hx
      split at hx
      · rename_i ho
        obtain rfl := Option.some.inj hx
        have hid : order.id = s.orderID := db.orders.key_get hget
        have hbal := h.balanced hget
        refine ⟨order, by rw [← ho]; exact hid ▸ hget, ?_, hslack _⟩
        exact ⟨hbal.1, hbal.2, hbal.3, hbal.4, hbal.5, hbal.6⟩
      · exact ⟨x, hx, h.balanced hx, hslack x⟩
    · exact ⟨x, hx, h.balanced hx, hslack x⟩
  · intro f hf
    rw [hbks] at hf
    rcases mem_append.mp hf with hf | hf
    · exact .inl hf
    obtain rfl := mem_singleton.mp hf
    rw [hpre] at hheld
    exact .inr ⟨hheld, h.order_lt hget⟩
  · intro x hx
    rcases mem_or_eq_of_mem_set hx with hx | rfl
    · exact .inl hx
    · exact .inr ⟨s.held_asSettled.ge, h.order_lt hget⟩

/-! ### Whole calls

A call that returns an error may leave the session changed. The hypotheses
`hroll` say what is asked of the slack in that case. -/

theorem Ledger.settle (h : Ledger P db.books ss) (hi : ss[i]? = some s)
    (hfit : s.Open → ChargeFits actual s.platformFeeRateSnapshot)
    (hroll : (s.settle db commits actual latencyMS now).result ≠ .ok () →
      s.Open → ∀ s₁ tx, s.settleReserve db actual = .ok (s₁, tx) →
        (commits → ∃ e, s₁.settleRecord tx latencyMS now = .error e) →
        (∀ x y, P x → x ≤ y → P y) ∧ s.buyerChargeForQuota actual ≤ s.preConsumedQuota) :
    Ledger P (s.settle db commits actual latencyMS now).db.books
      (ss.set i (s.settle db commits actual latencyMS now).session) := by
  have hheld := h.held_nonneg s (mem_of_getElem? hi)
  have hkeep : Ledger P db.books (ss.set i s) :=
    h.setSession hi rfl hheld (by simp)
  revert hroll
  unfold MarketplaceFixedOrderBillingSession.settle
  split
  · exact fun _ => hkeep
  split
  · exact fun _ => hkeep
  rename_i hopen
  split
  · exact fun _ => hkeep
  rename_i s₁ tx hresv
  obtain ⟨charge, rfl, hnn, hle, hledger⟩ :=
    h.settleReserve hP hi hopen (hfit hopen) hresv
  -- after a rollback the session holds the charge and the books are the old
  have hrolled : (∀ x y, P x → x ≤ y → P y)
      ∧ s.buyerChargeForQuota actual ≤ s.preConsumedQuota →
      Ledger P db.books (ss.set i (s.withQuota charge)) := by
    rintro ⟨hmono, hgoal⟩
    have hchg := hle hgoal
    refine h.setSession hi rfl ?_ fun x hx => hmono x _ hx ?_
    · rw [s.held_withQuota hopen]
      exact hnn
    · rw [s.held_withQuota hopen, s.held_of_open hopen]
      omega
  split
  · rename_i e herr
    intro hroll
    exact hrolled (hroll (by simp) hopen _ _ hresv fun _ => ⟨e, herr⟩)
  rename_i hrec
  split
  · intro _
    have hlen : (ss.set i (s.withQuota charge))[i]? = some (s.withQuota charge) :=
      by simp [List.getElem?_set_self (List.getElem?_eq_some_iff.mp hi).1]
    have hdone := hledger.settleRecord hlen hopen hrec
    rwa [set_set] at hdone
  · rename_i hcom
    intro hroll
    exact hrolled (hroll (by simp) hopen _ _ hresv fun hc => absurd hc hcom)

omit [FloatOps F] in
theorem Ledger.refund (h : Ledger P db.books ss) (hi : ss[i]? = some s)
    (hroll : (s.refund db commits).result ≠ .ok () → ∀ x y, P x → x ≤ y → P y) :
    Ledger P (s.refund db commits).db.books (ss.set i (s.refund db commits).session) := by
  have hheld := h.held_nonneg s (mem_of_getElem? hi)
  have hkeep : Ledger P db.books (ss.set i s) :=
    h.setSession hi rfl hheld (by simp)
  revert hroll
  unfold MarketplaceFixedOrderBillingSession.refund
  split
  · exact fun _ => hkeep
  rename_i hguard
  have hopen : s.Open := fun hclose => hguard (by tauto)
  have hpre := s.held_of_open hopen
  split
  · exact fun _ => hkeep
  rename_i tx hrel
  obtain ⟨rfl, hledger⟩ := h.releaseDeltaTx hP hi hopen (le_refl _) hrel
  have hzero : s.preConsumedQuota - max s.preConsumedQuota 0 = 0 := by omega
  rw [hzero] at hledger ⊢
  -- after a rollback the session holds nothing and the books are the old
  have hrolled : (∀ x y, P x → x ≤ y → P y) →
      Ledger P db.books (ss.set i (s.withQuota 0)) := by
    intro hmono
    refine h.setSession hi rfl ?_ fun x hx => hmono x _ hx ?_
    · rw [s.held_withQuota hopen]
    · rw [s.held_withQuota hopen]
      omega
  split
  · intro hroll
    exact hrolled (hroll (by simp))
  rename_i tx' hcap
  split
  · intro _
    have hbks : tx'.books = tx.books := by
      split at hcap
      · cases hcap
        rfl
      · exact saveCapacity_books hcap
    rw [← hbks] at hledger
    have hlen : (ss.set i (s.withQuota 0))[i]? = some (s.withQuota 0) := by
      simp [List.getElem?_set_self (List.getElem?_eq_some_iff.mp hi).1]
    have hdone := hledger.setSession hlen
      (show (s.withQuota 0).asRefunded.orderID = _ from rfl)
      (held_asRefunded _).ge
      (by simp [s.held_withQuota hopen])
    rwa [set_set] at hdone
  · intro hroll
    exact hrolled (hroll (by simp))

theorem Ledger.reserve (h : Ledger P db.books ss) (hi : ss[i]? = some s)
    (hroll : commits = true ∨ s.buyerChargeForQuota target ≤ s.preConsumedQuota) :
    Ledger P (s.reserve db commits target).db.books
      (ss.set i (s.reserve db commits target).session) := by
  have hheld := h.held_nonneg s (mem_of_getElem? hi)
  have hkeep : Ledger P db.books (ss.set i s) :=
    h.setSession hi rfl hheld (by simp)
  unfold MarketplaceFixedOrderBillingSession.reserve
  split
  · exact hkeep
  split
  · exact hkeep
  rename_i hguard
  have hopen : s.Open := fun hclose => hguard (by tauto)
  have hcom : commits = true :=
    hroll.resolve_right fun hle => hguard (.inr (.inr hle))
  split
  · exact hkeep
  rename_i hresv
  obtain ⟨delta, -, hdlt⟩ := reserveTx_ok hresv
  obtain ⟨-, hledger⟩ := h.reserveDeltaTx hP hi hopen hdlt
  rw [if_pos hcom]
  exact hledger

end

/-! ## Runs -/

/-- The database and the sessions prepared so far. -/
structure World (F : Type) where
  db : DB F
  sessions : List (MarketplaceFixedOrderBillingSession F) := []

/-- The operations. `other` is everything else the system does: it may change
credentials, their stats and users, and insert pool settlements. -/
inductive Op (F : Type) where
  | create (settings : Settings F) (input : MarketplaceFixedOrderCreateInput F)
      (now : Int)
  | prepare (settings : Settings F) (input : MarketplaceFixedOrderRelayInput)
      (now : Int)
  | reserve (i : Nat) (targetQuota : Int)
  | settle (i : Nat) (actualQuota latencyMS now : Int)
  | refund (i : Nat)
  | detect (fixedOrderID : Int) (completion : MarketplaceProbeCompletion)
      (now : Int)
  | probeRefund (buyerUserID fixedOrderID : Int)
      (completion : MarketplaceProbeCompletion) (now : Int)
  | getBuyer (settings : Settings F) (buyerUserID fixedOrderID now : Int)
  | expireDue (buyerUserID fixedOrderID now : Int)
  | other (credentials : Table Int (MarketplaceCredential F) (·.id))
      (stats : Table Int MarketplaceCredentialStats (·.credentialID))
      (users : Table Int User (·.id))
      (pool : List (MarketplaceSettlement F))

namespace World

variable (w : World F)

/-- The end of a transaction: COMMIT, or ROLLBACK after an error. -/
def commit (commits : Bool) (tx : Except String (DB F)) :
    World F × Except String Unit :=
  match tx with
  | .error e => (w, .error e)
  | .ok db =>
      if commits then ({ w with db }, .ok ())
      else (w, .error "commit failed")

/-- The end of a `Prepare`: the session exists once its transaction committed. -/
def openSession (commits : Bool)
    (tx : Except String (MarketplaceFixedOrderBillingSession F × DB F)) :
    World F × Except String Unit :=
  match tx with
  | .error e => (w, .error e)
  | .ok (s, db) =>
      if commits then (⟨db, w.sessions ++ [s]⟩, .ok ())
      else (w, .error "commit failed")

/-- A call on the `i`-th session. -/
def call (i : Nat) (f : MarketplaceFixedOrderBillingSession F → Call F) :
    World F × Except String Unit :=
  match w.sessions[i]? with
  | none => (w, .error "no session")
  | some s => (⟨(f s).db, w.sessions.set i (f s).session⟩, (f s).result)

/-- The expiry of an order on the copy of its row that was read. -/
def expire [FloatOps F] (commits : Bool)
    (copy : Option (MarketplaceFixedOrder F)) (now : Int) :
    World F × Except String Unit :=
  match copy with
  | none => (w, .ok ())
  | some order => w.commit commits (expireMarketplaceFixedOrderTx w.db order now)

/-- One operation, run on its own. -/
def apply [FloatOps F] (commits : Bool) : Op F → World F × Except String Unit
  | .create settings input now =>
      w.commit commits (createMarketplaceFixedOrder settings w.db input now)
  | .prepare settings input now =>
      w.openSession commits
        (prepareMarketplaceFixedOrderRelay settings w.db input now)
  | .reserve i targetQuota => w.call i (·.reserve w.db commits targetQuota)
  | .settle i actualQuota latencyMS now =>
      w.call i (·.settle w.db commits actualQuota latencyMS now)
  | .refund i => w.call i (·.refund w.db commits)
  | .detect fixedOrderID completion now =>
      w.commit commits (.ok (recordMarketplaceFixedOrderRefundProbeCompletion
        w.db fixedOrderID completion now))
  | .probeRefund buyerUserID fixedOrderID completion now =>
      w.commit commits (refundBuyerMarketplaceFixedOrderRemainingQuota w.db
        buyerUserID fixedOrderID completion now)
  | .getBuyer settings buyerUserID fixedOrderID now =>
      w.expire commits (getBuyerMarketplaceFixedOrderRead settings w.db
        buyerUserID fixedOrderID now) now
  | .expireDue buyerUserID fixedOrderID now =>
      w.expire commits (expireDueBuyerMarketplaceFixedOrdersRead w.db
        buyerUserID fixedOrderID now) now
  | .other credentials stats users pool =>
      ({ w with db := { w.db with
          credentials := credentials
          stats := stats
          users := users
          settlements := w.db.settlements
            ++ pool.filter (·.sourceType = .poolFill) } }, .ok ())

variable {w} {Q : World F → Prop} {commits : Bool}

theorem commit_rule (hw : Q w) (htx : ∀ db, tx = .ok db → Q { w with db }) :
    Q (w.commit commits tx).1 := by
  unfold commit
  split
  · exact hw
  split
  · exact htx _ rfl
  · exact hw

theorem openSession_rule (hw : Q w) (htx : ∀ s db, tx = .ok (s, db) → Q ⟨db, w.sessions ++ [s]⟩) :
    Q (w.openSession commits tx).1 := by
  unfold openSession
  split
  · exact hw
  split
  · exact htx _ _ rfl
  · exact hw

theorem call_rule
    (hw : Q w) (hf : ∀ s, w.sessions[i]? = some s → Q ⟨(f s).db, w.sessions.set i (f s).session⟩) :
    Q (w.call i f).1 := by
  unfold call
  split
  · exact hw
  · exact hf _ ‹_›

/-- Before anything happened to fixed orders. -/
structure Fresh (w : World F) : Prop where
  orders : ∀ o, w.db.orders.get o = none
  fills : w.db.fills = []
  settlements : ∀ st ∈ w.db.settlements, st.sourceType = .poolFill
  refunds : w.db.refunds = []
  sessions : w.sessions = []

end World

/-! ### One operation keeps the ledger -/

/-- The two rows agree in the columns the ledger reads. -/
structure SameLedger (a b : MarketplaceFixedOrder F) : Prop where
  id : a.id = b.id
  purchased : a.purchasedQuota = b.purchasedQuota
  remaining : a.remainingQuota = b.remainingQuota
  spent : a.spentQuota = b.spentQuota
  expired : a.expiredQuota = b.expiredQuota
  refunded : a.refundedQuota = b.refundedQuota
  status : a.status = b.status

instance (a b : MarketplaceFixedOrder F) : Decidable (SameLedger a b) :=
  decidable_of_iff (a.id = b.id ∧ a.purchasedQuota = b.purchasedQuota
      ∧ a.remainingQuota = b.remainingQuota ∧ a.spentQuota = b.spentQuota
      ∧ a.expiredQuota = b.expiredQuota ∧ a.refundedQuota = b.refundedQuota
      ∧ a.status = b.status)
    ⟨fun h => ⟨h.1, h.2.1, h.2.2.1, h.2.2.2.1, h.2.2.2.2.1, h.2.2.2.2.2.1,
        h.2.2.2.2.2.2⟩,
      fun h => ⟨h.1, h.2, h.3, h.4, h.5, h.6, h.7⟩⟩

theorem SameLedger.refl (a : MarketplaceFixedOrder F) : SameLedger a a :=
  ⟨rfl, rfl, rfl, rfl, rfl, rfl, rfl⟩

theorem SameLedger.balanced (h : SameLedger a b) (ha : Balanced a) : Balanced b := by
  have ⟨hr, hs, he, hf, hsum, hmax⟩ := ha
  exact ⟨h.remaining ▸ hr, h.spent ▸ hs, h.expired ▸ he, h.refunded ▸ hf,
    by rw [← h.purchased, ← h.remaining, ← h.spent, ← h.expired, ← h.refunded,
      hsum], h.purchased ▸ hmax⟩

theorem Ledger.expireTx [FloatOps F] (h : Ledger P db.books ss)
    (hget : db.orders.get copy.id = some row) (hsame : SameLedger row copy)
    (hok : expireMarketplaceFixedOrderTx db copy now = .ok db') : Ledger P db'.books ss := by
  rcases expireFixedOrder_books hok with
    ⟨-, rfl⟩ | ⟨-, l, hbks, -⟩
  · exact h
  obtain ⟨-, hbal⟩ := (hsame.balanced (h.balanced hget)).expired
  exact h.rewrite hget (show (expiredRow copy).id = row.id from hsame.id.symm)
    hbal hsame.spent.symm (by rw [hbks]; rfl) (by rw [hbks])
    (by rw [hbks])

def World.Keeps (P : Int → Prop) (w : World F) : Prop :=
  Ledger P w.db.books w.sessions

open World

theorem Ledger.expire [FloatOps F] {w : World F} (h : w.Keeps P)
    (hcopy : ∀ order, copy = some order → w.db.orders.get order.id = some order) :
    (w.expire commits copy now).1.Keeps P := by
  cases copy with
  | none => exact h
  | some order =>
      exact commit_rule h fun db hok =>
        Ledger.expireTx h (hcopy order rfl) (SameLedger.refl order) hok

theorem getOrderRead_get
    (h : getBuyerMarketplaceFixedOrderRead settings db buyer o now = some order) :
    db.orders.get order.id = some order := by
  unfold getBuyerMarketplaceFixedOrderRead at h
  split at h
  · have hget := (DB.buyerOrder_eq_some.mp (Option.filter_eq_some_iff.mp h).1).1
    rw [db.orders.key_get hget]
    exact hget
  · cases h

theorem expireDueRead_get
    (h : expireDueBuyerMarketplaceFixedOrdersRead db buyer o now = some order) :
    db.orders.get order.id = some order := by
  unfold expireDueBuyerMarketplaceFixedOrdersRead at h
  split at h
  · cases h
  have hget := (DB.buyerOrder_eq_some.mp (Option.filter_eq_some_iff.mp h).1).1
  rw [db.orders.key_get hget]
  exact hget

/-- What a session call has to meet for the ledger to be kept: a `Settle`
charge fits, and a transaction that rolls back leaves a slack in `P`. -/
def Admits [FloatOps F] (P : Int → Prop) (commits : Bool) (w : World F) :
    Op F → Prop
  | .settle i actual latencyMS now => ∀ s, w.sessions[i]? = some s →
      (s.Open → ChargeFits actual s.platformFeeRateSnapshot) ∧
      ((s.settle w.db commits actual latencyMS now).result ≠ .ok () → s.Open →
        ∀ s₁ tx, s.settleReserve w.db actual = .ok (s₁, tx) →
          (commits = true → ∃ e, s₁.settleRecord tx latencyMS now = .error e) →
          (∀ x y, P x → x ≤ y → P y)
            ∧ s.buyerChargeForQuota actual ≤ s.preConsumedQuota)
  | .refund i => ∀ s, w.sessions[i]? = some s →
      (s.refund w.db commits).result ≠ .ok () → ∀ x y, P x → x ≤ y → P y
  | .reserve i target => ∀ s, w.sessions[i]? = some s →
      commits = true ∨ s.buyerChargeForQuota target ≤ s.preConsumedQuota
  | _ => True

theorem Ledger.prepare [FloatOps F] (hP : ∀ x, P x → 0 ≤ x) (h : Ledger P db.books ss)
    (hok : prepareMarketplaceFixedOrderRelay settings db input now
      = .ok (s, db')) : Ledger P db'.books (ss ++ [s]) := by
  obtain ⟨order, credential, delta, hget, -, -, -, hresv⟩ := prepareFixed_ok hok
  have hlt : (newSession order input).orderID < db.books.nextOrderID := by
    show order.id < _
    rw [db.orders.key_get hget]
    exact h.order_lt hget
  have hnew : Ledger P (db.saveUse credential (takeSlot
      (getOrCreateMarketplaceCredentialStatsForUpdate db credential.id))).books _ :=
    h.addSession hlt rfl
  have hlast : (ss ++ [newSession order input])[ss.length]?
      = some (newSession order input) := by simp
  obtain ⟨-, hledger⟩ := hnew.reserveDeltaTx hP hlast
    (by simp [MarketplaceFixedOrderBillingSession.Open, newSession]) hresv
  simpa using hledger

theorem World.Keeps.apply [FloatOps F] (hP : ∀ x, P x → 0 ≤ x) (hP0 : P 0) {w : World F}
    (h : w.Keeps P) (hop : Admits P commits w op) : (w.apply commits op).1.Keeps P := by
  cases op with
  | create =>
      refine commit_rule h fun db hok => ?_
      obtain ⟨order, hid, _, hmax, _, hspent, _, _, -, hbks⟩ :=
        createFixedOrder_books hok
      have hbal : Balanced order :=
        ⟨by omega, by omega, by omega, by omega, by omega, hmax⟩
      show Ledger P db.books w.sessions
      rw [hbks]
      exact Ledger.addOrder h hP0 hid hbal hspent
  | prepare =>
      exact openSession_rule h fun s db hok => Ledger.prepare hP h hok
  | reserve =>
      exact call_rule h fun s hs => Ledger.reserve hP h hs (hop s hs)
  | settle =>
      exact call_rule h fun s hs =>
        Ledger.settle hP h hs (hop s hs).1 (hop s hs).2
  | refund =>
      exact call_rule h fun s hs => Ledger.refund hP h hs (hop s hs)
  | detect o completion now =>
      refine commit_rule h fun db hok => ?_
      cases hok
      rcases recordRefundProbe_books w.db o completion now with hsame | ⟨order, hget, hbks⟩
      · show Ledger P _ w.sessions
        rw [hsame]
        exact h
      have hsame : SameLedger order (probedRow order completion now) :=
        ⟨rfl, rfl, rfl, rfl, rfl, rfl, rfl⟩
      exact Ledger.rewrite h hget hsame.id.symm
        (hsame.balanced (h.balanced hget)) rfl
        (by rw [hbks]; rfl) (by rw [hbks]) (by rw [hbks])
  | probeRefund _ _ completion now =>
      refine commit_rule h fun db hok => ?_
      obtain ⟨order, hget, hbks⟩ :=
        refundRemaining_books hok
      obtain ⟨-, hbal⟩ := (h.balanced hget).refunded completion now
      exact Ledger.rewrite h hget
        (show (refundedRow order completion now).id = order.id from rfl) hbal rfl
        (by rw [hbks]; rfl) (by rw [hbks]) (by rw [hbks])
  | getBuyer =>
      exact Ledger.expire h fun _ => getOrderRead_get
  | expireDue =>
      exact Ledger.expire h fun _ => expireDueRead_get
  | other =>
      exact Ledger.move h rfl (fun hget => ⟨_, hget, h.balanced hget, rfl⟩)
        (fun f hf => .inl hf) (fun s hs => .inl hs)

/-! ## Serial runs -/

section

variable [FloatOps F]

/-- One operation of a serial run. -/
def World.step (w : World F) (op : Op F) : World F := (w.apply true op).1

/-- The operation commits: it returns no error. -/
def Committed (w : World F) (op : Op F) : Prop := (w.apply true op).2 = .ok ()

/-- A `Settle` charge, fee included, is a 64-bit integer. -/
def SettleFits (w : World F) : Op F → Prop
  | .settle i actual _ _ => ∀ s ∈ w.sessions[i]?,
      ChargeFits actual s.platformFeeRateSnapshot
  | _ => True

instance (op : Op F) : Decidable (Committed w op) := inferInstanceAs (Decidable (_ = _))

instance (w : World F) : (op : Op F) → Decidable (SettleFits w op)
  | .settle i actual _ _ => inferInstanceAs (Decidable (∀ s ∈ w.sessions[i]?,
      ChargeFits actual s.platformFeeRateSnapshot))
  | .create .. | .prepare .. | .reserve .. | .refund .. | .detect ..
  | .probeRefund .. | .getBuyer .. | .expireDue .. | .other .. =>
      isTrue trivial

omit [FloatOps F] in
theorem World.Fresh.keeps {w : World F} (h : w.Fresh) (P : Int → Prop) : w.Keeps P where
  balanced {o _} hget := by
    have hnone : w.db.books.orders.get o = none := h.orders o
    rw [hnone] at hget
    cases hget
  slack_mem {o _} hget := by
    have hnone : w.db.books.orders.get o = none := h.orders o
    rw [hnone] at hget
    cases hget
  order_lt {o _} hget := by
    have hnone : w.db.books.orders.get o = none := h.orders o
    rw [hnone] at hget
    cases hget
  fill_nonneg f hf := by
    have hnil : w.db.books.fills = [] := h.fills
    rw [hnil] at hf
    cases hf
  fill_lt f hf := by
    have hnil : w.db.books.fills = [] := h.fills
    rw [hnil] at hf
    cases hf
  held_nonneg s hs := by
    rw [h.sessions] at hs
    cases hs
  session_lt s hs := by
    rw [h.sessions] at hs
    cases hs

/-- A committed operation whose charge fits is admitted with no slack. -/
theorem admits_of_committed {op : Op F} (hok : Committed w op)
    (hfit : SettleFits w op) : Admits (· = 0) true w op := by
  cases op with
  | settle _ actual latencyMS now =>
      intro s hs
      have hres : (s.settle w.db true actual latencyMS now).result = .ok () := by
        simpa [Committed, apply, call, hs] using hok
      exact ⟨fun _ => hfit s hs, fun hne => absurd hres hne⟩
  | refund =>
      intro s hs hne
      have hres : (s.refund w.db true).result = .ok () := by
        simpa [Committed, apply, call, hs] using hok
      exact absurd hres hne
  | reserve => exact fun _ _ => .inl rfl
  | _ => trivial

theorem World.Keeps.step {w : World F} (h : w.Keeps (· = 0))
    (hok : Committed w op) (hfit : SettleFits w op) :
    (w.step op).Keeps (· = 0) := by
  have hnn : ∀ x : Int, x = 0 → 0 ≤ x := by
    intro x hx
    omega
  exact World.Keeps.apply hnn rfl h (admits_of_committed hok hfit)

/-- **The ledger of a fixed order.** After every serial run of committed
operations whose `Settle` charges fit in 64 bits: the four quota columns of an
order are not negative and sum to what was purchased, and the spent quota is
the charges of the order's fills plus what its open sessions hold. -/
theorem fixedOrder_ledger {w : World F} (hw : w.Fresh) {ops : List (Op F)}
    (hops : Along World.step (fun w op => Committed w op ∧ SettleFits w op) w ops)
    {o : Int} {order : MarketplaceFixedOrder F}
    (hget : (exec World.step w ops).db.orders.get o = some order) :
    0 ≤ order.remainingQuota ∧ 0 ≤ order.spentQuota ∧ 0 ≤ order.expiredQuota
      ∧ 0 ≤ order.refundedQuota
      ∧ order.purchasedQuota = order.remainingQuota + order.spentQuota
          + order.expiredQuota + order.refundedQuota
      ∧ order.spentQuota = fillTotal (exec World.step w ops).db.books o
          + heldTotal (exec World.step w ops).sessions o := by
  have hledger : (exec World.step w ops).Keeps (· = 0) :=
    hops.invariant (World.Keeps (· = 0)) (fun _ _ h hop => h.step hop.1 hop.2) (hw.keeps _)
  have hbal := hledger.balanced hget
  have hslack := hledger.slack_mem hget
  have hid : order.id = o := Table.key_get _ hget
  unfold slack at hslack
  rw [hid] at hslack
  exact ⟨hbal.1, hbal.2, hbal.3, hbal.4, hbal.5, by omega⟩

end

/-! ### A market with one credential

Seller 2 offers credential 1 at fee rate 1; buyer 3 has quota 1000. -/

def sampleSettings : Settings ℚ where
  feeRate := 1
  quotaPerUnit := 1

def sampleCredential : MarketplaceCredential ℚ where
  id := 1
  sellerUserID := 2
  encryptedAPIKey := "key"
  models := "gpt"
  quotaMode := .unlimited
  quotaLimit := 0
  timeMode := .limited
  timeLimitSeconds := 100
  multiplier := 1
  concurrencyLimit := 0
  listingStatus := .listed
  serviceStatus := .enabled
  healthStatus := .healthy
  capacityStatus := .available
  riskStatus := .normal
  probeStatus := .passed
  probeScore := 90
  probeScoreMax := 100

def sampleWorld : World ℚ where
  db := {
    orders := Table.empty _
    credentials := (Table.empty _).save sampleCredential
    stats := Table.empty _
    users := ((Table.empty _).save ⟨2, true, 0⟩).save ⟨3, true, 1000⟩ }

theorem sampleWorld_fresh : sampleWorld.Fresh where
  orders _ := rfl
  fills := rfl
  settlements _ h := by cases h
  refunds := rfl
  sessions := rfl

/-- Buy an order of 50 plus fee, and open a session on it. -/
def samplePurchase : List (Op ℚ) :=
  [.create sampleSettings ⟨3, 1, 50, 0⟩ 10,
   .prepare sampleSettings ⟨3, 1, "gpt", 0, "req-1"⟩ 20]

/-- The order the run ends with, if it exists. -/
def orderAfter (ops : List (Op ℚ)) (o : Int) : Option (MarketplaceFixedOrder ℚ) :=
  (exec World.step sampleWorld ops).db.orders.get o

/-- A settlement of 20 on the sample order leaves 60 of 100. -/
theorem fixedOrder_ledger_sample :
    ∃ order, orderAfter (samplePurchase ++ [.settle 0 20 5 30]) 1 = some order
      ∧ order.remainingQuota = 60
      ∧ order.purchasedQuota = order.remainingQuota + order.spentQuota
          + order.expiredQuota + order.refundedQuota := by
  have hrun : Along World.step (fun w op => Committed w op ∧ SettleFits w op)
      sampleWorld (samplePurchase ++ [.settle 0 20 5 30]) := by decide +kernel
  have hget : (orderAfter (samplePurchase ++ [.settle 0 20 5 30]) 1).map
      (·.remainingQuota) = some 60 := by decide +kernel
  obtain ⟨order, horder, hrem⟩ := Option.map_eq_some_iff.mp hget
  have h := fixedOrder_ledger sampleWorld_fresh hrun horder
  exact ⟨order, horder, hrem, h.2.2.2.2.1⟩

/-- **A charge that wraps.** The charge for `2^62 + 1024` at fee rate 1 is
`2^63 + 2048`, which wraps to a negative number; `Settle` then RELEASES
`2^63 - 2048` to an order of 100, and commits. -/
theorem fixedOrder_ledger_overflow :
    ∃ order, Along World.step Committed sampleWorld
        (samplePurchase ++ [.settle 0 (2 ^ 62 + 1024) 5 30])
      ∧ orderAfter (samplePurchase ++ [.settle 0 (2 ^ 62 + 1024) 5 30]) 1 = some order
      ∧ order.purchasedQuota = 100
      ∧ order.remainingQuota = 9223372036854773860
      ∧ order.purchasedQuota ≠ order.remainingQuota + order.spentQuota
          + order.expiredQuota + order.refundedQuota := by
  have hget : (orderAfter (samplePurchase ++ [.settle 0 (2 ^ 62 + 1024) 5 30]) 1).map
      (fun o => (o.purchasedQuota, o.remainingQuota, o.spentQuota, o.expiredQuota, o.refundedQuota))
      = some (100, 9223372036854773860, 0, 0, 0) := by decide +kernel
  obtain ⟨order, horder, hcols⟩ := Option.map_eq_some_iff.mp hget
  simp only [Prod.mk.injEq] at hcols
  obtain ⟨hp, hr, _, _, _⟩ := hcols
  exact ⟨order, by decide +kernel, horder, hp, hr, by omega⟩

end HermesToken.Marketplace
