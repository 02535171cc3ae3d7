import HermesToken.Marketplace.Market

/-!
# Quota of closed orders

An order closes when it is exhausted, expired or refunded, and the quota that
is left goes to nobody, to the seller or to the buyer. A session outlives its
order: a `Settle` or `Refund` that comes later still gives quota back to the
row, whatever its status. That quota is STRANDED, and with it a later `Settle`
of another session of the order is no longer capped to what the session holds.
-/

namespace HermesToken.Marketplace

open Lib MarketplaceFixedOrderBillingSession World

variable {F : Type} {order : MarketplaceFixedOrder F}

/-- A closed order has nothing left. -/
def DB.Unstranded (db : DB F) : Prop :=
  ∀ o order, db.orders.get o = some order → order.status ≠ .active → order.remainingQuota = 0

def MarketplaceFixedOrderBillingSession.HoldsQuota (s : MarketplaceFixedOrderBillingSession F) :
    Prop :=
  0 ≤ s.preConsumedQuota ∧ s.preConsumedQuota ≤ maxInt64

section

variable {db db' : DB F}

theorem DB.Unstranded.of_orders (h : db.Unstranded) (hsame : db'.orders = db.orders) :
    db'.Unstranded := by
  unfold DB.Unstranded
  rw [hsame]
  exact h

theorem DB.Unstranded.save (h : db.Unstranded) (hsaved : db'.orders = db.orders.save order)
    (hrow : order.status ≠ .active → order.remainingQuota = 0) : db'.Unstranded := by
  intro o row hget hclose
  rw [hsaved, Table.get_save] at hget
  split at hget
  · obtain rfl := Option.some.inj hget
    exact hrow hclose
  · exact h o row hget hclose

end

/-! ## What a session can release -/

section

variable {db db' : DB F} {s s' : MarketplaceFixedOrderBillingSession F} {delta : Int}

/-- A reservation writes the row of an active order. -/
theorem reserveDeltaTx_unstranded (h : db.Unstranded)
    (hok : s.reserveDeltaTx db delta = .ok (s', db')) : db'.Unstranded := by
  rcases reserveDeltaTx_ok hok with
    ⟨_, _, rfl⟩ | ⟨_, order, _, hact, _, _, rfl⟩
  · exact h
  · exact h.save rfl fun hclose => absurd hact hclose

/-- A release writes the row of the order, closed or not. -/
theorem releaseDeltaTx_unstranded (h : db.Unstranded)
    (hok : s.releaseDeltaTx db delta = .ok (s', db'))
    (hlate : ∀ order, db.orders.get s.orderID = some order → order.status ≠ .active → delta ≤ 0) :
    db'.Unstranded := by
  rcases releaseDeltaTx_ok hok with
    ⟨_, _, rfl⟩ | ⟨hpos, order, hget, _, rfl⟩
  · exact h
  refine h.save rfl fun hclose => ?_
  have := hlate order hget hclose
  omega

theorem HoldsQuota.of_zero (h : s.preConsumedQuota = 0) : s.HoldsQuota := by
  unfold HoldsQuota
  rw [h]
  decide

theorem HoldsQuota.released (delta : Int) : (s.released delta).HoldsQuota := by
  show 0 ≤ (if sub64 s.preConsumedQuota delta < 0 then 0 else sub64 s.preConsumedQuota delta) ∧
    (if sub64 s.preConsumedQuota delta < 0 then 0 else sub64 s.preConsumedQuota delta) ≤ maxInt64
  have hle : sub64 s.preConsumedQuota delta ≤ maxInt64 := wrap64_le _
  split
  · decide
  · exact ⟨by omega, hle⟩

theorem HoldsQuota.reserveTx (h : s.HoldsQuota) (hmax : target ≤ maxInt64)
    (hok : s.reserveTx db target = .ok (s', db')) : s'.HoldsQuota := by
  obtain ⟨hlow, hhigh⟩ := h
  unfold MarketplaceFixedOrderBillingSession.reserveTx at hok
  split at hok
  · cases hok
    exact ⟨hlow, hhigh⟩
  have hdlt : sub64 target s.preConsumedQuota = target - s.preConsumedQuota :=
    sub64_eq (InInt64.of_nonneg (by omega) (by omega))
  rcases reserveDeltaTx_ok hok with
    ⟨_, rfl, _⟩ | ⟨_, order, _, _, _, rfl, _⟩
  · exact ⟨hlow, hhigh⟩
  have hsum : (s.reserved (sub64 target s.preConsumedQuota)).preConsumedQuota = target := by
    show add64 s.preConsumedQuota (sub64 target s.preConsumedQuota) = target
    rw [add64_eq (InInt64.of_nonneg (by omega) (by omega))]
    omega
  unfold HoldsQuota
  omega

end

section

variable [FloatOps F] {db db' : DB F} {s s' : MarketplaceFixedOrderBillingSession F} {actual : Int}

theorem buyerCharge_le (quota : Int) (feeRate : F) :
    marketplaceBuyerChargeWithFee quota feeRate ≤ maxInt64 := by
  unfold marketplaceBuyerChargeWithFee marketplaceBuyerChargeQuotaWithFee
  split
  · exact le_refl _
  rename_i h
  split at h
  · obtain rfl := Except.ok.inj h
    decide
  dsimp only at h
  split at h
  · cases h
  · obtain rfl := Except.ok.inj h
    exact wrap64_le _

theorem capped_holds {feeRate : F}
    (hchg : 0 ≤ marketplaceBuyerChargeWithFee actual feeRate) :
    0 ≤ marketplaceCapActualFixedOrderBuyerCharge actual pre rem feeRate ∧
      marketplaceCapActualFixedOrderBuyerCharge actual pre rem feeRate ≤ maxInt64 := by
  have hle := buyerCharge_le actual feeRate
  unfold marketplaceCapActualFixedOrderBuyerCharge
  dsimp only
  split
  · exact ⟨hchg, hle⟩
  · split <;> split <;> split <;> omega

/-- **The cap**, when nothing overflows. -/
theorem capped_eq_min (hpre : 0 ≤ pre) (hrem : 0 ≤ rem)
    (hmax : pre + rem ≤ maxInt64) (feeRate : F) :
    marketplaceCapActualFixedOrderBuyerCharge actual pre rem feeRate =
      min (marketplaceBuyerChargeWithFee actual feeRate) (pre + rem) := by
  unfold marketplaceCapActualFixedOrderBuyerCharge
  dsimp only
  rw [add64_eq (InInt64.of_nonneg (by omega) hmax)]
  split
  · omega
  · split <;> omega

/-- With nothing left in the order the charge is at most what is held. -/
theorem capped_of_closed (hlow : 0 ≤ pre) (hhigh : pre ≤ maxInt64) (feeRate : F) :
    marketplaceCapActualFixedOrderBuyerCharge actual pre 0 feeRate =
      min (marketplaceBuyerChargeWithFee actual feeRate) pre := by
  rw [capped_eq_min hlow (le_refl 0) (by omega), add_zero]

/-- The first half of `Settle`, as an adjustment by the difference. -/
theorem settleReserve_ok (h : s.settleReserve db actual = .ok (s', db')) :
    ∃ order s₁, db.orders.get s.orderID = some order ∧
      s.adjustTx db (sub64 (marketplaceCapActualFixedOrderBuyerCharge actual s.preConsumedQuota
        order.remainingQuota s.platformFeeRateSnapshot) s.preConsumedQuota) = .ok (s₁, db') ∧
      s'.preConsumedQuota = marketplaceCapActualFixedOrderBuyerCharge actual s.preConsumedQuota
        order.remainingQuota s.platformFeeRateSnapshot := by
  obtain ⟨order, hget, h⟩ := found_seq_ok.mp h
  obtain ⟨⟨s₁, tx⟩, hmove, h⟩ := seq_ok.mp h
  obtain ⟨rfl, rfl⟩ := Prod.mk.inj (Except.ok.inj h)
  exact ⟨order, s₁, hget, hmove, rfl⟩

theorem settleReserve_holds (hchg : 0 ≤ s.buyerChargeForQuota actual)
    (h : s.settleReserve db actual = .ok (s', db')) : s'.HoldsQuota := by
  obtain ⟨order, s₁, _, _, hquo⟩ := settleReserve_ok h
  unfold HoldsQuota
  rw [hquo]
  exact capped_holds hchg

/-- A charge of a closed order that is not below what is held moves nothing. -/
theorem settleReserve_unstranded (h : db.Unstranded) (hs : s.HoldsQuota)
    (hlate : ∀ order, db.orders.get s.orderID = some order → order.status ≠ .active →
      s.preConsumedQuota ≤ s.buyerChargeForQuota actual)
    (hok : s.settleReserve db actual = .ok (s', db')) : db'.Unstranded := by
  obtain ⟨order, s₁, hget, hmove, _⟩ := settleReserve_ok hok
  by_cases hact : order.status = .active
  · -- every row that is written keeps the status
    unfold adjustTx at hmove
    split at hmove
    · exact reserveDeltaTx_unstranded h hmove
    split at hmove
    · refine releaseDeltaTx_unstranded h hmove fun order' hget' hclose => ?_
      obtain rfl := Option.some.inj (hget.symm.trans hget')
      exact absurd hact hclose
    · obtain ⟨_, rfl⟩ := Prod.mk.inj (Except.ok.inj hmove)
      exact h
  have hchg := hlate order hget hact
  unfold buyerChargeForQuota at hchg
  rw [h _ order hget hact, capped_of_closed hs.1 hs.2, min_eq_right hchg] at hmove
  have hzero : sub64 s.preConsumedQuota s.preConsumedQuota = 0 := by
    unfold sub64
    rw [sub_self]
    rfl
  rw [hzero] at hmove
  obtain ⟨_, rfl⟩ := Prod.mk.inj (Except.ok.inj hmove)
  exact h

theorem settleRecord_unstranded (h : db.Unstranded)
    (hok : s.settleRecord db latencyMS now = .ok db') : db'.Unstranded := by
  obtain ⟨order, latency, l, _, hbks, -⟩ :=
    settleRecord_books hok
  have hords : db'.orders =
      settledOrders db.books order := by
    have := congrArg Books.orders hbks
    exact this
  unfold settledOrders at hords
  split at hords
  · rename_i hexh
    exact h.save hords fun _ => hexh.1
  · exact h.of_orders hords

/-! ## The calls -/

variable {commits : Bool} {latencyMS now : Int}

theorem settle_unstranded (h : db.Unstranded) (hs : s.HoldsQuota)
    (hchg : s.Open → 0 ≤ s.buyerChargeForQuota actual)
    (hlate : s.Open → commits → ∀ order, db.orders.get s.orderID = some order →
      order.status ≠ .active → s.preConsumedQuota ≤ s.buyerChargeForQuota actual) :
    (s.settle db commits actual latencyMS now).db.Unstranded ∧
      (s.settle db commits actual latencyMS now).session.HoldsQuota := by
  unfold settle
  split
  · exact ⟨h, hs⟩
  split
  · exact ⟨h, hs⟩
  rename_i hopen
  split
  · exact ⟨h, hs⟩
  rename_i hresv
  have hs₁ := settleReserve_holds (hchg hopen) hresv
  split
  · exact ⟨h, hs₁⟩
  rename_i hrec
  split
  · rename_i hcom
    have htx := settleReserve_unstranded h hs (hlate hopen hcom) hresv
    exact ⟨settleRecord_unstranded htx hrec, hs₁⟩
  · exact ⟨h, hs₁⟩

omit [FloatOps F] in
theorem refund_unstranded (h : db.Unstranded) (hs : s.HoldsQuota)
    (hlate : s.Open → commits → ∀ order, db.orders.get s.orderID = some order →
      order.status ≠ .active → s.preConsumedQuota ≤ 0) :
    (s.refund db commits).db.Unstranded ∧ (s.refund db commits).session.HoldsQuota := by
  unfold refund
  split
  · exact ⟨h, hs⟩
  rename_i hguard
  have hopen : s.Open := fun hclose => hguard (hclose.imp id .inl)
  split
  · exact ⟨h, hs⟩
  rename_i s₁ tx hrel
  have hs₁ : s₁.HoldsQuota := by
    rcases releaseDeltaTx_ok hrel with
      ⟨_, rfl, _⟩ | ⟨_, order, _, rfl, _⟩
    · exact hs
    · exact HoldsQuota.released s.preConsumedQuota
  split
  · exact ⟨h, hs₁⟩
  rename_i hcap
  split
  · rename_i hcom
    have htx := releaseDeltaTx_unstranded h hrel (hlate hopen hcom)
    refine ⟨htx.of_orders ?_, HoldsQuota.of_zero rfl⟩
    split at hcap
    · obtain rfl := Except.ok.inj hcap
      rfl
    · obtain ⟨credential, _, rfl⟩ := saveCapacity_ok hcap
      rfl
  · exact ⟨h, hs₁⟩

theorem reserve_unstranded (h : db.Unstranded) (hs : s.HoldsQuota) (targetQuota : Int) :
    (s.reserve db commits targetQuota).db.Unstranded ∧
      (s.reserve db commits targetQuota).session.HoldsQuota := by
  unfold reserve
  split
  · exact ⟨h, hs⟩
  split
  · exact ⟨h, hs⟩
  split
  · exact ⟨h, hs⟩
  rename_i hresv
  have hs₁ := HoldsQuota.reserveTx hs (buyerCharge_le _ _) hresv
  split
  · obtain ⟨delta, _, hdlt⟩ := reserveTx_ok hresv
    exact ⟨reserveDeltaTx_unstranded h hdlt, hs₁⟩
  · exact ⟨h, hs₁⟩

theorem prepare_unstranded (h : db.Unstranded)
    (hok : prepareMarketplaceFixedOrderRelay settings db input now = .ok (s, db')) :
    db'.Unstranded ∧ s.HoldsQuota := by
  obtain ⟨order, credential, delta, -, hmax, -, -, hresv⟩ := prepareFixed_ok hok
  refine ⟨reserveDeltaTx_unstranded ?_ hresv, ?_⟩
  · exact h.of_orders rfl
  rcases reserveDeltaTx_ok hresv with
    ⟨_, rfl, _⟩ | ⟨hpos, row, _, _, _, rfl, _⟩
  · exact HoldsQuota.of_zero rfl
  show 0 ≤ add64 0 delta ∧ add64 0 delta ≤ maxInt64
  rw [add64_eq (by rw [zero_add]; exact InInt64.of_nonneg hpos.le hmax), zero_add]
  exact ⟨hpos.le, hmax⟩

/-! ## Why Settle fails -/

/-- The errors of the second half of `Settle`. -/
def settleRecordErrors : List String :=
  ["record not found", "duplicated key not allowed", "seller user id is required",
   "marketplace settlement request id is required",
   "marketplace seller income must not be negative",
   "released marketplace income exceeds supported user quota range", "seller user not found"]

/-- The errors of `Settle` when the order has nothing left. -/
def settleErrors : List String :=
  ["actual quota must not be negative", "marketplace fixed order not found", "commit failed"]
    ++ settleRecordErrors

omit [FloatOps F] in
theorem createReleased_error
    (h : createReleasedMarketplaceSettlementTx db st now = .error e) : e ∈ settleRecordErrors := by
  unfold createReleasedMarketplaceSettlementTx at h
  split at h
  · cases h
  rcases require_seq_error h with rfl | h
  · decide
  rcases require_seq_error h with rfl | h
  · decide
  rcases require_seq_error h with rfl | h
  · decide
  rcases require_seq_error h with rfl | h
  · decide
  dsimp only at h
  split at h
  · cases h
  split at h
  · cases h
  rcases require_seq_error h with rfl | h
  · decide
  · cases h

theorem settleRecord_error (h : s.settleRecord db latencyMS now = .error e) :
    e ∈ settleRecordErrors := by
  rcases found_seq_error h with ⟨_, rfl⟩ | ⟨order, _, h⟩
  · decide
  rcases require_seq_error h with rfl | h
  · decide
  rcases seq_error h with h | ⟨tx, _, h⟩
  · exact createReleased_error h
  rcases found_seq_error h with ⟨_, rfl⟩ | ⟨credential, _, h⟩
  · decide
  · cases h

section

variable (hs : s.HoldsQuota) (hchg : 0 ≤ s.buyerChargeForQuota actual)
  (hget : db.orders.get s.orderID = some order) (hempty : order.remainingQuota = 0)
include hs hchg hget hempty

/-- With nothing left in the order, only a release can be asked for. -/
theorem settleReserve_error (h : s.settleReserve db actual = .error e) :
    e = "marketplace fixed order not found" := by
  rcases found_seq_error h with ⟨hnone, _⟩ | ⟨order', hget', h⟩
  · rw [hnone] at hget
    cases hget
  obtain rfl := Option.some.inj (hget.symm.trans hget')
  rcases seq_error h with h | ⟨_, _, h⟩
  · unfold buyerChargeForQuota at hchg
    obtain ⟨hlow, hhigh⟩ := hs
    rw [hempty, capped_of_closed hlow hhigh] at h
    generalize marketplaceBuyerChargeWithFee actual s.platformFeeRateSnapshot = charge at h hchg
    have hdlt : sub64 (min charge s.preConsumedQuota) s.preConsumedQuota =
        min charge s.preConsumedQuota - s.preConsumedQuota :=
      sub64_eq (by unfold InInt64 maxInt64 at *; omega)
    unfold adjustTx at h
    rw [hdlt, if_neg (by omega)] at h
    split at h
    · unfold releaseDeltaTx at h
      split at h
      · cases h
      rcases found_seq_error h with ⟨_, rfl⟩ | ⟨row, _, h⟩
      · rfl
      · cases h
    · cases h
  · cases h

/-- **Settle** of a session whose order has closed with nothing left fails for
other reasons only. -/
theorem settle_error_of_closed (h : (s.settle db commits actual latencyMS now).result = .error e) :
    e ∈ settleErrors := by
  unfold settle at h
  split at h
  · cases h
    decide
  split at h
  · cases h
  split at h
  · rename_i hresv
    cases h
    rw [settleReserve_error hs hchg hget hempty hresv]
    decide
  split at h
  · rename_i hrec
    cases h
    exact List.mem_append_right _ (settleRecord_error hrec)
  split at h
  · cases h
  · cases h
    decide

end

theorem closed_not_settleError (status : FixedOrderStatus) :
    "marketplace fixed order is " ++ status.text ∉ settleErrors := by
  cases status <;> decide

end

/-! ## Serial runs -/

/-- An operation with the outcome of its COMMIT, run on its own. -/
def World.serial [FloatOps F] (w : World F) (a : Op F × Bool) : World F := (w.apply a.2 a.1).1

/-- When the order of the session has closed, a `Settle` charges no less than
what the session holds, and a `Refund` finds nothing to give back. -/
def NoLateRelease [FloatOps F] (w : World F) : Op F × Bool → Prop
  | (.settle i actual _ _, commits) => ∀ s ∈ w.sessions[i]?, s.Open →
      0 ≤ s.buyerChargeForQuota actual ∧
      (commits = true → ∀ order ∈ w.db.orders.get s.orderID, order.status ≠ .active →
        s.preConsumedQuota ≤ s.buyerChargeForQuota actual)
  | (.refund i, commits) => ∀ s ∈ w.sessions[i]?, s.Open →
      commits = true → ∀ order ∈ w.db.orders.get s.orderID, order.status ≠ .active →
        s.preConsumedQuota ≤ 0
  | _ => True

instance [FloatOps F] (w : World F) : (a : Op F × Bool) → Decidable (NoLateRelease w a)
  | (.settle i actual _ _, commits) => inferInstanceAs (Decidable (∀ s ∈ w.sessions[i]?, s.Open →
      0 ≤ s.buyerChargeForQuota actual ∧
      (commits = true → ∀ order ∈ w.db.orders.get s.orderID, order.status ≠ .active →
        s.preConsumedQuota ≤ s.buyerChargeForQuota actual)))
  | (.refund i, commits) => inferInstanceAs (Decidable (∀ s ∈ w.sessions[i]?, s.Open →
      commits = true → ∀ order ∈ w.db.orders.get s.orderID, order.status ≠ .active →
        s.preConsumedQuota ≤ 0))
  | (.create .., _) | (.prepare .., _) | (.reserve .., _) | (.detect .., _)
  | (.probeRefund .., _) | (.getBuyer .., _) | (.expireDue .., _) | (.other .., _) =>
      isTrue trivial

structure World.Unstranded (w : World F) : Prop where
  db : w.db.Unstranded
  sessions : ∀ s ∈ w.sessions, s.HoldsQuota

namespace World.Unstranded

variable {w : World F}

theorem call (h : w.Unstranded) {i s db}
    (hcall : db.Unstranded ∧ s.HoldsQuota) : Unstranded ⟨db, w.sessions.set i s⟩ := by
  refine ⟨hcall.1, fun s' hs' => ?_⟩
  rcases List.mem_or_eq_of_mem_set hs' with hold | rfl
  · exact h.sessions s' hold
  · exact hcall.2

variable [FloatOps F] {commits : Bool}

theorem expire (h : w.Unstranded) (copy : Option (MarketplaceFixedOrder F)) :
    (w.expire commits copy now).1.Unstranded := by
  unfold World.expire
  split
  · exact h
  refine commit_rule h fun db hok => ⟨?_, h.sessions⟩
  rcases expireFixedOrder_books hok with ⟨_, rfl⟩ | ⟨_, l, hbks, _⟩
  · exact h.db
  · exact h.db.save (congrArg Books.orders hbks) fun _ => rfl

theorem step (h : w.Unstranded) {a} (hlate : NoLateRelease w a) : (w.serial a).Unstranded := by
  obtain ⟨op, commits⟩ := a
  have held : ∀ {i : Nat} {s}, w.sessions[i]? = some s → s.HoldsQuota :=
    fun hi => h.sessions _ (List.mem_of_getElem? hi)
  cases op with
  | create =>
    refine commit_rule h fun db hok => ⟨?_, h.sessions⟩
    obtain ⟨order, _, _, _, _, _, _, _, hact, hbks⟩ := createFixedOrder_books hok
    exact h.db.save (congrArg Books.orders hbks) fun hclose => absurd hact hclose
  | prepare =>
    refine openSession_rule h fun s db hok => ?_
    obtain ⟨hdb, hs⟩ := prepare_unstranded h.db hok
    refine ⟨hdb, fun s' hs' => ?_⟩
    rcases List.mem_append.mp hs' with hold | hnew
    · exact h.sessions s' hold
    · rw [List.mem_singleton.mp hnew]
      exact hs
  | reserve _ targetQuota =>
    exact call_rule h fun s hi => h.call (reserve_unstranded h.db (held hi) targetQuota)
  | settle =>
    exact call_rule h fun s hi => h.call (settle_unstranded h.db (held hi)
      (fun hopen => (hlate s hi hopen).1) (fun hopen => (hlate s hi hopen).2))
  | refund =>
    exact call_rule h fun s hi => h.call (refund_unstranded h.db (held hi) (hlate s hi))
  | detect fixedOrderID completion now =>
    refine commit_rule h fun db hok => ⟨?_, h.sessions⟩
    obtain rfl := Except.ok.inj hok
    rcases recordRefundProbe_books w.db fixedOrderID completion now with hbks | ⟨order, hget, hbks⟩
    · exact h.db.of_orders (congrArg Books.orders hbks)
    · exact h.db.save (congrArg Books.orders hbks) (h.db _ order hget)
  | probeRefund =>
    refine commit_rule h fun db hok => ⟨?_, h.sessions⟩
    obtain ⟨order, _, hbks⟩ := refundRemaining_books hok
    exact h.db.save (congrArg Books.orders hbks) fun _ => rfl
  | getBuyer | expireDue => exact h.expire _
  | other => exact ⟨h.db.of_orders rfl, h.sessions⟩

end World.Unstranded

theorem World.Fresh.unstranded {w : World F} (h : w.Fresh) : w.Unstranded where
  db o order hget := by
    rw [h.orders o] at hget
    cases hget
  sessions s hs := by
    rw [h.sessions] at hs
    cases hs

/-- **No stranded quota.** In every serial run without a late release a closed
order has nothing left, and `Settle` of a session never fails because the order
of the session has closed. -/
theorem no_stranded_quota [FloatOps F] {w : World F} (hw : w.Fresh) {acts : List (Op F × Bool)}
    (hrun : Along World.serial NoLateRelease w acts) :
    let w' := exec serial w acts
    (∀ o order, w'.db.orders.get o = some order → order.status ≠ .active →
      order.remainingQuota = 0) ∧
    (∀ s ∈ w'.sessions, ∀ order, w'.db.orders.get s.orderID = some order →
      order.status ≠ .active → ∀ commits actual latencyMS now,
      0 ≤ s.buyerChargeForQuota actual →
      (s.settle w'.db commits actual latencyMS now).result ≠
        .error ("marketplace fixed order is " ++ order.status.text)) := by
  have h : (exec serial w acts).Unstranded :=
    hrun.invariant Unstranded (fun _ _ hkept hlate => hkept.step hlate) hw.unstranded
  refine ⟨h.db, ?_⟩
  intro s hs order hget hclosed commits actual latencyMS now hcharge herror
  have hnothing := h.db _ order hget hclosed
  exact closed_not_settleError order.status
    (settle_error_of_closed (h.sessions s hs) hcharge hget hnothing herror)

/-! ### Three sessions of an order of 100 -/

/-- Sessions that hold 40, 60 and nothing; the first one settles what it holds
and so closes the order. -/
def sampleClosing : List (Op ℚ × Bool) :=
  [(.create sampleSettings ⟨3, 1, 50, 0⟩ 10, true),
   (.prepare sampleSettings ⟨3, 1, "gpt", 20, "req-1"⟩ 20, true),
   (.prepare sampleSettings ⟨3, 1, "gpt", 30, "req-2"⟩ 20, true),
   (.prepare sampleSettings ⟨3, 1, "gpt", 0, "req-3"⟩ 20, true),
   (.settle 0 20 5 30, true)]

/-- The second session then settles 80, of which it has 60. -/
def sampleLater : List (Op ℚ × Bool) := sampleClosing ++ [(.settle 1 40 5 40, true)]

theorem no_stranded_quota_sample :
    ∃ order, (exec World.serial sampleWorld sampleLater).db.orders.get 1 = some order ∧
      order.status = .exhausted ∧ order.remainingQuota = 0 := by
  have hstatus : ((exec serial sampleWorld sampleLater).db.orders.get 1).map (·.status) =
      some .exhausted := by decide +kernel
  obtain ⟨order, hget, hexhausted⟩ := Option.map_eq_some_iff.mp hstatus
  have h := no_stranded_quota sampleWorld_fresh
    (show Along serial NoLateRelease sampleWorld sampleLater by decide +kernel)
  exact ⟨order, hget, hexhausted, h.1 1 order hget (by rw [hexhausted]; decide)⟩

/-- **Stranded quota.** The second session is refunded instead: its 60 go to
the exhausted order, and the third session can then not settle its 20. -/
theorem quota_stranded :
    let w := exec serial sampleWorld (sampleClosing ++ [(.refund 1, true)])
    (w.db.orders.get 1).map (fun o => (o.status, o.remainingQuota)) = some (.exhausted, 60) ∧
      (w.apply true (.settle 2 10 5 50)).2 = .error "marketplace fixed order is exhausted" := by
  decide +kernel

end HermesToken.Marketplace
