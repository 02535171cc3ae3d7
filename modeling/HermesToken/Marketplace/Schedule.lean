import HermesToken.Marketplace.Payout

/-!
# Schedules: expiries on rows read earlier

The session calls, the purchase and the probe refund lock the order row for
the whole transaction, so each of them is one step. The two expiry paths read
the row with a plain SELECT and start their transaction later: the copy they
took waits in between, any other step can come first, and the transaction then
saves the copy whole.

A schedule is safe when every expiry still finds the ledger columns it read,
no transaction rolls back after it raised the reservation a session holds in
memory, and no `Settle` charge overflows.
-/

namespace HermesToken.Marketplace

open Lib MarketplaceFixedOrderBillingSession World

variable {F : Type} {commits : Bool} {w : World F}

/-- The world and the copies of order rows taken by expiries that have not
started their transaction. A used copy is `none`. -/
structure Schedule (F : Type) where
  world : World F
  copies : List (Option (MarketplaceFixedOrder F)) := []

/-- One step of a schedule. `commits` is whether the COMMIT succeeds. -/
inductive Act (F : Type) where
  | run (op : Op F) (commits : Bool)
  | readGetBuyer (settings : Settings F) (buyerUserID fixedOrderID now : Int)
  | readExpireDue (buyerUserID fixedOrderID now : Int)
  | expireTx (k : Nat) (now : Int) (commits : Bool)

namespace Schedule

variable [FloatOps F]

/-- The copy the `k`-th reader still holds. -/
def copy (c : Schedule F) (k : Nat) : Option (MarketplaceFixedOrder F) :=
  c.copies[k]?.join

def step (c : Schedule F) : Act F → Schedule F
  | .run op commits => { c with world := (c.world.apply commits op).1 }
  | .readGetBuyer settings buyerUserID fixedOrderID now =>
      { c with copies := c.copies ++ [getBuyerMarketplaceFixedOrderRead settings
          c.world.db buyerUserID fixedOrderID now] }
  | .readExpireDue buyerUserID fixedOrderID now =>
      { c with copies := c.copies ++ [expireDueBuyerMarketplaceFixedOrdersRead
          c.world.db buyerUserID fixedOrderID now] }
  | .expireTx k now commits =>
      { world := (c.world.expire commits (c.copy k) now).1
        copies := c.copies.set k none }

end Schedule

/-- Nothing that `settleRecord` checks stands in the way of the session. -/
structure Recordable (db : DB F) (s : MarketplaceFixedOrderBillingSession F) :
    Prop where
  request_fresh : ∀ f ∈ db.fills, f.requestID ≠ s.requestID
  request_named : trimSpace s.requestID ≠ ""
  seller_pos : 0 < s.sellerUserID
  seller_found : (db.users.get s.sellerUserID).isSome
  credential_found : (db.credentials.get s.credentialID).isSome

/-- The copy of an active order still shows its ledger columns. -/
def UpToDate (db : DB F) (copy : MarketplaceFixedOrder F) : Prop :=
  copy.status = .active →
    ∃ row ∈ db.orders.get copy.id, SameLedger row copy

instance (db : DB F) (s : MarketplaceFixedOrderBillingSession F) :
    Decidable (Recordable db s) :=
  decidable_of_iff ((∀ f ∈ db.fills, f.requestID ≠ s.requestID)
      ∧ trimSpace s.requestID ≠ "" ∧ 0 < s.sellerUserID
      ∧ (db.users.get s.sellerUserID).isSome
      ∧ (db.credentials.get s.credentialID).isSome)
    ⟨fun h => ⟨h.1, h.2.1, h.2.2.1, h.2.2.2.1, h.2.2.2.2⟩,
      fun h => ⟨h.1, h.2, h.3, h.4, h.5⟩⟩

instance (db : DB F) : Decidable (UpToDate db copy) :=
  inferInstanceAs (Decidable (_ → ∃ row ∈ db.orders.get copy.id, _))

def SafeStep [FloatOps F] (c : Schedule F) : Act F → Prop
  | .run (.settle i actual _ _) commits => ∀ s ∈ c.world.sessions[i]?, s.Open →
      ChargeFits actual s.platformFeeRateSnapshot ∧
      (commits = true ∧ Recordable c.world.db s
        ∨ s.buyerChargeForQuota actual ≤ s.preConsumedQuota)
  | .run (.reserve i target) commits => ∀ s ∈ c.world.sessions[i]?,
      commits = true ∨ s.buyerChargeForQuota target ≤ s.preConsumedQuota
  | .expireTx k _ _ => ∀ order ∈ c.copy k, UpToDate c.world.db order
  | _ => True

instance [FloatOps F] (c : Schedule F) :
    (act : Act F) → Decidable (SafeStep c act)
  | .run (.settle i actual _ _) commits => inferInstanceAs
      (Decidable (∀ s ∈ c.world.sessions[i]?, s.Open →
        ChargeFits actual s.platformFeeRateSnapshot ∧
        (commits = true ∧ Recordable c.world.db s
          ∨ s.buyerChargeForQuota actual ≤ s.preConsumedQuota)))
  | .run (.reserve i target) commits => inferInstanceAs
      (Decidable (∀ s ∈ c.world.sessions[i]?, commits = true
        ∨ s.buyerChargeForQuota target ≤ s.preConsumedQuota))
  | .expireTx k _ _ => inferInstanceAs
      (Decidable (∀ order ∈ c.copy k, UpToDate c.world.db order))
  | .run (.create ..) _ | .run (.prepare ..) _ | .run (.refund ..) _
  | .run (.detect ..) _ | .run (.probeRefund ..) _ | .run (.getBuyer ..) _
  | .run (.expireDue ..) _ | .run (.other ..) _ | .readGetBuyer ..
  | .readExpireDue .. => isTrue trivial

/-! ## A recordable session is recorded -/

section

variable {db db' : DB F} {s s' : MarketplaceFixedOrderBillingSession F}

theorem createReleased_succeeds (hsell : 0 < st.sellerUserID)
    (hreq : trimSpace st.requestID ≠ "") (hnn : 0 ≤ st.sellerIncome)
    (hmax : st.sellerIncome ≤ maxInt64)
    (hfound : (db.users.get st.sellerUserID).isSome) :
    ∃ db', createReleasedMarketplaceSettlementTx db st now = .ok db'
      ∧ db'.credentials = db.credentials := by
  unfold createReleasedMarketplaceSettlementTx
  split
  · exact ⟨db, rfl, rfl⟩
  simp only [require_seq_ok, gt_iff_lt, ge_iff_le, hsell, hreq, hnn,
    hmax, true_and, ne_eq, not_false_eq_true]
  split
  · exact ⟨db, rfl, rfl⟩
  split
  · exact ⟨_, rfl, rfl⟩
  refine ⟨_, require_seq_ok.mpr ⟨hfound, rfl⟩, ?_⟩
  unfold DB.addUserQuota
  split <;> rfl

/-- What an adjustment of the reservation leaves alone. -/
structure Adjusted (db db' : DB F)
    (s s' : MarketplaceFixedOrderBillingSession F) : Prop where
  session : s' = s.withQuota s'.preConsumedQuota
  fills : db'.fills = db.fills
  users : db'.users = db.users
  credentials : db'.credentials = db.credentials
  order_kept : (db.orders.get s.orderID).isSome →
    (db'.orders.get s.orderID).isSome

theorem Adjusted.saveOrder (order : MarketplaceFixedOrder F) (q : Int) :
    Adjusted db (db.saveOrder order) s (s.withQuota q) where
  session := rfl
  fills := rfl
  users := rfl
  credentials := rfl
  order_kept hsome := by
    show ((db.orders.save order).get s.orderID).isSome
    rw [Table.get_save]
    split
    · rfl
    · exact hsome

theorem Adjusted.refl : Adjusted db db s s := ⟨rfl, rfl, rfl, rfl, id⟩

theorem adjustTx_adjusted (h : s.adjustTx db delta = .ok (s', db')) : Adjusted db db' s s' := by
  unfold adjustTx at h
  split at h
  · rcases reserveDeltaTx_ok h with
      ⟨-, rfl, rfl⟩ | ⟨-, order, -, -, -, rfl, rfl⟩
    · exact Adjusted.refl
    · exact Adjusted.saveOrder _ _
  split at h
  · rcases releaseDeltaTx_ok h with
      ⟨-, rfl, rfl⟩ | ⟨-, order, -, rfl, rfl⟩
    · exact Adjusted.refl
    · exact Adjusted.saveOrder _ _
  · cases h
    exact Adjusted.refl

variable [FloatOps F]

theorem settleReserve_adjusted (h : s.settleReserve db actual = .ok (s', db')) :
    Adjusted db db' s s' ∧ (db'.orders.get s.orderID).isSome := by
  obtain ⟨order, hget, h⟩ := found_seq_ok.mp h
  obtain ⟨⟨s₁, tx⟩, hmove, h⟩ := seq_ok.mp h
  obtain ⟨hs, hf, hu, hc, hkept⟩ := adjustTx_adjusted hmove
  cases h
  refine ⟨⟨?_, hf, hu, hc, hkept⟩, hkept (by rw [hget]; rfl)⟩
  rw [hs]
  rfl

omit [FloatOps F] in
theorem Recordable.adjusted (hr : Recordable db s) (ha : Adjusted db db' s s') :
    Recordable db' s' := by
  obtain ⟨hs, hf, hu, hc, -⟩ := ha
  obtain ⟨q, rfl⟩ : ∃ q, s' = s.withQuota q := ⟨_, hs⟩
  refine ⟨?_, hr.request_named, hr.seller_pos, ?_, ?_⟩
  · rw [hf]
    exact hr.request_fresh
  · rw [hu]
    exact hr.seller_found
  · rw [hc]
    exact hr.credential_found

theorem Recordable.settleRecord (hr : Recordable db s)
    (hord : (db.orders.get s.orderID).isSome) (hnn : 0 ≤ s.preConsumedQuota)
    (hmax : s.preConsumedQuota ≤ maxInt64) (latencyMS now : Int) :
    ∃ tx, s.settleRecord db latencyMS now = .ok tx := by
  obtain ⟨order, hget⟩ := Option.isSome_iff_exists.mp hord
  obtain ⟨credential, hkey⟩ :=
    Option.isSome_iff_exists.mp hr.credential_found
  have hfee := feeFromBuyerCharge_bounds hnn s.platformFeeRateSnapshot
  have hfrs : ¬ db.fills.any (·.requestID = s.requestID) := by
    simpa using hr.request_fresh
  have hcre : ∀ fill : MarketplaceFixedOrderFill F,
      fill.buyerCharge = s.preConsumedQuota →
      ∃ tx, createReleasedMarketplaceSettlementTx
          { db with fills := db.fills ++ [fill] } (s.fillSettlement fill now) now
          = .ok tx ∧ tx.credentials = db.credentials := by
    intro fill hchg
    have hinc : (s.fillSettlement fill now).sellerIncome
        = s.preConsumedQuota - marketplacePlatformFeeFromBuyerCharge
            s.preConsumedQuota s.platformFeeRateSnapshot := by
      show fill.buyerCharge - _ = _
      rw [hchg]
    exact createReleased_succeeds hr.seller_pos
      hr.request_named (by omega) (by omega) hr.seller_found
  unfold MarketplaceFixedOrderBillingSession.settleRecord
  simp only [found_seq_ok, require_seq_ok, hget, Option.some.injEq, exists_eq_left']
  obtain ⟨tx, htx, hcred⟩ := hcre
    (s.fill (db.fills.length + 1) (if latencyMS < 0 then 0 else latencyMS)) rfl
  suffices hsave : ∀ db₂ : DB F, db₂.credentials = db.credentials →
      ∀ stats, ∃ out, saveCapacity db₂ s.credentialID stats = .ok out by
    by_cases hexh : order.remainingQuota = 0 ∧ order.status = .active
    · simp only [if_pos hexh]
      obtain ⟨out, hout⟩ := hsave (tx.saveOrder { order with status := .exhausted }) hcred _
      exact ⟨out, hfrs, seq_ok.mpr ⟨tx, htx, hout⟩⟩
    · simp only [if_neg hexh]
      obtain ⟨out, hout⟩ := hsave tx hcred _
      exact ⟨out, hfrs, seq_ok.mpr ⟨tx, htx, hout⟩⟩
  intro db₂ hcred₂ stats
  refine ⟨_, found_seq_ok.mpr ⟨credential, ?_, rfl⟩⟩
  show db₂.credentials.get s.credentialID = some credential
  rw [hcred₂, hkey]

end

/-! ## Safe schedules do not over-distribute -/

def World.Pays (w : World F) : Prop := Payout w.db.books

/-- The invariant of a schedule. -/
structure Sound (w : World F) : Prop where
  ledger : w.Keeps (0 ≤ ·)
  payout : w.Pays

theorem World.Fresh.sound (h : w.Fresh) : Sound w := by
  have hnone : ∀ {o order}, w.db.books.orders.get o ≠ some order := by
    intro o order hget
    have := h.orders o
    change w.db.books.orders.get o = none at this
    rw [this] at hget
    cases hget
  refine ⟨h.keeps _, ?_, fun hget => absurd hget hnone, fun hget => absurd hget hnone, ?_, ?_, ?_⟩
  · intro o
    have hpool : w.db.books.filledTotal o = 0 := by
      refine keyedSum_eq_zero fun st hst => ?_
      rw [filledOrder, h.settlements st hst]
      simp
    have hfills : fillTotal w.db.books o = 0 := by
      show keyedSum _ _ _ w.db.fills = 0
      rw [h.fills]
      rfl
    rw [hpool, hfills]
  · intro st hst hfill
    rw [h.settlements st hst] at hfill
    cases hfill
  · intro st hst hfin
    rw [h.settlements st hst] at hfin
    cases hfin
  intro r hr
  have hnil : w.db.books.refunds = [] := h.refunds
  rw [hnil] at hr
  cases hr

section

variable [FloatOps F]

/-- The charge `settleReserve` leaves in the session is a 64-bit quota. -/
theorem Sound.charge_range (h : Sound w) {i : Nat} (hs : w.sessions[i]? = some s) (hopen : s.Open)
    (hfit : ChargeFits actual s.platformFeeRateSnapshot)
    (hresv : s.settleReserve w.db actual = .ok (s₁, tx)) :
    0 ≤ s₁.preConsumedQuota ∧ s₁.preConsumedQuota ≤ maxInt64 := by
  have hnn : ∀ x : Int, 0 ≤ x → 0 ≤ x := fun _ hx => hx
  obtain ⟨charge, rfl, hchg, -, hledger⟩ :=
    Ledger.settleReserve hnn h.ledger hs hopen hfit hresv
  obtain ⟨-, hord⟩ := settleReserve_adjusted hresv
  obtain ⟨order, hget⟩ := Option.isSome_iff_exists.mp hord
  have hi : (w.sessions.set i (s.withQuota charge))[i]?
      = some (s.withQuota charge) := by
    simp [List.getElem?_set_self (List.getElem?_eq_some_iff.mp hs).1]
  have hheld := hledger.held_le hnn hi hget
  rw [s.held_withQuota hopen] at hheld
  have ⟨_, _, _, _, _, _⟩ := hledger.balanced hget
  exact ⟨hchg, by show charge ≤ _; omega⟩

theorem Sound.admits {c : Schedule F} (h : Sound c.world) {op : Op F}
    (hsafe : SafeStep c (.run op commits)) : Admits (0 ≤ ·) commits c.world op := by
  cases op with
  | settle _ _ latencyMS now =>
      intro s hs
      refine ⟨fun hopen => (hsafe s hs hopen).1, ?_⟩
      intro _ hopen s₁ tx hresv hroll
      refine ⟨fun x y hx hxy => le_trans hx hxy, ?_⟩
      obtain ⟨hfit, ⟨hcom, hrec⟩ | hle⟩ := hsafe s hs hopen
      · -- a recordable session is recorded, so this does not roll back
        obtain ⟨hnn, hmax⟩ := h.charge_range hs hopen hfit hresv
        obtain ⟨hadj, hord⟩ := settleReserve_adjusted hresv
        obtain ⟨e, herr⟩ := hroll hcom
        have hid : s₁.orderID = s.orderID := by
          rw [hadj.session]
          rfl
        obtain ⟨out, hout⟩ := (hrec.adjusted hadj).settleRecord (hid ▸ hord) hnn hmax latencyMS now
        rw [hout] at herr
        cases herr
      · exact hle
  | refund => exact fun s hs _ x y hx hxy => le_trans hx hxy
  | reserve => exact hsafe
  | _ => trivial

theorem Sound.expire (h : Sound w)
    (hcopy : ∀ order ∈ copy, UpToDate w.db order) : Sound (w.expire commits copy now).1 := by
  cases copy with
  | none => exact h
  | some order =>
  have hfrs := hcopy order rfl
  refine commit_rule h fun db hok => ?_
  rcases expireFixedOrder_books hok with
    ⟨-, rfl⟩ | ⟨hact, l, hbks, hgrows⟩
  · exact h
  obtain ⟨row, hget, hsame⟩ := hfrs hact
  refine ⟨Ledger.expireTx h.ledger hget hsame hok, ?_⟩
  show Payout db.books
  rw [hbks]
  exact Payout.expireRow h.payout hget hsame (h.ledger.balanced hget)
    (h.ledger.order_lt hget) hgrows

omit [FloatOps F] in
theorem UpToDate.of_get {db : DB F} {order : MarketplaceFixedOrder F}
    (h : db.orders.get order.id = some order) : UpToDate db order :=
  fun _ => ⟨order, h, SameLedger.refl order⟩

theorem Sound.payout_apply {c : Schedule F} (h : Sound c.world) {op : Op F}
    (hsafe : SafeStep c (.run op commits)) : (c.world.apply commits op).1.Pays := by
  cases op with
  | create =>
      refine commit_rule h.payout fun db hok => ?_
      obtain ⟨order, hid, -, -, -, -, hexp, href, -, hbks⟩ :=
        createFixedOrder_books hok
      show Payout db.books
      rw [hbks]
      exact Payout.addOrder h.payout hid hexp href
  | prepare =>
      refine openSession_rule h.payout fun s db hok => ?_
      obtain ⟨order, credential, delta, -, -, -, -, hresv⟩ := prepareFixed_ok hok
      refine Payout.reserveDeltaTx ?_ hresv
      exact h.payout
  | reserve =>
      exact call_rule h.payout fun s hs => Payout.reserve h.payout
  | settle =>
      refine call_rule h.payout fun s hs => Payout.settle h.payout ?_
      intro hopen s₁ tx hresv
      exact (h.charge_range hs hopen (hsafe s hs hopen).1 hresv).1
  | refund =>
      exact call_rule h.payout fun s hs => Payout.refund h.payout
  | detect o completion now =>
      refine commit_rule h.payout fun db hok => ?_
      cases hok
      rcases recordRefundProbe_books c.world.db o completion now with hsame | ⟨order, hget, hbks⟩
      · show Payout (recordMarketplaceFixedOrderRefundProbeCompletion _ _ _ _).books
        rw [hsame]
        exact h.payout
      · show Payout (recordMarketplaceFixedOrderRefundProbeCompletion _ _ _ _).books
        rw [hbks]
        exact Payout.saveRow h.payout hget rfl rfl rfl
  | probeRefund _ _ completion now =>
      refine commit_rule h.payout fun db hok => ?_
      obtain ⟨order, hget, hbks⟩ :=
        refundRemaining_books hok
      show Payout db.books
      rw [hbks]
      exact Payout.refundRow h.payout hget (h.ledger.balanced hget)
        (h.ledger.order_lt hget) completion now
  | getBuyer =>
      exact (h.expire fun _ hread =>
        .of_get (getOrderRead_get hread)).payout
  | expireDue =>
      exact (h.expire fun _ hread =>
        .of_get (expireDueRead_get hread)).payout
  | other =>
      exact Payout.addPool h.payout fun st hst => by
        simpa using (List.mem_filter.mp hst).2

theorem Sound.step {c : Schedule F} (h : Sound c.world)
    (hsafe : SafeStep c act) : Sound (c.step act).world := by
  cases act with
  | run =>
      have hnn : ∀ x : Int, 0 ≤ x → 0 ≤ x := fun _ hx => hx
      exact ⟨Keeps.apply hnn (le_refl 0) h.ledger (h.admits hsafe), h.payout_apply hsafe⟩
  | readGetBuyer | readExpireDue => exact h
  | expireTx => exact h.expire hsafe

/-- **No over-distribution.** After every schedule of safe steps, what was
settled for an order and what was refunded to its buyer is no more than what
was purchased. -/
theorem fixedOrder_payout_le {w : World F} (hw : w.Fresh) {acts : List (Act F)}
    (hacts : Along Schedule.step SafeStep ⟨w, []⟩ acts) {o : Int} {order : MarketplaceFixedOrder F}
    (hget : (exec Schedule.step ⟨w, []⟩ acts).world.db.orders.get o = some order) :
    (exec Schedule.step ⟨w, []⟩ acts).world.db.books.settledTotal o
        + (exec Schedule.step ⟨w, []⟩ acts).world.db.books.refundTotal o
      ≤ order.purchasedQuota := by
  have hsound : Sound (exec Schedule.step ⟨w, []⟩ acts).world :=
    hacts.invariant (fun c => Sound c.world) (fun _ _ h hsafe => h.step hsafe) hw.sound
  generalize (exec Schedule.step ⟨w, []⟩ acts).world = w' at hget hsound ⊢
  have hid : order.id = o := w'.db.orders.key_get hget
  have hslack : 0 ≤ slack w'.db.books w'.sessions order :=
    hsound.ledger.slack_mem hget
  have hheld : 0 ≤ heldTotal w'.sessions o :=
    keyedSum_nonneg fun s hs _ => hsound.ledger.held_nonneg s hs
  have hfilled := hsound.payout.filled_le o
  have hclosed := hsound.payout.closed_le hget
  have hrefund := hsound.payout.refund_le hget
  have ⟨_, _, _, _, _, _⟩ := hsound.ledger.balanced hget
  rw [Books.settledTotal_eq]
  unfold slack at hslack
  rw [hid] at hslack
  omega

end

/-! ### Two schedules of the sample market -/

/-- The total settled and refunded for order 1, and what was purchased. -/
def payoutAfter (acts : List (Act ℚ)) : Option (Int × Int) :=
  let w := (exec Schedule.step ⟨sampleWorld, []⟩ acts).world
  (w.db.orders.get 1).map fun order =>
    (w.db.books.settledTotal 1 + w.db.books.refundTotal 1, order.purchasedQuota)

/-- The purchase of the sample market, a settlement of 25, and the expiry that
reads the row before or after it. -/
def expireAround (readFirst : Bool) : List (Act ℚ) :=
  let read : List (Act ℚ) := [.readGetBuyer sampleSettings 3 1 120]
  let settle : List (Act ℚ) := [.run (.settle 0 25 5 121) true]
  samplePurchase.map (.run · true)
    ++ (if readFirst then read ++ settle else settle ++ read)
    ++ [.expireTx 0 122 true]

/-- Read after the settlement, the expiry pays the other half. -/
theorem fixedOrder_payout_le_sample :
    payoutAfter (expireAround false) = some (100, 100)
      ∧ ∀ order, (exec Schedule.step ⟨sampleWorld, []⟩
            (expireAround false)).world.db.orders.get 1 = some order →
          (exec Schedule.step ⟨sampleWorld, []⟩
              (expireAround false)).world.db.books.settledTotal 1
            + (exec Schedule.step ⟨sampleWorld, []⟩
              (expireAround false)).world.db.books.refundTotal 1
          ≤ order.purchasedQuota :=
  ⟨by decide +kernel, fun _ hget =>
    fixedOrder_payout_le sampleWorld_fresh (by decide +kernel) hget⟩

/-- **The lost update.** Read before the settlement, the expiry pays the whole
order a second time: 150 is settled for an order of 100. -/
theorem fixedOrder_overpaid : payoutAfter (expireAround true) = some (150, 100) := by decide +kernel

end HermesToken.Marketplace
