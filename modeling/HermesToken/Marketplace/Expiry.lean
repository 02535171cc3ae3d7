import HermesToken.Marketplace.Slots

/-!
# The expiry of fixed orders

An order that is due is expired where it is read. `GetBuyerMarketplaceFixedOrder`
and `expireDueBuyerMarketplaceFixedOrders` give each expiry a transaction of its
own. `PrepareMarketplaceFixedOrderRelay` expires the order in the transaction of
the request and then fails it, so nothing of that expiry is left.
-/

namespace HermesToken.Marketplace

open Lib List

variable {F : Type} [FloatOps F] {db : DB F} {order : MarketplaceFixedOrder F}
  {orders : List (MarketplaceFixedOrder F)} {now : Int}

/-- The loop of `expireDueBuyerMarketplaceFixedOrders` over the rows it has found: a
transaction for each, up to one that fails. -/
def expireDueBuyerMarketplaceFixedOrders (db : DB F) (now : Int) :
    List (MarketplaceFixedOrder F) → DB F × Except String Unit
  | [] => (db, .ok ())
  | order :: orders =>
    match expireMarketplaceFixedOrderTx db order now with
    | .error e => (db, .error e)
    | .ok db => expireDueBuyerMarketplaceFixedOrders db now orders

omit [FloatOps F] in
/-- The rows its SELECT finds, in any order. -/
structure DueRows (db : DB F) (buyerUserID now : Int)
    (orders : List (MarketplaceFixedOrder F)) : Prop where
  distinct : (orders.map (·.id)).Nodup
  mem_iff : ∀ order, order ∈ orders ↔
    expireDueBuyerMarketplaceFixedOrdersRead db buyerUserID order.id now = some order

/-- The active orders on a credential, as its stats count them. -/
def DB.activeFixedOrders (db : DB F) (credentialID : Int) : Int :=
  (getOrCreateMarketplaceCredentialStatsForUpdate db credentialID).activeFixedOrderCount

/-- The rows that pay for what the orders have left. -/
def finalSettlements (now : Int) (orders : List (MarketplaceFixedOrder F)) :
    List (MarketplaceSettlement F) :=
  (orders.filter fun order => 0 < order.expiredQuota + order.remainingQuota).map fun order =>
    (marketplaceFixedOrderFinalSettlement (expiredRow order) now).released now

structure Expired (now : Int) (orders : List (MarketplaceFixedOrder F)) (db db' : DB F) : Prop where
  rows : ∀ order ∈ orders, db'.orders.get order.id = some { order with
    expiredQuota := order.expiredQuota + order.remainingQuota
    remainingQuota := 0
    status := .expired }
  others : ∀ id, (∀ order ∈ orders, order.id ≠ id) → db'.orders.get id = db.orders.get id
  settled : db'.settlements = db.settlements ++ finalSettlements now orders
  credited : ∀ userID, db'.payroll.balance userID = (db.payroll.balance userID).map
    (· + keyedSum (·.sellerUserID) (·.sellerIncome) userID (finalSettlements now orders))
  closed : ∀ credentialID, db'.activeFixedOrders credentialID =
    db.activeFixedOrders credentialID - orders.countP (·.credentialID = credentialID)

/-- The order can be expired: its quota fits, and the settlement of what it has left
passes the checks of the insert. -/
structure Expirable (now : Int) (db : DB F) (order : MarketplaceFixedOrder F) : Prop where
  id : 0 < order.id
  active : order.status = .active
  range : InInt64 (order.expiredQuota + order.remainingQuota)
  payable : 0 < order.expiredQuota + order.remainingQuota →
    Payable db (marketplaceFixedOrderFinalSettlement (expiredRow order) now)

omit [FloatOps F] in
theorem DB.activeFixedOrders_close (db : DB F) (k c : Int) :
    (db.saveStats (closeActiveFixedOrder (getOrCreateMarketplaceCredentialStatsForUpdate db
      k))).activeFixedOrders c =
      db.activeFixedOrders c - if k = c ∧ 0 < db.activeFixedOrders k then 1 else 0 := by
  have hkey : (closeActiveFixedOrder (getOrCreateMarketplaceCredentialStatsForUpdate db
      k)).credentialID = k :=
    (closeActive_concurrency _).1.trans (getOrCreate_credentialID db k)
  unfold activeFixedOrders getOrCreateMarketplaceCredentialStatsForUpdate saveStats
  dsimp only
  rw [Table.get_save, ← getOrCreateMarketplaceCredentialStatsForUpdate, hkey]
  by_cases hk : k = c
  · subst hk
    rw [if_pos rfl, closeActiveFixedOrder]
    unfold getOrCreateMarketplaceCredentialStatsForUpdate
    split
    · rename_i hpos
      rw [if_pos ⟨rfl, hpos⟩]
      rfl
    · rename_i hnone
      rw [if_neg fun h => hnone h.2, sub_zero]
      rfl
  · simp [hk]

omit [FloatOps F] in
theorem DB.activeFixedOrders_congr {db' : DB F} (h : db'.stats = db.stats) :
    db'.activeFixedOrders = db.activeFixedOrders := by
  funext c
  simp only [activeFixedOrders, getOrCreateMarketplaceCredentialStatsForUpdate, h]

theorem Expirable.expires (h : Expirable now db order)
    (hcnt : 0 < db.activeFixedOrders order.credentialID) :
    ∃ db', expireMarketplaceFixedOrderTx db order now = .ok db' ∧ Expired now [order] db db' := by
  have hsum : (expiredRow order).expiredQuota = order.expiredQuota + order.remainingQuota :=
    add64_eq h.range
  -- the settlement of what is left
  obtain ⟨tx, htx, hbks, hstats, hcred⟩ : ∃ tx,
      settleMarketplaceFixedOrderFinalTx db (expiredRow order) now = .ok tx ∧
      tx.books = { db.books with settlements := db.settlements ++ finalSettlements now [order] } ∧
      tx.stats = db.stats ∧ ∀ userID, tx.payroll.balance userID = (db.payroll.balance userID).map
        (· + keyedSum (·.sellerUserID) (·.sellerIncome) userID (finalSettlements now [order])) := by
    unfold settleMarketplaceFixedOrderFinalTx finalSettlements
    rw [hsum]
    by_cases hleft : 0 < order.expiredQuota + order.remainingQuota
    · have hpay := h.payable hleft
      have hrun := hpay.inserted now
      rw [if_neg (by rintro (hid | _); exacts [absurd h.id (not_lt.mpr hid), by omega]),
        filter_cons_of_pos (by simpa using hleft)]
      refine ⟨_, hrun, ?_, createReleased_stats hrun, fun userID => ?_⟩
      · exact DB.paySettlement_books ..
      · rw [hpay.balance]
        simp [MarketplaceSettlement.released]
    · rw [if_pos (.inr (not_lt.mp hleft)), filter_cons_of_neg (by simpa using hleft)]
      exact ⟨db, rfl, by simp [DB.books], rfl, by simp⟩
  have hords : tx.orders = db.orders := congrArg Books.orders hbks
  have hact : (tx.saveOrder (expiredRow order)).activeFixedOrders = db.activeFixedOrders :=
    DB.activeFixedOrders_congr hstats
  unfold expireMarketplaceFixedOrderTx
  rw [if_neg (not_not.mpr h.active)]
  dsimp only
  rw [htx]
  refine ⟨_, rfl, ?_, ?_, congrArg Books.settlements hbks, hcred, fun c => ?_⟩
  · rintro _ (_ | ⟨_, ⟨⟩⟩)
    refine (Table.get_save_self _ (expiredRow order) rfl).trans ?_
    rw [expiredRow, add64_eq h.range]
  · intro id hid
    refine (Table.get_save_ne _ (expiredRow order) (hid order mem_cons_self)).trans ?_
    exact congrArg (·.get id) hords
  rw [DB.activeFixedOrders_close, hact]
  simp [countP_cons, show (expiredRow order).credentialID = order.credentialID from rfl, hcnt]

/-- What one expiry can do: lower a positive count, and settle what is left when it
passes the checks. -/
theorem expireFixedOrder_effects (hact : order.status = .active) (hid : 0 < order.id)
    (hrange : InInt64 (order.expiredQuota + order.remainingQuota))
    (h : expireMarketplaceFixedOrderTx db order now = .ok db₁) :
    (∀ c, db₁.activeFixedOrders c = db.activeFixedOrders c -
      if order.credentialID = c ∧ 0 < db.activeFixedOrders order.credentialID then 1 else 0) ∧
    (∀ u, (db₁.users.get u).isSome = (db.users.get u).isSome) ∧
    ∃ l, db₁.settlements = db.settlements ++ l ∧
      l.length ≤ (finalSettlements now [order]).length ∧
      (l.length = (finalSettlements now [order]).length → Expirable now db order) := by
  have hsum : (expiredRow order).expiredQuota = order.expiredQuota + order.remainingQuota :=
    add64_eq hrange
  obtain ⟨tx, htx, rfl⟩ : ∃ tx, settleMarketplaceFixedOrderFinalTx db (expiredRow order) now =
      .ok tx ∧ (tx.saveOrder (expiredRow order)).saveStats (closeActiveFixedOrder
        (getOrCreateMarketplaceCredentialStatsForUpdate (tx.saveOrder (expiredRow order))
          order.credentialID)) = db₁ := by
    unfold expireMarketplaceFixedOrderTx at h
    rw [if_neg (not_not.mpr hact)] at h
    obtain ⟨tx, htx, h⟩ := seq_ok.mp h
    exact ⟨tx, htx, Except.ok.inj h⟩
  obtain ⟨hstats, husers, l, hl⟩ : tx.stats = db.stats ∧
      (∀ u, (tx.users.get u).isSome = (db.users.get u).isSome) ∧
      ∃ l, tx.settlements = db.settlements ++ l ∧
        l.length ≤ (finalSettlements now [order]).length ∧
        (l.length = (finalSettlements now [order]).length → Expirable now db order) := by
    unfold settleMarketplaceFixedOrderFinalTx at htx
    unfold finalSettlements
    by_cases hleft : 0 < order.expiredQuota + order.remainingQuota
    · rw [if_neg (by rintro (h | h); exacts [absurd hid (not_lt.mpr h), by omega])] at htx
      rw [filter_cons_of_pos (by simpa using hleft)]
      refine ⟨createReleased_stats htx, ?_⟩
      rcases createReleased_ok htx with rfl | ⟨hpay, rfl⟩
      · exact ⟨fun _ => rfl, [], (append_nil _).symm, by simp, by simp⟩
      · refine ⟨fun u => ?_, _, congrArg Books.settlements (DB.paySettlement_books ..), le_rfl,
          fun _ => ⟨hid, hact, hrange, fun _ => hpay⟩⟩
        have hbal := congrArg Option.isSome (hpay.balance now u)
        simpa [DB.payroll] using hbal
    · rw [if_pos (.inr (by omega))] at htx
      rw [filter_cons_of_neg (by simpa using hleft)]
      cases htx
      exact ⟨rfl, fun _ => rfl, [], (append_nil _).symm, le_rfl,
        fun _ => ⟨hid, hact, hrange, fun h => absurd h hleft⟩⟩
  refine ⟨fun c => ?_, husers, l, hl⟩
  have hactive : (tx.saveOrder (expiredRow order)).activeFixedOrders = db.activeFixedOrders :=
    DB.activeFixedOrders_congr hstats
  rw [DB.activeFixedOrders_close, hactive]

omit [FloatOps F] in
theorem finalSettlementRequestID_injOn (ha : 0 < a) (hb : 0 < b)
    (h : marketplaceFixedOrderFinalSettlementRequestID a =
      marketplaceFixedOrderFinalSettlementRequestID b) : a = b := by
  obtain ⟨m, rfl⟩ := Int.eq_ofNat_of_zero_le ha.le
  obtain ⟨n, rfl⟩ := Int.eq_ofNat_of_zero_le hb.le
  have hrepr : Nat.repr m = Nat.repr n := String.append_right_inj _ |>.mp h
  have hdig : Nat.toDigits 10 m = Nat.toDigits 10 n := String.ofList_injective hrepr
  rw [← Nat.ofDigitChars_ten_toDigits (n := m), hdig, Nat.ofDigitChars_ten_toDigits]

theorem Expirable.after (h : Expirable now db other)
    (hexp : Expired now [order] db db₁) (hid : 0 < order.id) (hne : order.id ≠ other.id) :
    Expirable now db₁ other := by
  refine ⟨h.id, h.active, h.range, fun hleft => ?_⟩
  have hpay := h.payable hleft
  refine { hpay with fresh := fun st hst => ?_, found := fun hinc => ?_ }
  · rw [hexp.settled] at hst
    rcases mem_append.mp hst with hst | hst
    · exact hpay.fresh st hst
    obtain ⟨order', hord', rfl⟩ := mem_map.mp hst
    obtain rfl := mem_singleton.mp (mem_of_mem_filter hord')
    exact fun heq => hne (finalSettlementRequestID_injOn hid h.id heq)
  have hbal := congrArg Option.isSome (hexp.credited (marketplaceFixedOrderFinalSettlement
    (expiredRow other) now).sellerUserID)
  simp only [DB.payroll, Option.isSome_map] at hbal
  rw [hbal]
  exact hpay.found hinc

theorem Expired.cons (hfst : Expired now [order] db db₁) (hrest : Expired now orders db₁ db₂)
    (hne : ∀ other ∈ orders, other.id ≠ order.id) : Expired now (order :: orders) db db₂ := by
  have hfin : finalSettlements now (order :: orders) =
      finalSettlements now [order] ++ finalSettlements now orders := by
    unfold finalSettlements
    rw [← map_append, ← filter_append]
    rfl
  refine ⟨?_, fun id hid => ?_, ?_, fun u => ?_, fun c => ?_⟩
  · rintro other (_ | ⟨_, hother⟩)
    · rw [hrest.others _ hne]
      exact hfst.rows _ mem_cons_self
    · exact hrest.rows other hother
  · rw [hrest.others id fun other hother => hid other (mem_cons_of_mem _ hother)]
    exact hfst.others id (by simpa using hid order mem_cons_self)
  · rw [hrest.settled, hfst.settled, hfin, append_assoc]
  · rw [hrest.credited, hfst.credited, hfin]
    simp [Function.comp_def, add_assoc]
  rw [hrest.closed, hfst.closed,
    show order :: orders = [order] ++ orders from rfl, countP_append]
  omega

/-- The stats count at least these orders on each of their credentials. -/
def Counted (db : DB F) (orders : List (MarketplaceFixedOrder F)) : Prop :=
  ∀ order ∈ orders, (orders.countP (·.credentialID = order.credentialID) : Int) ≤
    db.activeFixedOrders order.credentialID

/-- **The loop** expires all of its rows. -/
theorem expireDue_expired (hdist : (orders.map (·.id)).Nodup)
    (hok : ∀ order ∈ orders, Expirable now db order) (hcounted : Counted db orders) :
    ∃ db', expireDueBuyerMarketplaceFixedOrders db now orders = (db', .ok ()) ∧
      Expired now orders db db' := by
  induction orders generalizing db with
  | nil =>
    exact ⟨db, rfl, by simp, fun _ _ => rfl, (append_nil _).symm, by simp [finalSettlements],
      by simp⟩
  | cons order orders ih =>
  obtain ⟨hnotin, hdist⟩ := nodup_cons.mp hdist
  have hne : ∀ other ∈ orders, other.id ≠ order.id :=
    fun other hother heq => hnotin (mem_map.mpr ⟨other, hother, heq⟩)
  have hcnt : 0 < db.activeFixedOrders order.credentialID := by
    have := hcounted order mem_cons_self
    rw [countP_cons_of_pos (by simp)] at this
    omega
  obtain ⟨db₁, hrun, hfst⟩ := (hok order mem_cons_self).expires hcnt
  obtain ⟨db₂, hloop, hrest⟩ := ih hdist
    (fun other hother => (hok other (mem_cons_of_mem _ hother)).after hfst
      (hok order mem_cons_self).id (hne other hother).symm)
    fun other hother => by
      have := hcounted other (mem_cons_of_mem _ hother)
      rw [← singleton_append, countP_append] at this
      rw [hfst.closed]
      omega
  refine ⟨db₂, ?_, hfst.cons hrest hne⟩
  rw [expireDueBuyerMarketplaceFixedOrders, hrun]
  exact hloop

/-- The loop settles each of its rows at most once and lowers the counts at most by
them; where it does so for all, they were expirable and counted. -/
theorem expireDue_effects (hok : ∀ order ∈ orders, order.status = .active ∧ 0 < order.id ∧
      InInt64 (order.expiredQuota + order.remainingQuota))
    (h : expireDueBuyerMarketplaceFixedOrders db now orders = (db', .ok ())) :
    db'.settlements.length ≤ db.settlements.length + (finalSettlements now orders).length ∧
    (∀ c, db.activeFixedOrders c - orders.countP (·.credentialID = c) ≤ db'.activeFixedOrders c) ∧
    (db'.settlements.length = db.settlements.length + (finalSettlements now orders).length →
      (∀ c, db'.activeFixedOrders c =
        db.activeFixedOrders c - orders.countP (·.credentialID = c)) →
      (∀ order ∈ orders, Expirable now db order) ∧ Counted db orders) := by
  induction orders generalizing db with
  | nil =>
    cases h
    exact ⟨Nat.le_add_right .., fun c => by simp,
      fun _ _ => ⟨fun _ h => absurd h not_mem_nil, fun _ h => absurd h not_mem_nil⟩⟩
  | cons order orders ih =>
  obtain ⟨⟨hact, hid, hrange⟩, hok⟩ := forall_mem_cons.mp hok
  rw [expireDueBuyerMarketplaceFixedOrders] at h
  split at h
  · cases h
  rename_i db₁ hrun
  obtain ⟨hclosed, husers, l, hl, hle, hexp⟩ := expireFixedOrder_effects hact hid hrange hrun
  obtain ⟨hlen, hcounts, hall⟩ := ih hok h
  have hfin : (finalSettlements now (order :: orders)).length =
      (finalSettlements now [order]).length + (finalSettlements now orders).length := by
    unfold finalSettlements
    rw [← length_append, ← map_append, ← filter_append]
    rfl
  have hcount (c : Int) : ((order :: orders).countP (·.credentialID = c) : Int) =
      (if order.credentialID = c then 1 else 0) + orders.countP (·.credentialID = c) := by
    rw [countP_cons]
    by_cases hc : order.credentialID = c <;> simp [hc, add_comm]
  rw [hl, length_append] at hlen hall
  refine ⟨by omega, fun c => ?_, fun hsettled hlowered => ?_⟩
  · have := hcounts c
    rw [hclosed] at this
    rw [hcount]
    split_ifs at this ⊢ <;> omega
  -- none of the parts fell short
  have hlow : ∀ c, db₁.activeFixedOrders c = db.activeFixedOrders c -
      if order.credentialID = c then 1 else 0 := by
    intro c
    have h₁ := hcounts c
    have h₂ := hlowered c
    rw [hclosed] at h₁ ⊢
    rw [hcount] at h₂
    split_ifs at h₁ h₂ ⊢ <;> omega
  obtain ⟨hrest, hcounted⟩ := hall (by omega) fun c => by
    rw [hlowered, hcount, hlow]
    omega
  have hfirst : Expirable now db order := hexp (by omega)
  refine ⟨forall_mem_cons.mpr ⟨hfirst, fun other hother => ?_⟩, ?_⟩
  · -- the checks of the insert were met before the first expiry too
    obtain ⟨hid', hact', hrange', hpay⟩ := hrest other hother
    refine ⟨hid', hact', hrange', fun hleft => { hpay hleft with
      fresh := fun st hst => (hpay hleft).fresh st (hl ▸ mem_append_left l hst)
      found := fun hinc => husers _ ▸ (hpay hleft).found hinc }⟩
  have hpos : 0 < db.activeFixedOrders order.credentialID := by
    by_contra hnone
    have h₁ := hclosed order.credentialID
    rw [hlow, if_pos rfl, if_neg fun h => hnone h.2] at h₁
    omega
  have hcounted' (c : Int) (hc : c ∈ (order :: orders).map (·.credentialID)) :
      ((order :: orders).countP (·.credentialID = c) : Int) ≤ db.activeFixedOrders c := by
    have hlow := hlow c
    rw [hcount]
    by_cases hmem : c ∈ orders.map (·.credentialID)
    · obtain ⟨other, hother, rfl⟩ := mem_map.mp hmem
      have := hcounted other hother
      omega
    · have hzero : orders.countP (·.credentialID = c) = 0 :=
        countP_eq_zero.mpr fun other hother => by
          simpa using fun heq => hmem (mem_map.mpr ⟨other, hother, heq⟩)
      obtain rfl : c = order.credentialID := (mem_cons.mp hc).resolve_right hmem
      rw [hzero, if_pos rfl]
      omega
  exact fun other hother => hcounted' _ (mem_map_of_mem hother)

/-- The rows that the loop has written. -/
theorem expireDue_rows (hdist : (orders.map (·.id)).Nodup)
    (hact : ∀ order ∈ orders, order.status = .active)
    (h : expireDueBuyerMarketplaceFixedOrders db now orders = (db', .ok ())) :
    (∀ order ∈ orders, db'.orders.get order.id = some (expiredRow order)) ∧
      ∀ id, id ∉ orders.map (·.id) → db'.orders.get id = db.orders.get id := by
  induction orders generalizing db with
  | nil =>
    cases h
    exact ⟨fun _ h => absurd h not_mem_nil, fun _ _ => rfl⟩
  | cons order orders ih =>
  obtain ⟨hnotin, hdist⟩ := nodup_cons.mp hdist
  obtain ⟨hfirst, hact⟩ := forall_mem_cons.mp hact
  rw [expireDueBuyerMarketplaceFixedOrders] at h
  split at h
  · cases h
  rename_i db₁ hrun
  obtain ⟨hrest, hothers⟩ := ih hdist hact h
  obtain ⟨-, l, hbooks, -⟩ := (expireFixedOrder_books hrun).resolve_left fun hne => hne.1 hfirst
  have horders : db₁.orders = db.orders.save (expiredRow order) := congrArg Books.orders hbooks
  refine ⟨forall_mem_cons.mpr ⟨?_, hrest⟩, fun id hid => ?_⟩
  · rw [hothers _ hnotin, horders]
    exact Table.get_save_self _ (expiredRow order) rfl
  · obtain ⟨hne, hid⟩ := not_or.mp (mem_cons.not.mp hid)
    rw [hothers id hid, horders]
    exact Table.get_save_ne _ (expiredRow order) fun heq => hne heq.symm

/-- **The loop takes effect** exactly when each row can be expired and is counted. -/
theorem expireDue_iff (hdist : (orders.map (·.id)).Nodup)
    (hok : ∀ order ∈ orders, order.status = .active ∧ 0 < order.id) :
    (∃ db', expireDueBuyerMarketplaceFixedOrders db now orders = (db', .ok ()) ∧
        Expired now orders db db') ↔
      (∀ order ∈ orders, Expirable now db order) ∧ Counted db orders := by
  refine ⟨?_, fun ⟨hexpirable, hcounted⟩ => expireDue_expired hdist hexpirable hcounted⟩
  rintro ⟨db', hloop, hexp⟩
  obtain ⟨hrows, -⟩ := expireDue_rows hdist (fun order hmem => (hok order hmem).1) hloop
  have hrange : ∀ order ∈ orders, order.status = .active ∧ 0 < order.id ∧
      InInt64 (order.expiredQuota + order.remainingQuota) := by
    intro order hmem
    have hrow := Option.some.inj ((hexp.rows order hmem).symm.trans (hrows order hmem))
    have hsum := congrArg MarketplaceFixedOrder.expiredQuota hrow
    refine ⟨(hok order hmem).1, (hok order hmem).2, ?_⟩
    rw [show order.expiredQuota + order.remainingQuota = _ from hsum]
    exact inInt64_wrap64 _
  refine (expireDue_effects hrange hloop).2.2 ?_ hexp.closed
  rw [hexp.settled, length_append]

/-- **An expiry that is observed takes effect**, with its final settlement, for
`GetBuyerMarketplaceFixedOrder` exactly when the marketplace is on, the order can be
expired and is counted; for the orders of a buyer that are due, exactly when all of
them can be and are. A `Prepare` that finds it due leaves everything as it is. -/
theorem observed_expiry_takes_effect {w : World F} {order : MarketplaceFixedOrder F}
    {buyerUserID now : Int} (hids : ∀ id row, w.db.orders.get id = some row → 0 < id)
    (hrow : w.db.buyerOrder order.id buyerUserID = some order) (hact : order.status = .active)
    (hdue : isMarketplaceFixedOrderExpired order now = true) (settings : Settings F) :
    (Expired now [order] w.db (w.apply true (.getBuyer settings buyerUserID order.id now)).1.db ↔
      settings.enabled = true ∧ Expirable now w.db order ∧
        0 < w.db.activeFixedOrders order.credentialID) ∧
    (∀ orders, DueRows w.db buyerUserID now orders → 0 < buyerUserID → order ∈ orders ∧
      ((∃ db', expireDueBuyerMarketplaceFixedOrders w.db now orders = (db', .ok ()) ∧
          Expired now orders w.db db') ↔
        (∀ order ∈ orders, Expirable now w.db order) ∧ Counted w.db orders)) ∧
    ∀ input : MarketplaceFixedOrderRelayInput, input.fixedOrderID = order.id →
      input.buyerUserID = buyerUserID → (w.apply true (.prepare settings input now)).1 = w := by
  have hget := (DB.buyerOrder_eq_some.mp hrow).1
  refine ⟨?_, fun orders hrows hbuyer => ⟨?_, expireDue_iff hrows.distinct fun row hmem => ?_⟩, ?_⟩
  · have hone : (∃ db', expireDueBuyerMarketplaceFixedOrders w.db now [order] = (db', .ok ()) ∧
        Expired now [order] w.db db') ↔
        Expirable now w.db order ∧ 0 < w.db.activeFixedOrders order.credentialID := by
      rw [expireDue_iff (by simp) (by simpa using ⟨hact, hids _ _ hget⟩)]
      simp [Counted, Int.add_one_le_iff.symm]
    have hread (henabled : settings.enabled = true) :
        getBuyerMarketplaceFixedOrderRead settings w.db buyerUserID order.id now = some order := by
      simp [getBuyerMarketplaceFixedOrderRead, henabled, hrow, hdue]
    constructor
    · intro hexp
      have hchanged : (w.apply true (.getBuyer settings buyerUserID order.id now)).1.db ≠ w.db := by
        intro heq
        have hwritten := hexp.rows order mem_cons_self
        rw [heq, hget] at hwritten
        exact nomatch hact.symm.trans (congrArg (·.status) (Option.some.inj hwritten))
      by_cases henabled : settings.enabled = true
      swap
      · refine absurd ?_ hchanged
        simp [World.apply, World.expire, getBuyerMarketplaceFixedOrderRead, henabled]
      cases hrun : expireMarketplaceFixedOrderTx w.db order now with
      | error =>
        refine absurd ?_ hchanged
        simp only [World.apply, World.expire, hread henabled, hrun, World.commit]
      | ok db' =>
        refine ⟨henabled, hone.mp ⟨db', ?_, ?_⟩⟩
        · rw [expireDueBuyerMarketplaceFixedOrders, hrun]
          rfl
        · simpa only [World.apply, World.expire, hread henabled, hrun, World.commit, if_true]
            using hexp
    · rintro ⟨henabled, hok, hcount⟩
      obtain ⟨db', hrun, hexp⟩ := hok.expires hcount
      simp only [World.apply, World.expire, hread henabled, hrun, World.commit, if_true]
      exact hexp
  · rw [hrows.mem_iff, expireDueBuyerMarketplaceFixedOrdersRead, if_neg (not_le.mpr hbuyer), hrow]
    simp [hact, hdue]
  · rw [hrows.mem_iff, expireDueBuyerMarketplaceFixedOrdersRead, if_neg (not_le.mpr hbuyer)] at hmem
    obtain ⟨hread, hfilter⟩ := Option.filter_eq_some_iff.mp hmem
    simp only [Bool.and_eq_true, decide_eq_true_eq] at hfilter
    exact ⟨hfilter.1, hids _ _ (DB.buyerOrder_eq_some.mp hread).1⟩
  intro input hid huser
  cases hprep : prepareMarketplaceFixedOrderRelay settings w.db input now with
  | error => simp only [World.apply, hprep, World.openSession]
  | ok =>
  -- the transaction would have to pass the check of the expiry
  unfold prepareMarketplaceFixedOrderRelay at hprep
  rw [hid, huser, hrow] at hprep
  obtain ⟨_, -, hprep⟩ := seq_ok.mp hprep
  obtain ⟨-, hprep⟩ := require_seq_ok.mp hprep
  obtain ⟨-, hprep⟩ := require_seq_ok.mp hprep
  rw [if_pos hdue] at hprep
  obtain ⟨_, -, ⟨⟩⟩ := seq_ok.mp hprep

/-- The sample order, due at 110. -/
def dueOrder : MarketplaceFixedOrder ℚ where
  id := 1
  buyerUserID := 3
  sellerUserID := 2
  credentialID := 1
  purchasedQuota := 100
  remainingQuota := 100
  purchaseProbeScore := 90
  multiplierSnapshot := 1
  platformFeeRateSnapshot := 1
  expiresAt := 110
  status := .active

def dueWorld : World ℚ where
  db := { sampleWorld.db with
    orders := (Table.empty _).save dueOrder
    stats := (Table.empty _).save { credentialID := 1, activeFixedOrderCount := 1 } }

theorem observed_expiry_takes_effect_sample :
    Expired 200 [dueOrder] dueWorld.db
      (dueWorld.apply true (.getBuyer sampleSettings 3 1 200)).1.db := by
  have hget : ∀ id, dueWorld.db.orders.get id = if 1 = id then some dueOrder else none :=
    Table.get_save _ _
  have hids : ∀ id row, dueWorld.db.orders.get id = some row → 0 < id := by
    intro id row h
    rw [hget] at h
    split at h
    · omega
    · cases h
  have hpay : Payable dueWorld.db
      (marketplaceFixedOrderFinalSettlement (expiredRow dueOrder) 200) :=
    ⟨by decide +kernel, by decide +kernel, by decide +kernel, by decide +kernel, by decide +kernel,
      by simp [dueWorld, sampleWorld], by decide +kernel⟩
  have hrow : dueWorld.db.buyerOrder dueOrder.id 3 = some dueOrder := by decide +kernel
  exact (observed_expiry_takes_effect hids hrow rfl (by decide +kernel) sampleSettings).1.mpr ⟨rfl,
      ⟨by decide, rfl, .of_nonneg (by decide) (by decide), fun _ => hpay⟩, by decide +kernel⟩

/-- A `Prepare` on it: the order is still active with its quota, nothing is settled
and the order still counts. -/
theorem prepare_expiry_rolled_back :
    let prepared := dueWorld.apply true (.prepare sampleSettings ⟨3, 1, "gpt", 0, "req-1"⟩ 200)
    isMarketplaceFixedOrderExpired dueOrder 200 = true ∧
    prepared.2 = .error "marketplace fixed order expired" ∧
    prepared.1.db.orders.get 1 = some dueOrder ∧
    prepared.1.db.settlements = [] ∧ prepared.1.db.activeFixedOrders 1 = 1 := by
  decide +kernel

end HermesToken.Marketplace
