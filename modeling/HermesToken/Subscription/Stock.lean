import HermesToken.Subscription.Shelf

/-!
# The stock of the plans

Every request that succeeds is a step of every shelf, except for a purchase from
the balance, which bypasses the stock of its plan. What the steps preserve then
holds along every run.
-/

namespace HermesToken.Subscription

open Lib Tx SubscriptionPlan Store SubscriptionOrder SubscriptionOp List Int

variable {st st' : Store} {planID userID now : Int} {plan plan' : SubscriptionPlan}
  {order : SubscriptionOrder} {cfg : Settings} {tradeNo : String} {op : SubscriptionOp}
  {s' : Option Shelf}

/-! ## The requests -/

/-- The request is for a plan that is sold from the balance, which bypasses the
stock. -/
def SubscriptionOp.bypasses (st : Store) : SubscriptionOp → Int → Bool
  | .balance _ _ _ planID _, k => decide (planID = k) && balancePay st k
  | _, _ => false

/-- What a successful request does to the stock. -/
structure StockStep (bypassing : Int → Prop) (st st' : Store) : Prop where
  rows : StockRows st'
  shelves : ∀ k, ShelfChange (bypassing k) (shelf st k) (shelf st' k)

section

variable {st st' : Store} {bypassing : Int → Prop}

theorem isSome_updatePlan (hf : ∀ plan, (f plan).id = plan.id) (id k : Int)
    (h : (st.plans.get k).isSome) : ((st.updatePlan id f).plans.get k).isSome := by
  rw [get_updatePlan hf]
  simpa using h

theorem get_updatePlan_self {f} (hf : ∀ plan, (f plan).id = plan.id) {id}
    (h : st.plan? id false = some plan) : (st.updatePlan id f).plans.get id = some (f plan) := by
  obtain ⟨hget, hon⟩ := plan?_eq_some h
  have hdel : plan.deleted = false := by simpa using hon
  rw [get_updatePlan hf, hget]
  simp [hdel]

theorem get_updatePlan_other {f} (hf : ∀ plan, (f plan).id = plan.id) {id k} (hk : k ≠ id) :
    (st.updatePlan id f).plans.get k = st.plans.get k := by
  rw [get_updatePlan hf]
  simp [hk]

theorem moved_updatePlan {f} (hf : ∀ plan, (f plan).id = plan.id) (id : Int) :
    Moved id 0 0 0 st (st.updatePlan id f) where
  plans _ hk := get_updatePlan_other hf hk
  held k := by
    rw [ite_self, add_zero]
    rfl
  loose k := by
    rw [ite_self, add_zero]
    rfl
  delivered k := by
    rw [ite_self, add_zero]
    rfl

theorem StockStep.createPlan (h : StockLedger st) (hnn : 0 ≤ request.stockTotal) :
    StockStep bypassing st (st.insertPlan request) where
  rows := by
    refine h.rows.of_plans (fun k hk => ?_) rfl rfl h.rows.ownerPlan
    rw [get_insertPlan]
    split
    · rfl
    · exact hk
  shelves k := by
    unfold shelf
    rw [get_insertPlan]
    by_cases hk : k = st.plans.nextID
    · -- no order and no subscription has the new key
      subst hk
      have hnone : st.plans.get st.plans.nextID = none := st.plans.get_nextID
      have hheld : heldStock st.orders st.plans.nextID = 0 := by
        refine keyedSum_eq_zero fun order hord heq => ?_
        simpa [heq, hnone] using h.rows.orderPlan order hord
      have hloose : looseStock st.orders st.plans.nextID = 0 := by
        refine keyedSum_eq_zero fun order hord heq => ?_
        simpa [heq, hnone] using h.rows.orderPlan order hord
      have hempty : deliveredStock (subscriptionOwners st) st.plans.nextID = 0 := by
        refine keyedSum_eq_zero fun owner howner heq => ?_
        simpa [heq, hnone] using h.rows.ownerPlan owner howner
      have hnew : ∀ held loose delivered, held = 0 → loose = 0 → delivered = 0 →
          ShelfChange (bypassing st.plans.nextID) none
            (some ((newPlan request st.plans.nextID).shelf held loose delivered)) := by
        rintro _ _ _ rfl rfl rfl
        exact .create _ hnn
      rw [if_pos rfl, hnone]
      exact hnew _ _ _ hheld hloose hempty
    · rw [if_neg hk]
      exact .refl _

theorem StockRows.reservedStock_eq (h : StockRows st) (k : Int) :
    reservedStock st.orders k = heldStock st.orders k := by
  have hval : ∀ order ∈ st.orders, order.held =
      if (order.status = .pending && decide (0 < order.stockReserved)) = true then
        order.stockReserved else 0 := by
    intro order hord
    have := (h.sound order hord).nonneg
    by_cases hpend : order.status = .pending
    · by_cases hpos : 0 < order.stockReserved
      · simp [held, hpend, hpos]
      · simp [held, hpend, hpos]
        omega
    · simp [held, hpend]
  rw [heldStock, keyedSum_congr_val hval, keyedSum_ite]
  simp only [reservedStock, Bool.and_assoc]

theorem StockStep.updatePlan (h : StockLedger st) {id}
    (hrun : (adminUpdateSubscriptionPlan cfg id plan).run st = .ok ((), st')) :
    StockStep bypassing st st' := by
  obtain ⟨request, current, next, -, hcur, hprep, rfl⟩ :=
    updatePlan_ok hrun
  obtain ⟨-, hnn, hnext⟩ := prepareStockUpdate_ok hprep
  obtain ⟨hget, hon⟩ := plan?_eq_some hcur
  have hdel : current.deleted = false := by simpa using hon
  have hkey : ∀ row, (updatedPlan request next.1 next.2 row).id = row.id := fun _ => rfl
  refine ⟨h.rows.of_plans (isSome_updatePlan hkey id) rfl rfl h.rows.ownerPlan, ?_⟩
  refine (moved_updatePlan hkey id).change hget (get_updatePlan_self hkey hcur) ?_
  intro s hs
  have hsnd : s.Sound := h.shelves id s (by rw [hs, shelf_of_get hget])
  have hstep : s.Step { s with total := request.stockTotal, locked := next.1, sold := next.2 } := by
    subst hs
    rcases hnext with ⟨rfl, hzero, hnextZ⟩ | ⟨rfl, hidle, hflip⟩ | ⟨rfl, hsize⟩
    · exact .restart _ hnn hdel (.inr hzero) (.inl ⟨hzero, hnextZ⟩)
    · rw [plan?_id hcur, h.rows.reservedStock_eq] at hidle
      exact .restart _ hnn hdel hflip.symm (.inr hidle)
    · obtain ⟨hlim, hpos, hfits⟩ := hsize hsnd.total
      exact .resize _ hpos hdel hlim hfits
  rw [add_zero, add_zero, add_zero]
  subst hs
  exact .step hstep

theorem StockStep.setPlanStatus (h : StockLedger st) (id : Int) (enabled : Bool) :
    StockStep bypassing st (st.updatePlan id fun row => { row with enabled }) := by
  have hkey : ∀ row : SubscriptionPlan, { row with enabled }.id = row.id := fun _ => rfl
  refine ⟨h.rows.of_plans (isSome_updatePlan hkey id) rfl rfl h.rows.ownerPlan, fun k => ?_⟩
  have hshelf : shelf (st.updatePlan id fun row => { row with enabled }) k =
      shelf st k := by
    unfold shelf
    rw [get_updatePlan hkey]
    cases st.plans.get k with
    | none => rfl
    | some =>
      simp only [Option.map_some, Option.some.injEq]
      split <;> rfl
  rw [hshelf]
  exact .refl _

theorem StockStep.deletePlan (h : StockLedger st) (id : Int) :
    StockStep bypassing st (st.updatePlan id fun row => { row with deleted := true }) := by
  have hkey : ∀ row : SubscriptionPlan, { row with deleted := true }.id = row.id := fun _ => rfl
  refine ⟨h.rows.of_plans (isSome_updatePlan hkey id) rfl rfl h.rows.ownerPlan, fun k => ?_⟩
  unfold shelf
  rw [get_updatePlan hkey]
  cases st.plans.get k with
  | none => exact .absent
  | some =>
    simp only [Option.map_some]
    split
    · exact .step (.withdraw)
    · exact .refl _

theorem StockStep.updatePayment (h : StockLedger st) {paymentMoney paymentCurrency}
    (hrun : (updateSubscriptionOrderPaymentAmount tradeNo paymentMoney paymentCurrency).run st =
      .ok ((), st')) : StockStep bypassing st st' := by
  have hst := updatePaymentAmount_ok hrun
  -- the columns that the stock depends on
  have hcol {C : Type} (column : SubscriptionOrder → C)
      (hcolumn : ∀ (order : SubscriptionOrder) money currency,
        column { order with paymentMoney := money, paymentCurrency := currency } = column order) :
      st'.orders.map column = st.orders.map column := by
    rw [hst, map_map]
    refine map_congr_left fun order _ => ?_
    simp only [Function.comp_apply]
    split
    · exact hcolumn ..
    · rfl
  have hrow {P : SubscriptionOrder → Prop}
      (hcolumn : ∀ (order : SubscriptionOrder) money currency, P order →
        P { order with paymentMoney := money, paymentCurrency := currency })
      (hP : ∀ order ∈ st.orders, P order) : ∀ order ∈ st'.orders, P order := by
    intro order hord
    rw [hst] at hord
    obtain ⟨order₀, hord₀, rfl⟩ := mem_map.mp hord
    split
    · exact hcolumn _ _ _ (hP _ hord₀)
    · exact hP _ hord₀
  have hpls : st'.plans = st.plans := by rw [hst]
  have hnext : st'.nextOrderID = st.nextOrderID := by rw [hst]
  have howns : subscriptionOwners st' = subscriptionOwners st := by
    rw [hst]
    rfl
  constructor
  · refine .of_rows (fun _ => id) ?_ ?_ ?_
    · rw [hcol (·.id) fun _ _ _ => rfl]
      exact h.rows.ids
    · rw [hnext, hpls]
      exact hrow (fun _ _ _ => id) fun _ => h.rows.row
    · rw [howns, hpls]
      exact h.rows.ownerPlan
  intro k
  have hheld : heldStock st'.orders k = heldStock st.orders k :=
    congrArg sum (hcol (fun order => if order.planId = k then order.held else 0) fun _ _ _ => rfl)
  have hloose : looseStock st'.orders k = looseStock st.orders k :=
    congrArg sum (hcol (fun order => if order.planId = k then order.loose else 0) fun _ _ _ => rfl)
  unfold shelf
  rw [hpls, hheld, hloose, howns]
  exact .refl _

/-! ### Orders -/

/-- One plan is written: the row before and after. -/
structure PlanWritten (planID : Int) (plan plan' : SubscriptionPlan) (st st' : Store) : Prop where
  before : st.plans.get planID = some plan
  after : st'.plans.get planID = some plan'
  others : ∀ k, k ≠ planID → st'.plans.get k = st.plans.get k

theorem PlanWritten.isSome (h : PlanWritten planID plan plan' st st') (k : Int)
    (hk : (st.plans.get k).isSome) : (st'.plans.get k).isSome := by
  by_cases hid : k = planID
  · rw [hid, h.after]
    rfl
  · rw [h.others k hid]
    exact hk

theorem PlanWritten.of_plans (h : PlanWritten planID plan plan' st st₁)
    (hpls : st'.plans = st₁.plans) : PlanWritten planID plan plan' st st' := by
  refine ⟨h.before, ?_, ?_⟩
  · rw [hpls]
    exact h.after
  · rw [hpls]
    exact h.others

theorem StockStep.insert (h : StockLedger st) (hplan : order.planId = planID) (hsnd : order.Sound)
    (hwrite : PlanWritten planID plan plan' st st')
    (hords : st'.orders = st.orders ++ [{ order with id := st.nextOrderID }])
    (hnext : st'.nextOrderID = st.nextOrderID + 1) (howns : subscriptionOwners st' =
      subscriptionOwners st ++ replicate n (userID, planID))
    (hchg : ∀ s, s = plan.shelf (heldStock st.orders planID) (looseStock st.orders planID)
      (deliveredStock (subscriptionOwners st) planID) → ShelfChange (bypassing planID) (some s)
        (some (plan'.shelf (s.held + order.held) (s.loose + order.loose) (s.delivered + n)))) :
    StockStep bypassing st st' := by
  have hsome : (st.plans.get planID).isSome := by
    rw [hwrite.before]
    rfl
  have hmoved : Moved planID order.held order.loose n st st' := by
    refine ⟨hwrite.others, fun k => ?_, fun k => ?_, fun k => ?_⟩
    · rw [hords, heldStock_insert, ← hplan]
      rfl
    · rw [hords, looseStock_insert, ← hplan]
      rfl
    · rw [howns, deliveredStock_append]
  refine ⟨h.rows.insert hwrite.isSome hords hnext hsnd (hplan.symm ▸ hsome) ?_, ?_⟩
  · exact h.rows.deliver hsome howns
  · exact hmoved.change hwrite.before hwrite.after hchg

theorem StockStep.settle (h : StockLedger st)
    (hord : order ∈ st.orders) (hid : settled.id = order.id)
    (hplan : settled.planId = order.planId) (hstat : settled.status ≠ .pending)
    (hstock : settled.stockReserved = 0) (hwrite : PlanWritten order.planId plan plan' st st')
    (hords : st'.orders = saveRow (·.id) settled st.orders)
    (hnext : st'.nextOrderID = st.nextOrderID) (howns : subscriptionOwners st' =
      subscriptionOwners st ++ replicate n (userID, order.planId))
    (hchg : ∀ s, s = plan.shelf (heldStock st.orders order.planId)
      (looseStock st.orders order.planId) (deliveredStock (subscriptionOwners st) order.planId) →
        ShelfChange (bypassing order.planId) (some s)
          (some (plan'.shelf (s.held - order.held) (s.loose - order.loose) (s.delivered + n)))) :
    StockStep bypassing st st' := by
  have hmoved : Moved order.planId (-order.held) (-order.loose) n st st' := by
    refine ⟨hwrite.others, fun k => ?_, fun k => ?_, fun k => ?_⟩
    · rw [hords]
      exact keyedSum_settle h.rows.ids hord hid hplan (if_neg hstat) k
    · rw [hords]
      exact keyedSum_settle h.rows.ids hord hid hplan (if_neg fun h => hstat h.1) k
    · rw [howns, deliveredStock_append]
  refine ⟨h.rows.settle hwrite.isSome hord hords hnext hid hplan hstock ?_, ?_⟩
  · exact h.rows.deliver (h.rows.orderPlan order hord) howns
  · exact hmoved.change hwrite.before hwrite.after hchg

/-- The stock columns of a plan that was found are written. -/
theorem planWritten_moved {locked sold} (h : st.plan? planID false = some plan)
    (hpls : st'.plans = (st.updatePlan planID (·.moved locked sold)).plans) :
    PlanWritten planID plan (plan.moved locked sold) st st' := by
  have hkey : ∀ row : SubscriptionPlan, (row.moved locked sold).id = row.id := fun _ => rfl
  refine ⟨(plan?_eq_some h).1, ?_, fun k hk => ?_⟩
  · rw [hpls]
    exact get_updatePlan_self hkey h
  · rw [hpls]
    exact get_updatePlan_other hkey hk

theorem planWritten_self (h : st.plans.get planID = some plan) (hpls : st'.plans = st.plans) :
    PlanWritten planID plan plan st st' := by
  refine ⟨h, ?_, fun k _ => ?_⟩
  · rw [hpls]
    exact h
  · rw [hpls]

section

variable (endpoint : OrderEndpoint) (now userID : Int) {quantity : Int} (hpos : 0 < quantity)
  (tradeNo : String) (plan : SubscriptionPlan)

theorem pendingOrder_held (quantity : Int) :
    (pendingOrder endpoint now userID quantity tradeNo plan).held =
      if 0 < plan.stockTotal then quantity else 0 := by
  simp [held, pendingOrder, hasStockLimit]

include hpos in
theorem pendingOrder_loose :
    (pendingOrder endpoint now userID quantity tradeNo plan).loose =
      if 0 < plan.stockTotal then 0 else quantity := by
  have hcnt : (quantity.toNat : Int) = quantity := toNat_of_nonneg (le_of_lt hpos)
  by_cases hlim : 0 < plan.stockTotal
  · simp [loose, pendingOrder, hasStockLimit, hlim, hpos]
  · simp [loose, subscriptionCount, pendingOrder, hasStockLimit, hlim, hpos, hcnt]

include hpos in
theorem pendingOrder_sound : (pendingOrder endpoint now userID quantity tradeNo plan).Sound := by
  by_cases hlim : 0 < plan.stockTotal
  · exact .inr (by simp [pendingOrder, hasStockLimit, hlim, hpos])
  · exact .inl (by simp [pendingOrder, hasStockLimit, hlim])

end

theorem StockStep.createPending (h : StockLedger st) {endpoint quantity lockedPlan}
    (hrun : (createPendingSubscriptionOrder endpoint now userID planID quantity tradeNo).run st =
      .ok (lockedPlan, st')) : StockStep bypassing st st' := by
  obtain ⟨row, st₁, hpos, hrow, hins, hstock⟩ := createPending_ok hrun
  obtain ⟨hget, hon⟩ := plan?_eq_some hrow
  have hdel : row.deleted = false := by simpa using hon
  have hrowID : row.id = planID := plan?_id hrow
  have hsnd := pendingOrder_sound endpoint now userID hpos tradeNo lockedPlan
  have hheld := pendingOrder_held endpoint now userID tradeNo lockedPlan quantity
  have hloose := pendingOrder_loose endpoint now userID hpos tradeNo lockedPlan
  have hnone : subscriptionOwners st =
    subscriptionOwners st ++ replicate 0 (userID, planID) := (append_nil _).symm
  obtain ⟨-, rfl⟩ := insertOrder_ok hins
  rcases hstock with ⟨hlim, rfl, rfl⟩ | ⟨hlim, hroom, rfl, rfl⟩
  · refine .insert h hrowID hsnd (planWritten_self hget rfl) rfl rfl hnone fun s hs => ?_
    rw [hheld, hloose, if_neg hlim, if_neg hlim, add_zero, Nat.cast_zero, add_zero]
    subst hs
    exact .step (.order quantity hpos hdel hlim)
  refine .insert h hrowID hsnd (planWritten_moved hrow rfl) rfl rfl hnone fun s hs => ?_
  have hlim' : 0 < (row.moved quantity 0).stockTotal := hlim
  rw [hheld, hloose, if_pos hlim', if_pos hlim', add_zero, Nat.cast_zero, add_zero]
  have hstep : s.Step { s with locked := s.locked + quantity, held := s.held + quantity } := by
    subst hs
    exact .hold quantity hpos hdel hlim hroom
  subst hs
  simpa [SubscriptionPlan.shelf, moved] using ShelfChange.step hstep

theorem SoldDirectly.cases (hpos : 0 < amount) (h : SoldDirectly planID amount st st₁) :
    ∃ plan plan', PlanWritten planID plan plan' st st₁ ∧ ∀ held loose delivered,
      (plan.shelf held loose delivered).Step (plan'.shelf held loose (delivered + amount)) := by
  obtain ⟨row, hrow, hstock⟩ := h
  obtain ⟨hget, hon⟩ := plan?_eq_some hrow
  have hdel : row.deleted = false := by simpa using hon
  rcases hstock with ⟨hlim, rfl⟩ | ⟨hlim, hroom, rfl⟩
  · exact ⟨row, row, planWritten_self hget rfl, fun _ _ _ => .free amount hpos hdel hlim⟩
  refine ⟨row, row.moved 0 amount, planWritten_moved hrow rfl, fun held loose delivered => ?_⟩
  have hstep : (row.shelf held loose delivered).Step _ :=
    .direct amount hpos hdel hlim hroom
  simpa [SubscriptionPlan.shelf, moved] using hstep

theorem StockStep.wallet (h : StockLedger st) {quantity result}
    (hrun : (purchaseSubscriptionWithWallet cfg fuel now userID planID quantity tradeNo).run st =
      .ok (result, st')) : StockStep bypassing st st' := by
  obtain ⟨hpos, st₁, lockedPlan, hsold, hid, hrows, howns⟩ :=
    purchaseByWallet_ok hrun
  obtain ⟨plan, plan', hwrite, hstep⟩ := hsold.cases hpos
  simp only [stockRows, Prod.mk.injEq] at hrows
  obtain ⟨hpls, hords, hnext⟩ := hrows
  refine .insert h hid (.inl rfl) (hwrite.of_plans hpls) hords hnext howns fun s hs => ?_
  have hheld : (walletOrder now userID quantity tradeNo lockedPlan).held = 0 := rfl
  have hloose : (walletOrder now userID quantity tradeNo lockedPlan).loose = 0 := rfl
  rw [hheld, hloose, add_zero, add_zero, toNat_of_nonneg (le_of_lt hpos)]
  subst hs
  exact .step (hstep ..)

theorem StockStep.balance (h : StockLedger st)
    (hrun : (purchaseSubscriptionWithBalance cfg now userID planID tradeNo).run st =
      .ok ((), st')) :
    StockStep ((balance cfg now userID planID tradeNo).bypasses st · = true) st st' := by
  obtain ⟨plan, requiredQuota, hid, hpay, hrows, howns⟩ := purchaseByBalance_ok hrun
  obtain ⟨row, hrow, -⟩ := (Option.any_eq_true _ _).mp hpay
  obtain ⟨hget, -⟩ := plan?_eq_some hrow
  simp only [stockRows, Prod.mk.injEq] at hrows
  obtain ⟨hpls, hords, hnext⟩ := hrows
  have hone : subscriptionOwners st' =
    subscriptionOwners st ++ replicate 1 (userID, planID) := howns
  refine .insert h hid (.inl rfl) (planWritten_self hget hpls) hords hnext hone fun s hs => ?_
  have hheld : (balanceOrder now userID requiredQuota tradeNo plan).held = 0 := rfl
  have hloose : (balanceOrder now userID requiredQuota tradeNo plan).loose = 0 := rfl
  rw [hheld, hloose, add_zero, add_zero]
  subst hs
  exact .bypass 1 (by simpa [bypasses] using hpay)

theorem StockStep.bind (h : StockLedger st)
    (hrun : (adminBindSubscription cfg now userID planID).run st = .ok ((), st')) :
    StockStep bypassing st st' := by
  obtain ⟨st₁, hsold, hrows, howns⟩ := adminBindSubscription_ok hrun
  obtain ⟨plan, plan', hwrite, hstep⟩ := hsold.cases one_pos
  simp only [stockRows, Prod.mk.injEq] at hrows
  obtain ⟨hpls, hords, hnext⟩ := hrows
  have hwrite' : PlanWritten planID plan plan' st st' := hwrite.of_plans hpls
  have hone : subscriptionOwners st' =
    subscriptionOwners st ++ replicate 1 (userID, planID) := howns
  have hmoved : Moved planID 0 0 1 st st' := by
    refine ⟨hwrite'.others, fun k => ?_, fun k => ?_, fun k => ?_⟩
    · rw [hords, ite_self, add_zero]
    · rw [hords, ite_self, add_zero]
    · rw [hone, deliveredStock_append]
      rfl
  have hsome : (st.plans.get planID).isSome := by
    rw [hwrite'.before]
    rfl
  refine ⟨h.rows.of_plans hwrite'.isSome hords hnext (h.rows.deliver hsome hone), ?_⟩
  refine hmoved.change hwrite'.before hwrite'.after fun s hs => ?_
  rw [add_zero, add_zero]
  subst hs
  exact .step (hstep ..)

/-- The stock of a pending order is settled: it is sold and delivered, or given
back. -/
theorem settleStock_step (hsnd : order.Sound) (hpend : order.status = .pending)
    (hplan : st.plans.get order.planId = some plan) (sold : Bool) :
    ∃ plan', PlanWritten order.planId plan plan' st (st.settleStock order sold) ∧
      ∀ held loose delivered, order.held ≤ held → order.loose ≤ loose →
        (plan.shelf held loose delivered).Step (plan'.shelf (held - order.held)
          (loose - order.loose)
          (delivered + (if sold then order.subscriptionCount else 0 : Nat))) := by
  rcases hsnd with hzero | ⟨hpos, _⟩
  · -- nothing is reserved
    have hheld : order.held = 0 := by rw [SubscriptionOrder.held, if_pos hpend, hzero]
    have hloose : order.loose = order.subscriptionCount := if_pos ⟨hpend, hzero.le⟩
    have hcnt : 0 < (order.subscriptionCount : Int) := by
      exact_mod_cast order.subscriptionCount_pos
    refine ⟨plan, planWritten_self hplan (by rw [settleStock, if_pos hzero.le]), ?_⟩
    intro held loose delivered _ hle
    rw [hloose] at hle
    rw [hheld, hloose, sub_zero]
    cases sold with
    | true => exact .deliver _ hcnt hle
    | false =>
      rw [if_neg Bool.false_ne_true, Nat.cast_zero, add_zero]
      exact .drop _ hcnt hle
  have hheld : order.held = order.stockReserved := if_pos hpend
  have hloose : order.loose = 0 := if_neg fun h => absurd h.2 (not_le.mpr hpos)
  have hcnt : (order.subscriptionCount : Int) = order.stockReserved := by
    unfold subscriptionCount
    split <;> omega
  have hkey : ∀ row : SubscriptionPlan, (row.moved (-order.stockReserved)
    (if sold then order.stockReserved else 0)).id = row.id := fun _ => rfl
  have hst : st.settleStock order sold = st.updatePlan order.planId
      (·.moved (-order.stockReserved) (if sold then order.stockReserved else 0)) :=
    if_neg (not_le.mpr hpos)
  have hoth : ∀ k, k ≠ order.planId →
      (st.settleStock order sold).plans.get k = st.plans.get k := by
    intro k hk
    rw [hst]
    exact get_updatePlan_other hkey hk
  have hafter : (st.updatePlan order.planId _).plans.get order.planId = _ :=
    get_updatePlan hkey order.planId order.planId
  rw [← hst, hplan] at hafter
  refine ⟨_, ⟨hplan, hafter, hoth⟩, fun held loose delivered hle _ => ?_⟩
  rw [hheld] at hle
  rw [hheld, hloose, sub_zero]
  -- the row of a deleted plan is not written
  cases sold with
  | true =>
    have hsell := Shelf.Step.sell (s := plan.shelf held loose delivered) _ hpos hle
    cases hdel : plan.deleted <;> simpa [Shelf.count, hdel, hcnt,
      SubscriptionPlan.shelf, moved] using hsell
  | false =>
    have hrel := Shelf.Step.release (s := plan.shelf held loose delivered) _ hpos hle
    cases hdel : plan.deleted <;> simpa [Shelf.count, hdel, hcnt,
      SubscriptionPlan.shelf, moved] using hrel

theorem settleStock_rows (st : Store) (order : SubscriptionOrder) (sold : Bool) :
    (st.settleStock order sold).orders = st.orders ∧
      (st.settleStock order sold).nextOrderID = st.nextOrderID ∧
      subscriptionOwners (st.settleStock order sold) = subscriptionOwners st := by
  unfold settleStock
  split <;> exact ⟨rfl, rfl, rfl⟩

/-- A pending order is saved under another status after its stock was
settled. -/
theorem StockStep.settled (h : StockLedger st) (settled : SubscriptionOrder)
    (hord : order ∈ st.orders) (hpend : order.status = .pending) (sold : Bool)
    (hid : settled.id = order.id) (hplan : settled.planId = order.planId)
    (hstat : settled.status ≠ .pending)
    (hstock : settled.stockReserved = order.withoutStock.stockReserved)
    (hrows : stockRows st' = stockRows ((st.settleStock order sold).saveOrder settled))
    (howns : subscriptionOwners st' = subscriptionOwners st ++
      replicate (if sold then order.subscriptionCount else 0) (order.userId, order.planId)) :
    StockStep bypassing st st' := by
  have hsnd := h.rows.sound order hord
  obtain ⟨hords, hnext, -⟩ := settleStock_rows st order sold
  simp only [stockRows, saveOrder, Prod.mk.injEq, hords, hnext] at hrows
  obtain ⟨plan, hget⟩ := Option.isSome_iff_exists.mp (h.rows.orderPlan order hord)
  obtain ⟨plan', hwrite, hstep⟩ := settleStock_step hsnd hpend hget sold
  refine .settle h hord hid hplan hstat (hstock.trans hsnd.withoutStock)
    (hwrite.of_plans hrows.1) hrows.2.1 hrows.2.2 howns fun s hs => ?_
  -- the order is one of those that hold the stock
  have hheld : order.held ≤ heldStock st.orders order.planId :=
    le_keyedSum (fun o ho _ => (h.rows.sound o ho).held_nonneg) hord rfl
  have hloose : order.loose ≤ looseStock st.orders order.planId :=
    le_keyedSum (fun o _ _ => o.loose_nonneg) hord rfl
  subst hs
  exact .step (hstep _ _ _ hheld hloose)

theorem StockStep.idle (h : StockLedger st) (hrows : stockRows st' = stockRows st)
    (howns : subscriptionOwners st' = subscriptionOwners st) : StockStep bypassing st st' := by
  have hshelf : ∀ k, shelf st' k = shelf st k := by
    simp only [stockRows, Prod.mk.injEq] at hrows
    simp only [shelf, hrows, howns, implies_true]
  simp only [stockRows, Prod.mk.injEq] at hrows
  refine ⟨h.rows.of_plans (fun k hk => ?_) hrows.2.1 hrows.2.2 ?_, fun k => ?_⟩
  · rw [hrows.1]
    exact hk
  · rw [howns]
    exact h.rows.ownerPlan
  · rw [hshelf]
    exact .refl _

theorem StockStep.complete (h : StockLedger st) {done}
    (hrun : (completeSubscriptionOrderWithValidation cfg fuel now tradeNo callback).run st =
      .ok (done, st')) : StockStep bypassing st st' := by
  obtain ⟨order, hord, ⟨-, rfl⟩ | ⟨-, hpend, hcomp⟩⟩ :=
    completeOrder_ok hrun
  · exact .idle h rfl rfl
  obtain ⟨hrows, howns⟩ := completePendingOrderTx_ok hcomp
  exact .settled h (paidOrder now callback order) (order?_mem hord) hpend true rfl rfl
    nofun rfl hrows howns

theorem StockStep.expire (h : StockLedger st) {done}
    (hrun : (expireSubscriptionOrderTx now tradeNo expectedProvider).run st =
      .ok (done, st')) : StockStep bypassing st st' := by
  obtain ⟨order, hord, ⟨-, rfl⟩ | ⟨-, hpend, hst'⟩⟩ := expireOrder_ok hrun
  · exact .idle h rfl rfl
  refine .settled h (expiredOrder now order) (order?_mem hord) hpend false rfl rfl
    nofun rfl (by rw [hst']) ?_
  have howns := (settleStock_rows st order false).2.2
  rw [hst', ← howns]
  exact (append_nil _).symm

end

/-! ## Runs -/

/-- **Every request that succeeds is a step of every shelf**, or bypasses the
shelf of its plan. -/
theorem SubscriptionOp.stockStep (h : StockLedger st) (hres : op.result st = .ok st') :
    StockStep (op.bypasses st · = true) st st' := by
  cases op with
  | user op =>
    obtain rfl : op.step st = st' := Except.ok.inj hres
    rw [op.step_eq]
    exact .idle h rfl rfl
  | createPlan =>
    obtain ⟨⟨⟨⟩, st₁⟩, hrun, rfl⟩ := map_ok.mp hres
    obtain ⟨request, hnn, rfl⟩ := adminCreateSubscriptionPlan_ok hrun
    exact .createPlan h hnn
  | updatePlan =>
    obtain ⟨⟨⟨⟩, st₁⟩, hrun, rfl⟩ := map_ok.mp hres
    exact .updatePlan h hrun
  | setPlanStatus id enabled =>
    obtain ⟨⟨⟨⟩, st₁⟩, hrun, rfl⟩ := map_ok.mp hres
    rw [updatePlanStatus_ok hrun]
    exact .setPlanStatus h id enabled
  | deletePlan id =>
    obtain ⟨⟨⟨⟩, st₁⟩, hrun, rfl⟩ := map_ok.mp hres
    rw [adminDeleteSubscriptionPlan_ok hrun]
    exact .deletePlan h id
  | createPending =>
    obtain ⟨⟨lockedPlan, st₁⟩, hrun, rfl⟩ := map_ok.mp hres
    exact .createPending h hrun
  | updatePayment =>
    obtain ⟨⟨⟨⟩, st₁⟩, hrun, rfl⟩ := map_ok.mp hres
    exact .updatePayment h hrun
  | complete =>
    obtain ⟨⟨done, st₁⟩, hrun, rfl⟩ := map_ok.mp hres
    exact .complete h hrun
  | expire =>
    obtain ⟨⟨done, st₁⟩, hrun, rfl⟩ := map_ok.mp hres
    exact .expire h hrun
  | wallet =>
    obtain ⟨⟨result, st₁⟩, hrun, rfl⟩ := map_ok.mp hres
    exact .wallet h hrun
  | balance =>
    obtain ⟨⟨⟨⟩, st₁⟩, hrun, rfl⟩ := map_ok.mp hres
    exact .balance h hrun
  | bind =>
    obtain ⟨⟨⟨⟩, st₁⟩, hrun, rfl⟩ := map_ok.mp hres
    exact .bind h hrun

theorem ShelfChange.sound {bypassing : Prop} (h : ShelfChange bypassing s s')
    (hs : ∀ t, s = some t → t.Sound) : ∀ t, s' = some t → t.Sound := by
  cases h with
  | absent => exact hs
  | create _ nonneg =>
    rintro t ⟨⟩
    exact .new nonneg
  | step hstep =>
    rintro t ⟨⟩
    exact (hs _ rfl).step hstep
  | bypass n =>
    rintro t ⟨⟩
    exact (hs _ rfl).bypass n

theorem StockLedger.step (h : StockLedger st) (op : SubscriptionOp) : StockLedger (op.step st) := by
  unfold SubscriptionOp.step
  split
  · rename_i hres
    have hstep := op.stockStep h hres
    exact ⟨hstep.rows, fun k => (hstep.shelves k).sound (h.shelves k)⟩
  · exact h

/-- Before the first plan is created. Whatever else is in the tables. -/
def unsold (base : Store) : Store :=
  { base with plans := .empty _, orders := [], subscriptions := [] }

theorem StockLedger.unsold (base : Store) : StockLedger (unsold base) where
  rows := by constructor <;> simp [Subscription.unsold, subscriptionOwners]
  shelves := by
    intro k s hs
    cases hs

end HermesToken.Subscription
