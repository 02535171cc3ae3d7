import HermesToken.Lib.Stock
import HermesToken.Subscription.Operations

/-!
# The shelf of a plan

`shelf` reads the stock of a plan off the tables: the counters of its row, what
its pending orders hold and how many subscriptions of it there are.
-/

namespace HermesToken.Subscription

open Lib Store SubscriptionOrder List Int

variable {st st' : Store} {planID : Int} {plan plan' : SubscriptionPlan}
  {order : SubscriptionOrder} {s' : Option Shelf}

section

variable (order)

/-! ## Shelves -/

def SubscriptionOrder.held : Int :=
  if order.status = .pending then order.stockReserved else 0

/-- What an order is for that holds nothing. -/
def SubscriptionOrder.loose : Int :=
  if order.status = .pending ∧ order.stockReserved ≤ 0 then order.subscriptionCount else 0

def heldStock (orders : List SubscriptionOrder) (planID : Int) : Int :=
  keyedSum (·.planId) (·.held) planID orders

def looseStock (orders : List SubscriptionOrder) (planID : Int) : Int :=
  keyedSum (·.planId) (·.loose) planID orders

def deliveredStock (owners : List (Int × Int)) (planID : Int) : Int :=
  keyedSum (·.2) (fun _ => 1) planID owners

/-- A plan with what its orders hold and what is delivered. -/
def SubscriptionPlan.shelf (plan : SubscriptionPlan) (held loose delivered : Int) : Shelf where
  total := plan.stockTotal
  locked := plan.stockLocked
  sold := plan.stockSold
  withdrawn := plan.deleted
  held := held
  loose := loose
  delivered := delivered

def shelf (st : Store) (planID : Int) : Option Shelf :=
  (st.plans.get planID).map fun plan => plan.shelf (heldStock st.orders planID)
    (looseStock st.orders planID) (deliveredStock (subscriptionOwners st) planID)

theorem shelf_of_get (h : st.plans.get planID = some plan) :
    shelf st planID = some (plan.shelf (heldStock st.orders planID)
      (looseStock st.orders planID) (deliveredStock (subscriptionOwners st) planID)) := by
  rw [shelf, h]
  rfl

theorem SubscriptionOrder.subscriptionCount_pos : 0 < order.subscriptionCount := by
  unfold subscriptionCount
  split <;> omega

theorem SubscriptionOrder.loose_nonneg : 0 ≤ order.loose := by
  unfold loose
  split <;> omega

end

section

variable (orders : List SubscriptionOrder) (order) (k : Int)

theorem heldStock_insert :
    heldStock (orders ++ [order]) k =
      heldStock orders k + if order.planId = k then order.held else 0 := by
  simp [heldStock]

theorem looseStock_insert :
    looseStock (orders ++ [order]) k =
      looseStock orders k + if order.planId = k then order.loose else 0 := by
  simp [looseStock]

end

theorem deliveredStock_append :
    deliveredStock (owners ++ replicate n (userID, planID)) k =
      deliveredStock owners k + if planID = k then (n : Int) else 0 := by
  have hnew : deliveredStock (replicate n (userID, planID)) k =
      if planID = k then (n : Int) else 0 := by
    by_cases hk : planID = k <;> simp [deliveredStock, keyedSum, hk]
  rw [← hnew]
  exact keyedSum_append ..

/-- An order is settled: it counts for nothing any more. -/
theorem keyedSum_settle {value orders}
    (hids : (orders.map (·.id)).Nodup) (hord : order ∈ orders) (hid : settled.id = order.id)
    (hplan : settled.planId = order.planId) (hzero : value settled = 0) (k : Int) :
    keyedSum (·.planId) value k (saveRow (·.id) settled orders) =
      keyedSum (·.planId) value k orders + if order.planId = k then -value order else 0 := by
  have hsave : keyedSum (·.planId) value k (saveRow (·.id) settled orders) + _ = _ :=
    keyedSum_saveRow hids hord hid
  rw [hplan, hzero] at hsave
  split at hsave <;> rename_i hk
  · rw [if_pos hk]
    omega
  · rw [if_neg hk]
    omega

/-! ## What can happen to the shelf of a plan -/

/-- A plan is created with a new shelf, and a shelf takes a step or is
bypassed. -/
inductive ShelfChange (bypassing : Prop) : Option Shelf → Option Shelf → Prop
  | absent : ShelfChange bypassing none none
  | create (total : Int) (nonneg : 0 ≤ total) :
    ShelfChange bypassing none (some { total })
  | step {s s' : Shelf} (step : s.Step s') : ShelfChange bypassing (some s) (some s')
  | bypass {s : Shelf} (n : Int) (allowed : bypassing) :
    ShelfChange bypassing (some s) (some (s.bypass n))

theorem ShelfChange.refl {bypassing : Prop} (s : Option Shelf) : ShelfChange bypassing s s := by
  cases s with
  | none => exact .absent
  | some => exact .step (.idle)

/-- A request moves the stock of one plan by so much. -/
structure Moved (planID held loose delivered : Int) (st st' : Store) : Prop where
  plans : ∀ k, k ≠ planID → st'.plans.get k = st.plans.get k
  held : ∀ k, heldStock st'.orders k = heldStock st.orders k + if planID = k then held else 0
  loose : ∀ k, looseStock st'.orders k = looseStock st.orders k + if planID = k then loose else 0
  delivered : ∀ k, deliveredStock (subscriptionOwners st') k =
    deliveredStock (subscriptionOwners st) k + if planID = k then delivered else 0

theorem Moved.change {held loose delivered} (h : Moved planID held loose delivered st st')
    (hplan : st.plans.get planID = some plan) (hplan' : st'.plans.get planID = some plan')
    {bypassing : Int → Prop}
    (hchg : ∀ s, s = plan.shelf (heldStock st.orders planID) (looseStock st.orders planID)
      (deliveredStock (subscriptionOwners st) planID) → ShelfChange (bypassing planID) (some s)
        (some (plan'.shelf (s.held + held) (s.loose + loose) (s.delivered + delivered))))
    (k : Int) : ShelfChange (bypassing k) (shelf st k) (shelf st' k) := by
  unfold shelf
  rw [h.held, h.loose, h.delivered]
  by_cases hk : planID = k
  · subst hk
    rw [hplan, hplan', if_pos rfl, if_pos rfl, if_pos rfl]
    exact hchg _ rfl
  · rw [h.plans k (Ne.symm hk), if_neg hk, if_neg hk, if_neg hk, add_zero, add_zero,
      add_zero]
    exact .refl _

/-! ## Orders and plans that belong together -/

/-- What an order reserves is its quantity. -/
def SubscriptionOrder.Sound (order : SubscriptionOrder) : Prop :=
  order.stockReserved = 0 ∨ (0 < order.stockReserved ∧ order.stockReserved = order.quantity)

structure StockRows (st : Store) : Prop where
  ids : (st.orders.map (·.id)).Nodup
  bound : ∀ order ∈ st.orders, order.id < st.nextOrderID
  sound : ∀ order ∈ st.orders, order.Sound
  orderPlan : ∀ order ∈ st.orders, (st.plans.get order.planId).isSome
  ownerPlan : ∀ owner ∈ subscriptionOwners st, (st.plans.get owner.2).isSome

theorem SubscriptionOrder.Sound.nonneg (h : order.Sound) : 0 ≤ order.stockReserved := by
  rcases h with h | h <;> omega

theorem SubscriptionOrder.Sound.held_nonneg (h : order.Sound) : 0 ≤ order.held := by
  unfold held
  split
  · exact h.nonneg
  · exact le_refl 0

theorem SubscriptionOrder.Sound.withoutStock (h : order.Sound) :
    order.withoutStock.stockReserved = 0 := by
  unfold SubscriptionOrder.withoutStock
  split
  · have := h.nonneg
    dsimp only
    omega
  · rfl

section

variable (h : StockRows st) (hpls : ∀ k, (st.plans.get k).isSome → (st'.plans.get k).isSome)
include h

theorem StockRows.row (hord : order ∈ st.orders) :
    order.id < st.nextOrderID ∧ order.Sound ∧ (st.plans.get order.planId).isSome :=
  ⟨h.bound order hord, h.sound order hord, h.orderPlan order hord⟩

omit h in
include hpls in
theorem StockRows.of_rows (hids : (st'.orders.map (·.id)).Nodup) (hrows : ∀ order ∈ st'.orders,
      order.id < st'.nextOrderID ∧ order.Sound ∧ (st.plans.get order.planId).isSome)
    (howns : ∀ owner ∈ subscriptionOwners st', (st.plans.get owner.2).isSome) :
    StockRows st' where
  ids := hids
  bound order hord := (hrows order hord).1
  sound order hord := (hrows order hord).2.1
  orderPlan order hord := hpls _ (hrows order hord).2.2
  ownerPlan owner howner := hpls _ (howns owner howner)

theorem StockRows.deliver (hplan : (st.plans.get planID).isSome)
    (howns : subscriptionOwners st' = subscriptionOwners st ++ replicate n (userID, planID)) :
    ∀ owner ∈ subscriptionOwners st', (st.plans.get owner.2).isSome := by
  intro owner howner
  rw [howns] at howner
  rcases mem_append.mp howner with hold | hnew
  · exact h.ownerPlan owner hold
  · rw [eq_of_mem_replicate hnew]
    exact hplan

include hpls

theorem StockRows.of_plans (hords : st'.orders = st.orders)
    (hnext : st'.nextOrderID = st.nextOrderID)
    (howns : ∀ owner ∈ subscriptionOwners st', (st.plans.get owner.2).isSome) :
    StockRows st' := by
  refine .of_rows hpls ?_ (fun order hord => ?_) howns
  · rw [hords]
    exact h.ids
  rw [hords] at hord
  rw [hnext]
  exact h.row hord

theorem StockRows.insert (hords : st'.orders = st.orders ++ [{ order with id := st.nextOrderID }])
    (hnext : st'.nextOrderID = st.nextOrderID + 1) (hsnd : order.Sound)
    (hplan : (st.plans.get order.planId).isSome)
    (howns : ∀ owner ∈ subscriptionOwners st', (st.plans.get owner.2).isSome) :
    StockRows st' := by
  refine .of_rows hpls ?_ (fun order' hord' => ?_) howns
  · rw [hords, map_append, nodup_append]
    refine ⟨h.ids, nodup_singleton _, fun a ha b hb hab => ?_⟩
    obtain ⟨order', hord', rfl⟩ := mem_map.mp ha
    have := h.bound order' hord'
    rw [mem_singleton.mp hb] at hab
    dsimp only at hab
    omega
  rw [hords] at hord'
  rw [hnext]
  rcases mem_append.mp hord' with hold | hnew
  · obtain ⟨_, hrest⟩ := h.row hold
    exact ⟨by omega, hrest⟩
  · rw [mem_singleton.mp hnew]
    exact ⟨by dsimp only; omega, hsnd, hplan⟩

theorem StockRows.settle (hord : order ∈ st.orders)
    (hords : st'.orders = saveRow (·.id) settled st.orders)
    (hnext : st'.nextOrderID = st.nextOrderID) (hid : settled.id = order.id)
    (hplan : settled.planId = order.planId) (hstock : settled.stockReserved = 0)
    (howns : ∀ owner ∈ subscriptionOwners st', (st.plans.get owner.2).isSome) :
    StockRows st' := by
  refine .of_rows hpls ?_ (fun order' hord' => ?_) howns
  · rw [hords, map_key_saveRow]
    exact h.ids
  rw [hords] at hord'
  rw [hnext]
  rcases mem_saveRow.mp hord' with ⟨hold, -⟩ | ⟨rfl, -⟩
  · exact h.row hold
  · rw [hid, hplan]
    exact ⟨h.bound order hord, .inl hstock, h.orderPlan order hord⟩

end

/-- The orders, the plans and the subscriptions belong together, and the
counters of every plan are right. -/
structure StockLedger (st : Store) : Prop where
  rows : StockRows st
  shelves : ∀ k s, shelf st k = some s → s.Sound

end HermesToken.Subscription
