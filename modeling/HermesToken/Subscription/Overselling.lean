import HermesToken.Subscription.Stock

/-!
# Overselling

How many subscriptions of a limited plan there can be.
-/

namespace HermesToken.Subscription

open Lib Store SubscriptionOp List

variable {st : Store} {planID : Int} {op : SubscriptionOp}

/-- The total of a plan, if the plan is there. -/
def keepsTotal (total planID : Int) (st : Store) : Bool :=
  (st.plans.get planID).all fun plan => decide (plan.stockTotal = total)

/-- A request that leaves the total of the plan alone, and that does not ask for
the plan from the balance while it is sold from there. -/
def keepsToStock (total planID : Int) (st : Store) (op : SubscriptionOp) : Bool :=
  keepsTotal total planID (op.step st) && !op.bypasses st planID

def soldSubscriptions (st : Store) (planID : Int) : Nat :=
  (st.subscriptions.filter fun sub => sub.planId = planID).length

theorem deliveredStock_eq :
    deliveredStock (subscriptionOwners st) planID = soldSubscriptions st planID := by
  unfold deliveredStock subscriptionOwners soldSubscriptions
  induction st.subscriptions with
  | nil => rfl
  | cons sub _ ih =>
    rw [map_cons, keyedSum_cons, ih, filter_cons]
    by_cases h : sub.planId = planID
    · simp [h]
      omega
    · simp [h]

/-- The ledger with a plan that keeps its total and is not oversold. -/
def LimitedStock (total planID : Int) (st : Store) : Prop :=
  StockLedger st ∧ ∀ s, shelf st planID = some s → s.Limited total

theorem LimitedStock.step {total} (htot : 0 < total) (h : LimitedStock total planID st)
    (hop : keepsToStock total planID st op) : LimitedStock total planID (op.step st) := by
  refine ⟨h.1.step op, ?_⟩
  unfold keepsToStock at hop
  cases hres : op.result st with
  | error =>
    have hst : op.step st = st := by rw [SubscriptionOp.step, hres]
    rw [hst]
    exact h.2
  | ok st' =>
  have hst : op.step st = st' := by rw [SubscriptionOp.step, hres]
  simp only [hst, Bool.and_eq_true, Bool.not_eq_true'] at hop
  obtain ⟨hkps, hbyp⟩ := hop
  have hsame : ∀ s, shelf st' planID = some s → s.total = total := by
    intro s hs
    obtain ⟨plan, hget, rfl⟩ := Option.map_eq_some_iff.mp hs
    have hplan : plan.stockTotal = total := by simpa [keepsTotal, hget] using hkps
    exact hplan
  have hchg := (op.stockStep h.1 hres).shelves planID
  rw [hst]
  intro s' hs'
  have htot' := hsame s' hs'
  rw [hs'] at hchg
  cases hshelf : shelf st planID with rw [hshelf] at hchg
  | none =>
    cases hchg with
    | create total' =>
      obtain rfl : total' = total := htot'
      exact .new htot
  | some s =>
    cases hchg with
    | step step => exact (h.2 s hshelf).step htot step htot'
    | bypass _ allowed => cases hbyp.symm.trans allowed

/-- **No overselling.** A plan that is created with a total and keeps it never
has more subscriptions than the total, as long as nobody asks for it from the
balance while it is sold from there. -/
theorem no_overselling_without_balance_purchases (base : Store) {total : Int}
    (htotal : 0 < total) (planID : Int) (acts : List SubscriptionOp)
    (hacts : Along step (fun st op => keepsToStock total planID st op = true) (unsold base) acts) :
    soldSubscriptions (exec step (unsold base) acts) planID ≤ total := by
  have hstart : LimitedStock total planID (unsold base) := ⟨.unsold base, nofun⟩
  obtain ⟨hledger, hlimited⟩ : LimitedStock total planID (exec step _ acts) :=
    hacts.invariant (LimitedStock total planID) (fun _ _ h hop => h.step htotal hop) hstart
  rw [← deliveredStock_eq]
  cases hget : (exec step (unsold base) acts).plans.get planID with
  | none =>
    have hzero : deliveredStock
        (subscriptionOwners (exec step (unsold base) acts)) planID = 0 := by
      refine keyedSum_eq_zero fun owner howner heq => ?_
      simpa [heq, hget] using hledger.rows.ownerPlan owner howner
    omega
  | some =>
    have h := hlimited _ (shelf_of_get hget)
    have hheld := h.held
    have hcovered := h.covered
    simp only [SubscriptionPlan.shelf] at hheld hcovered
    omega

def scarcePlan (allowBalancePay : Bool) : SubscriptionPlan where
  id := 0
  title := "pro"
  priceAmount := 1
  stockTotal := 1
  allowBalancePay := some allowBalancePay

/-- The only one is sold from the wallet; whoever comes later goes away empty,
also with the balance. -/
theorem no_overselling_sample :
    soldSubscriptions (exec step (unsold {})
      [.user (.register 0 5000000 0), .createPlan sampleSettings (scarcePlan false),
        .wallet sampleSettings 1 100 1 1 1 "a", .wallet sampleSettings 1 101 1 1 1 "b",
        .balance sampleSettings 102 1 1 "c"]) 1 ≤ (1 : Int) :=
  no_overselling_without_balance_purchases {} one_pos 1 _ (by decide +kernel)

/-- The only one is bought twice from the balance. -/
def balanceRun : List SubscriptionOp :=
  [.user (.register 0 5000000 0), .createPlan sampleSettings (scarcePlan true),
    .balance sampleSettings 100 1 1 "a", .balance sampleSettings 101 1 1 "b"]

/-- **The plan is oversold**: its total is 1 all the time, and two subscriptions
of it are sold. The stock counters have not moved. -/
theorem balance_purchases_oversell :
    Along step (fun st op => keepsTotal 1 1 (op.step st) = true) (unsold {})
        balanceRun ∧
      soldSubscriptions (exec step (unsold {}) balanceRun) 1 = 2 ∧
      ((exec step (unsold {}) balanceRun).plan? 1 false).map
        (fun plan => (plan.stockTotal, plan.stockLocked, plan.stockSold)) = some (1, 0, 0) := by
  decide +kernel

end HermesToken.Subscription
