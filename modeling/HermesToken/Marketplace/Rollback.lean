import HermesToken.Marketplace.Stranded

/-!
# Sessions after a rollback

`Settle` and `Reserve` change the quota that a session holds inside the
transaction. When the transaction is rolled back the database forgets what it
did, but the session does not. Only a call that moves no quota before it fails
leaves the session and the database in step.
-/

namespace HermesToken.Marketplace

open Lib MarketplaceFixedOrderBillingSession

variable {F : Type}

inductive SessionCall where
  | settle (actualQuota latencyMS now : Int)
  | reserve (targetQuota : Int)
  | refund

section

variable (call : SessionCall) (s : MarketplaceFixedOrderBillingSession F)

def SessionCall.run [FloatOps F] (db : DB F) (commits : Bool) : Call F :=
  match call with
  | .settle actualQuota latencyMS now => s.settle db commits actualQuota latencyMS now
  | .reserve targetQuota => s.reserve db commits targetQuota
  | .refund => s.refund db commits

/-- What the order row has spent for the `i`-th session: the part that is
neither on a fill nor held by another open session. -/
def quotaReservedFor (b : Books F) (ss : List (MarketplaceFixedOrderBillingSession F)) (i : Nat)
    (order : MarketplaceFixedOrder F) : Int :=
  order.spentQuota - fillTotal b order.id - heldTotal (ss.eraseIdx i) order.id

/-- A `Settle` that fails has moved nothing when its quota is refused, or the charge
is what the session holds, or at least that and the order has nothing to add to it.
A `Reserve` has moved nothing unless only its COMMIT failed. -/
def SessionCall.MovesNothing [FloatOps F] (db : DB F) (commits : Bool) : Prop :=
  match call with
  | .settle actualQuota _ _ => actualQuota < 0 ∨ ∀ order ∈ db.orders.get s.orderID,
      s.buyerChargeForQuota actualQuota = s.preConsumedQuota ∨
        s.preConsumedQuota ≤ s.buyerChargeForQuota actualQuota ∧
          (order.remainingQuota = 0 ∨ order.status ≠ .active)
  | .reserve targetQuota => targetQuota < 0 ∨ commits = true ∨ ∀ order ∈ db.orders.get s.orderID,
      order.status ≠ .active ∨
        order.remainingQuota < s.buyerChargeForQuota targetQuota - s.preConsumedQuota
  | .refund => False

/-- A `Settle` charge of the call is a 64-bit integer. -/
def SessionCall.Fits [FloatOps F] : Prop :=
  match call with
  | .settle actualQuota _ _ => ChargeFits actualQuota s.platformFeeRateSnapshot
  | .reserve _ | .refund => True

end

section

variable {db : DB F} {ss : List (MarketplaceFixedOrderBillingSession F)}
  {s : MarketplaceFixedOrderBillingSession F} {i : Nat} {order : MarketplaceFixedOrder F}

section

variable (h : Ledger (· = 0) db.books ss) (hi : ss[i]? = some s) (hopen : s.Open)
  (hget : db.orders.get s.orderID = some order)
include h hi hopen hget

/-- In a ledger without slack an open session holds what is reserved for it. -/
theorem Ledger.reservedFor : s.preConsumedQuota = quotaReservedFor db.books ss i order := by
  have hslack : slack db.books ss order = 0 := h.slack_mem hget
  have hid : order.id = s.orderID := db.orders.key_get hget
  have hoth : heldTotal (ss.eraseIdx i) order.id + s.held = heldTotal ss order.id :=
    keyedSum_eraseIdx hi hid.symm
  rw [s.held_of_open hopen] at hoth
  unfold slack at hslack
  unfold quotaReservedFor
  omega

/-- What an open session holds, and what its order has left, are quotas. -/
theorem Ledger.quotas :
    0 ≤ s.preConsumedQuota ∧ 0 ≤ order.remainingQuota ∧
      s.preConsumedQuota + order.remainingQuota ≤ maxInt64 := by
  have hheld := h.held_nonneg s (List.mem_of_getElem? hi)
  have hcover := h.held_le (fun x hx => hx.ge) hi hget
  have ⟨hr, _, _, _, _, _⟩ := h.balanced hget
  rw [s.held_of_open hopen] at hheld hcover
  exact ⟨hheld, hr, by omega⟩

end

variable [FloatOps F] {commits : Bool}

section

variable (h : Ledger (· = 0) db.books ss) (hi : ss[i]? = some s)
include h hi

theorem settleReserve_same (hopen : s.Open) (hactual : ¬ actual < 0)
    (hmoves : (SessionCall.settle actual latencyMS now).MovesNothing s db commits)
    (hok : s.settleReserve db actual = .ok (s', db')) : s' = s := by
  have hsess := (settleReserve_adjusted hok).1.session
  obtain ⟨order, s₁, hget, hmove, hquo⟩ := settleReserve_ok hok
  obtain ⟨hpre, hrem, hmax⟩ := h.quotas hi hopen hget
  rw [capped_eq_min hpre hrem hmax] at hmove hquo
  have hchg := hmoves.resolve_left hactual order hget
  unfold buyerChargeForQuota at hchg
  generalize marketplaceBuyerChargeWithFee actual s.platformFeeRateSnapshot = charge
    at hmove hquo hchg
  have hdlt : sub64 (min charge (s.preConsumedQuota + order.remainingQuota)) s.preConsumedQuota =
      min charge (s.preConsumedQuota + order.remainingQuota) - s.preConsumedQuota :=
    sub64_eq (InInt64.of_nonneg (by omega) (by omega))
  have hsame : s'.preConsumedQuota = s.preConsumedQuota := by
    rcases hchg with _ | ⟨_, _ | hclose⟩
    · omega
    · omega
    -- a reservation of an order that is not active would have failed
    by_contra hne
    unfold adjustTx at hmove
    rw [if_pos (by omega)] at hmove
    rcases reserveDeltaTx_ok hmove with
      ⟨hnonp, _⟩ | ⟨_, row, hrow, hact, _⟩
    · omega
    · obtain rfl := Option.some.inj (hget.symm.trans hrow)
      exact hclose hact
  rw [hsess, hsame]
  rfl

theorem settle_rolledBack
    (hmoves : (SessionCall.settle actual latencyMS now).MovesNothing s db commits)
    (hfail : (s.settle db commits actual latencyMS now).result ≠ .ok ()) :
    (s.settle db commits actual latencyMS now).session = s ∧
      (s.settle db commits actual latencyMS now).db = db := by
  revert hfail
  unfold settle
  split
  · exact fun _ => ⟨rfl, rfl⟩
  rename_i hactual
  split
  · exact fun hfail => absurd rfl hfail
  rename_i hopen
  split
  · exact fun _ => ⟨rfl, rfl⟩
  rename_i hresv
  obtain rfl := settleReserve_same h hi hopen hactual hmoves hresv
  split
  · exact fun _ => ⟨rfl, rfl⟩
  split
  · exact fun hfail => absurd rfl hfail
  · exact fun _ => ⟨rfl, rfl⟩

theorem reserve_rolledBack (hmoves : (SessionCall.reserve target).MovesNothing s db commits)
    (hfail : (s.reserve db commits target).result ≠ .ok ()) :
    (s.reserve db commits target).session = s ∧ (s.reserve db commits target).db = db := by
  revert hfail
  unfold reserve
  split
  · exact fun _ => ⟨rfl, rfl⟩
  rename_i htarget
  split
  · exact fun hfail => absurd rfl hfail
  rename_i hguard
  split
  · exact fun _ => ⟨rfl, rfl⟩
  rename_i hresv
  split
  · exact fun hfail => absurd rfl hfail
  rename_i hroll
  -- the reservation succeeded, so the order was active and had enough left
  have hopen : s.Open := fun hended => hguard (hended.elim .inl fun hr => .inr (.inl hr))
  have hheld := h.held_nonneg s (List.mem_of_getElem? hi)
  rw [s.held_of_open hopen] at hheld
  have hmax : s.buyerChargeForQuota target ≤ maxInt64 := buyerCharge_le _ _
  have hdlt : sub64 (s.buyerChargeForQuota target) s.preConsumedQuota =
      s.buyerChargeForQuota target - s.preConsumedQuota :=
    sub64_eq (InInt64.of_nonneg (by omega) (by omega))
  unfold reserveTx at hresv
  rw [if_neg (by omega)] at hresv
  rcases reserveDeltaTx_ok hresv with
    ⟨hnonp, _⟩ | ⟨_, order, hget, hact, hle, _⟩
  · omega
  rcases ((hmoves.resolve_left htarget).resolve_left hroll) order hget with hclose | _
  · exact absurd hact hclose
  · omega

/-- A failed call that moves nothing leaves session and database as they
were. -/
theorem rolledBack {call : SessionCall} (hmoves : call.MovesNothing s db commits)
    (hfail : (call.run s db commits).result ≠ .ok ()) :
    (call.run s db commits).session = s ∧ (call.run s db commits).db = db := by
  cases call with
  | settle => exact settle_rolledBack h hi hmoves hfail
  | reserve => exact reserve_rolledBack h hi hmoves hfail
  | refund => exact hmoves.elim

theorem Ledger.run {call : SessionCall} (hfits : call.Fits s)
    (hok : (call.run s db true).result = .ok ()) :
    Ledger (· = 0) (call.run s db true).db.books (ss.set i (call.run s db true).session) := by
  have hP : ∀ x : Int, x = 0 → 0 ≤ x := fun x hx => hx.ge
  cases call with
  | settle =>
    exact h.settle hP hi (fun _ => hfits) fun hne => absurd hok hne
  | reserve => exact h.reserve hP hi (.inl rfl)
  | refund => exact h.refund hP hi fun hne => absurd hok hne

end

section

variable (h : Ledger (· = 0) db.books ss) (hi : ss[i]? = some s) (hopen : s.Open)
  (hget : db.buyerOrder s.orderID s.buyerUserID = some order)
include h hi hopen hget

/-- A `Settle` that keeps what the session holds has moved nothing. -/
theorem settle_movesNothing (hfits : ChargeFits actual s.platformFeeRateSnapshot)
    (hfail : (s.settle db commits actual latencyMS now).result ≠ .ok ())
    (hkept : (s.settle db commits actual latencyMS now).session.preConsumedQuota =
      s.preConsumedQuota) :
    (SessionCall.settle actual latencyMS now).MovesNothing s db commits := by
  have hrow := (DB.buyerOrder_eq_some.mp hget).1
  obtain ⟨hpre, hrem, hmax⟩ := h.quotas hi hopen hrow
  have hcharge := buyerCharge_nonneg hfits
  by_contra hmoves
  simp only [SessionCall.MovesNothing, hrow, Option.mem_def, Option.some.injEq, forall_eq',
    buyerChargeForQuota, not_or, not_and, not_not] at hmoves
  obtain ⟨hactual, hne, hactive⟩ := hmoves
  generalize hc : marketplaceBuyerChargeWithFee actual s.platformFeeRateSnapshot = charge at *
  have hcapped : marketplaceCapActualFixedOrderBuyerCharge actual s.preConsumedQuota
      order.remainingQuota s.platformFeeRateSnapshot =
      min charge (s.preConsumedQuota + order.remainingQuota) := by
    rw [capped_eq_min hpre hrem hmax, hc]
  have hdelta : sub64 (min charge (s.preConsumedQuota + order.remainingQuota)) s.preConsumedQuota =
      min charge (s.preConsumedQuota + order.remainingQuota) - s.preConsumedQuota :=
    sub64_eq ⟨by unfold maxInt64 at *; omega, by omega⟩
  -- the reservation is moved, and the session goes on with another quota
  obtain ⟨s₁, tx, hok⟩ : ∃ s₁ tx, s.settleReserve db actual = .ok (s₁, tx) := by
    obtain ⟨⟨s₁, tx⟩, hmove⟩ : ∃ moved, s.adjustTx db (sub64 (min charge
        (s.preConsumedQuota + order.remainingQuota)) s.preConsumedQuota) = .ok moved := by
      rw [hdelta]
      unfold adjustTx reserveDeltaTx releaseDeltaTx
      split
      · rw [if_neg (by omega)]
        exact ⟨_, found_seq_ok.mpr ⟨order, hget, require_seq_ok.mpr ⟨(hactive (by omega)).2,
          require_seq_ok.mpr ⟨by omega, rfl⟩⟩⟩⟩
      split
      · split
        · exact ⟨_, rfl⟩
        · exact ⟨_, found_seq_ok.mpr ⟨order, hget, rfl⟩⟩
      · exact ⟨_, rfl⟩
    exact ⟨_, _, found_seq_ok.mpr ⟨order, hrow, seq_ok.mpr ⟨(s₁, tx), hcapped ▸ hmove, rfl⟩⟩⟩
  obtain ⟨row, -, hrow', -, hquota⟩ := settleReserve_ok hok
  obtain rfl := Option.some.inj (hrow.symm.trans hrow')
  have hchanged : s₁.preConsumedQuota ≠ s.preConsumedQuota := by
    rw [hquota, hcapped]
    omega
  revert hfail hkept
  unfold settle
  rw [if_neg hactual, if_neg hopen, hok]
  dsimp only
  split
  · exact fun _ hkept => hchanged hkept
  split
  · exact fun hfail _ => hfail rfl
  · exact fun _ hkept => hchanged hkept

theorem reserve_movesNothing (hfail : (s.reserve db commits target).result ≠ .ok ())
    (hkept : (s.reserve db commits target).session.preConsumedQuota = s.preConsumedQuota) :
    (SessionCall.reserve target).MovesNothing s db commits := by
  have hrow := (DB.buyerOrder_eq_some.mp hget).1
  obtain ⟨hpre, -, -⟩ := h.quotas hi hopen hrow
  have hmax : s.buyerChargeForQuota target ≤ maxInt64 := buyerCharge_le _ _
  by_contra hmoves
  simp only [SessionCall.MovesNothing, hrow, Option.mem_def, Option.some.injEq, forall_eq',
    not_or, not_not, not_lt] at hmoves
  obtain ⟨htarget, hcommits, hactive, hle⟩ := hmoves
  revert hfail hkept
  unfold reserve
  rw [if_neg (not_lt.mpr htarget)]
  split
  · exact fun hfail _ => hfail rfl
  rename_i hguard
  have hmore : s.preConsumedQuota < s.buyerChargeForQuota target :=
    not_le.mp fun hle => hguard (.inr (.inr hle))
  have hdelta : sub64 (s.buyerChargeForQuota target) s.preConsumedQuota =
      s.buyerChargeForQuota target - s.preConsumedQuota :=
    sub64_eq (InInt64.of_nonneg (by omega) (by omega))
  have hok : s.reserveTx db (s.buyerChargeForQuota target) =
      .ok (s.reserved (s.buyerChargeForQuota target - s.preConsumedQuota), db.saveOrder
        (reservedRow order (s.buyerChargeForQuota target - s.preConsumedQuota))) := by
    unfold reserveTx reserveDeltaTx
    rw [if_neg (not_le.mpr hmore), hdelta, if_neg (by omega)]
    exact found_seq_ok.mpr ⟨order, hget, require_seq_ok.mpr ⟨hactive,
      require_seq_ok.mpr ⟨hle, rfl⟩⟩⟩
  rw [hok]
  dsimp only
  intro _ hkept
  have hquota : add64 s.preConsumedQuota (s.buyerChargeForQuota target - s.preConsumedQuota) =
      s.preConsumedQuota := hkept
  rw [add64_eq (InInt64.of_nonneg (by omega) (by omega))] at hquota
  omega

end

end

/-! ### A session that holds 40 of an order of 100 -/

def sampleHolding : World ℚ :=
  exec World.step sampleWorld
    [.create sampleSettings ⟨3, 1, 50, 0⟩ 10,
     .prepare sampleSettings ⟨3, 1, "gpt", 20, "req-1"⟩ 20]

theorem sampleHolding_ledger : Ledger (· = 0) sampleHolding.db.books sampleHolding.sessions := by
  have hrun : Along World.step (fun w op => Committed w op ∧ SettleFits w op) sampleWorld
      [.create sampleSettings ⟨3, 1, 50, 0⟩ 10,
       .prepare sampleSettings ⟨3, 1, "gpt", 20, "req-1"⟩ 20] := by decide +kernel
  exact hrun.invariant (World.Keeps (· = 0)) (fun _ _ h hop => h.step hop.1 hop.2)
    (sampleWorld_fresh.keeps _)

end HermesToken.Marketplace
