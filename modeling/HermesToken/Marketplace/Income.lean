import HermesToken.Marketplace.Market

/-!
# The seller's income

The buyer pays a base charge plus a fee, `Settle` finds the fee again in what
was paid, and the seller gets the rest. Over the rationals the two roundings
cancel, so the income is the base charge, for fixed orders and for the pool.
-/

namespace HermesToken.Marketplace

open Lib
open Billing (Accounts)
open MarketplaceFixedOrderBillingSession (closeExhausted settleRecord_ok)

/-- Every new settlement pays `income`, and a success leaves one for the
request. -/
structure RecordsIncome {F : Type} (old new : List (MarketplaceSettlement F)) (requestID : String)
    (income : Int) (success : Prop) : Prop where
  added : ∀ row ∈ new, row ∈ old ∨ row.sellerIncome = income
  recorded : success → ∃ row ∈ new, row.requestID = requestID

namespace RecordsIncome

variable {F : Type} {income : Int}
  {success : Prop}

/-- A call that fails, and one on a closed session, records nothing. -/
theorem of_failure (h : ¬ success) : RecordsIncome old old requestID income success :=
  ⟨fun _ => .inl, fun hs => absurd hs h⟩

theorem create
    (h : createReleasedMarketplaceSettlementTx db st now = .ok db') (hold : old = db.settlements)
    (hnew : new = db'.settlements) (hchg : 0 < st.buyerCharge) (hid : requestID = st.requestID)
    (hinc : st.sellerIncome = income) : RecordsIncome old new requestID income success := by
  subst hold hnew hid hinc
  by_cases hfrs : ∃ row ∈ db.settlements, row.requestID = st.requestID
  · obtain ⟨row, hrow, hid⟩ := hfrs
    rcases createReleased_ok h with rfl | ⟨hpay, -⟩
    · exact ⟨fun _ => .inl, fun _ => ⟨row, hrow, hid⟩⟩
    · exact absurd hid (hpay.fresh row hrow)
  have hsettle : db'.settlements = db.settlements ++ [st.released now] := by
    unfold createReleasedMarketplaceSettlementTx at h
    rw [if_neg (not_le.mpr hchg)] at h
    simp only [require_seq_ok] at h
    obtain ⟨-, -, -, -, h⟩ := h
    rw [if_neg (by simpa using hfrs)] at h
    split at h
    · cases h
      rfl
    obtain ⟨-, h⟩ := require_seq_ok.mp h
    cases h
    exact DB.addUserQuota_settlements ..
  rw [hsettle]
  refine ⟨fun row hrow => ?_, fun _ => ⟨st.released now, by simp, rfl⟩⟩
  rcases List.mem_append.mp hrow with hrow | hrow
  · exact .inl hrow
  · rw [List.mem_singleton.mp hrow]
    exact .inr rfl

end RecordsIncome

section

variable {b : Int} {r : ℚ}

section

variable (hb : 0 < b) (hr : 0 ≤ r) (hfit : b + mathRound (b * r) ≤ maxInt64)
include hb hr hfit

theorem charge_less_fee :
    0 < marketplaceBuyerChargeWithFee b r ∧
      marketplaceBuyerChargeWithFee b r - marketplacePlatformFeeFromBuyerCharge
        (marketplaceBuyerChargeWithFee b r) r = b := by
  have hnn := mathRound_nonneg (mul_nonneg (Int.cast_nonneg hb.le) hr)
  rw [buyerCharge_eq hb hr hfit, feeFromBuyerCharge_eq hb.le hr hfit]
  constructor <;> omega

theorem settle_recordsIncome {s : MarketplaceFixedOrderBillingSession ℚ} {db : DB ℚ}
    (hrate : s.platformFeeRateSnapshot = r) (hcap : ∀ order, db.orders.get s.orderID = some order →
      marketplaceCapActualFixedOrderBuyerCharge b s.preConsumedQuota order.remainingQuota r =
        marketplaceBuyerChargeWithFee b r) (commits : Bool) (latencyMS now : Int) :
    let c := s.settle db commits b latencyMS now
    RecordsIncome db.settlements c.db.settlements s.requestID b
      (s.settled = false ∧ s.refunded = false ∧ c.result = .ok ()) := by
  obtain ⟨_, hinc⟩ := charge_less_fee hb hr hfit
  unfold MarketplaceFixedOrderBillingSession.settle
  rw [if_neg (by omega)]
  split
  · rename_i hclose
    exact .of_failure fun h => by simp [h.1, h.2.1] at hclose
  split
  · exact .of_failure fun h => nomatch h.2.2
  rename_i s' tx hresv
  split
  · exact .of_failure fun h => nomatch h.2.2
  rename_i db' hrec
  split
  swap
  · exact .of_failure fun h => nomatch h.2.2
  -- the session of the second half holds the charge, and is otherwise the old one
  have hsess := (settleReserve_adjusted hresv).1.session
  have hquo : s'.preConsumedQuota = marketplaceBuyerChargeWithFee b r := by
    obtain ⟨order, hget, h⟩ := found_seq_ok.mp hresv
    obtain ⟨_, -, h⟩ := seq_ok.mp h
    obtain ⟨rfl, -⟩ := Prod.mk.inj (Except.ok.inj h)
    rw [← hcap order hget, ← hrate]
  have hsame : tx.settlements = db.settlements := by
    rcases settleReserve_db hresv with rfl | ⟨_, rfl⟩ <;> rfl
  obtain ⟨order, latency, tx', _, _, _, htx, -, -, rfl⟩ := settleRecord_ok hrec
  have hsettle : (closeExhausted tx' order).settlements = tx'.settlements := by
    unfold closeExhausted
    split <;> rfl
  refine .create htx hsame.symm hsettle (show 0 < s'.preConsumedQuota by omega) ?_ ?_
  · rw [hsess]
    rfl
  have hrate' : s'.platformFeeRateSnapshot = r := by rw [hsess]; exact hrate
  show s'.preConsumedQuota - marketplacePlatformFeeFromBuyerCharge s'.preConsumedQuota
    s'.platformFeeRateSnapshot = b
  rw [hquo, hrate']
  exact hinc

theorem poolSettle_recordsIncome {s : MarketplacePoolRelaySession ℚ}
    (hrate : s.platformFeeRateSnapshot = r) (commits releases : Bool) (latencyMS now : Int) :
    let c := s.settle d commits releases (marketplaceBuyerChargeWithFee b r) latencyMS now
    RecordsIncome d.db.settlements c.store.db.settlements s.requestID b
      (s.settled = false ∧ c.result = .ok ()) := by
  obtain ⟨hpos, hinc⟩ := charge_less_fee hb hr hfit
  have hfree := (releaseCapacity_records s d releases).1
  unfold MarketplacePoolRelaySession.settle
  rw [if_neg (by omega)]
  split
  · rename_i hclose
    exact .of_failure fun h => by simp [h.1] at hclose
  split
  · dsimp only
    rw [hfree]
    exact .of_failure fun h => nomatch h.2
  rename_i hsettle
  split
  swap
  · dsimp only
    rw [hfree]
    exact .of_failure fun h => nomatch h.2
  obtain ⟨_, _, _, -, -, htx, -, -, rfl⟩ := settleTx_ok hsettle
  refine .create htx rfl rfl hpos rfl ?_
  show marketplaceBuyerChargeWithFee b r - marketplacePlatformFeeFromBuyerCharge _
    s.platformFeeRateSnapshot = b
  rw [hrate]
  exact hinc

end

/-- **The fee round trip.** The fee found in the charge of `b` is the one put
on it, and what a settlement pays the seller is `b` when the order does not cap the
charge, exactly when the charge with the fee is a 64-bit integer. -/
theorem seller_income_is_base_charge (hb : 1 ≤ b) (hmax : b ≤ maxInt64) (hr : 0 ≤ r) :
    (marketplacePlatformFeeFromBuyerCharge (marketplaceBuyerChargeWithFee b r) r =
        mathRound (b * r) ∧
    (∀ (s : MarketplaceFixedOrderBillingSession ℚ) (db : DB ℚ) (commits : Bool)
        (latencyMS now : Int), s.platformFeeRateSnapshot = r →
      (∀ order, db.orders.get s.orderID = some order →
        marketplaceCapActualFixedOrderBuyerCharge b s.preConsumedQuota order.remainingQuota r =
          marketplaceBuyerChargeWithFee b r) →
      let c := s.settle db commits b latencyMS now
      RecordsIncome db.settlements c.db.settlements s.requestID b
        (s.settled = false ∧ s.refunded = false ∧ c.result = .ok ())) ∧
    (∀ (s : MarketplacePoolBillingSession ℚ) (acc : Accounts) (d : PoolDB ℚ) (w : PoolWrites),
      s.pool.platformFeeRateSnapshot = r →
      let c := s.settle acc d w b
      RecordsIncome d.db.settlements c.store.db.settlements s.pool.requestID b
        (s.pool.settled = false ∧ c.result = .ok ()))) ↔
    b + mathRound (b * r) ≤ maxInt64 := by
  constructor
  · rintro ⟨hfee, -⟩
    by_contra hpast
    exact (feeFromBuyerCharge_lt hb hmax hr (not_le.mp hpast)).ne hfee
  intro hfit
  refine ⟨?_, ?_, ?_⟩
  · rw [buyerCharge_eq hb hr hfit]
    exact feeFromBuyerCharge_eq (by omega) hr hfit
  · intro s db commits latencyMS now hrate hcap
    exact settle_recordsIncome hb hr hfit hrate hcap commits latencyMS now
  intro s acc d w hrate
  have hpool := poolSettle_recordsIncome hb hr hfit (d := d) hrate w.commits w.releases
    w.latencyMS w.now
  unfold MarketplacePoolBillingSession.settle
  rw [hrate]
  dsimp only
  split
  · exact hpool
  split
  · dsimp only
    rw [(releaseCapacity_records s.pool d w.releases).1]
    exact .of_failure fun h => nomatch h.2
  · exact hpool

end

/-- A base charge of 3 at rate 1/2 has a fee of 1.5, rounded to 2, and pays the
seller 3. -/
theorem seller_income_is_base_charge_sample :
    marketplacePlatformFeeFromBuyerCharge (marketplaceBuyerChargeWithFee 3 (1 / 2 : ℚ))
        (1 / 2 : ℚ) =
        mathRound ((3 : Int) * (1 / 2)) ∧
      (exec World.step sampleWorld
        [.create { sampleSettings with feeRate := 1 / 2 } ⟨3, 1, 50, 0⟩ 10,
         .prepare sampleSettings ⟨3, 1, "gpt", 0, "req-1"⟩ 20, .settle 0 3 5 30]).db.settlements.map
        (fun row => (row.buyerCharge, row.sellerIncome)) = [(5, 3)] :=
  ⟨((@seller_income_is_base_charge 3 (1 / 2) (by decide) (by decide) (by decide +kernel)).mpr
    (by decide +kernel)).1, by decide +kernel⟩

/-- **A charge that wraps.** At rate 1 the charge for `2^62` is `2^63`, which
wraps to a negative number: no fee is found in it, `Settle` succeeds, and no
settlement pays the seller. -/
theorem seller_income_lost :
    marketplaceBuyerChargeWithFee (2 ^ 62) (1 : ℚ) = -2 ^ 63 ∧
    marketplacePlatformFeeFromBuyerCharge (marketplaceBuyerChargeWithFee (2 ^ 62) (1 : ℚ)) (1 : ℚ) ≠
      mathRound ((2 ^ 62 : Int) * 1) ∧
    Along World.step Committed sampleWorld (samplePurchase ++ [.settle 0 (2 ^ 62) 5 30]) ∧
    (exec World.step sampleWorld (samplePurchase ++ [.settle 0 (2 ^ 62) 5 30])).db.settlements =
      [] := by
  decide +kernel

end HermesToken.Marketplace
