import Mathlib.Data.Rat.Floor
import HermesToken.Lib.Int64

/-!
# Buyer charges and platform fees

The charge functions of `marketplace_fixed_order_relay.go`. Quotas are 64-bit
integers. Fee rates and multipliers are floating-point numbers, and the only
things the code does with one are comparisons with zero and a few rounded
products; `FloatOps` lists exactly these, so the results hold for whatever
rounding the hardware does. The rational instance is the exact arithmetic.
-/

namespace HermesToken.Marketplace

open Lib

variable {q : Int}

/-- The floating-point operations the marketplace code performs. The rounded
forms end in a conversion to a 64-bit integer. -/
class FloatOps (F : Type) where
  zero : F
  /-- `x < 0` -/
  isNeg : F → Bool
  /-- `x <= 0` -/
  isNonPos : F → Bool
  /-- `x > 0` -/
  isPos : F → Bool
  isNaN : F → Bool
  isInf : F → Bool
  /-- `int64(math.Round(x * y))` -/
  roundProduct : F → F → Int
  /-- `int64(math.Round(float64(n) * x))` -/
  roundMul : Int → F → Int
  /-- `int64(math.Round(float64(n) * x / (1 + x)))` -/
  roundShare : Int → F → Int
  /-- `int64(math.Round(float64(n) / x))` -/
  roundDiv : Int → F → Int

/-- `math.Round`: to the nearest integer, halves away from zero. -/
def mathRound (x : ℚ) : Int :=
  if 0 ≤ x then (x + 1 / 2).floor else -((-x + 1 / 2).floor)

/-- Conversion of a whole number to `int64`; out of range it gives the
smallest integer. -/
def toInt64 (x : Int) : Int :=
  if -maxInt64 - 1 ≤ x ∧ x ≤ maxInt64 then x else -maxInt64 - 1

instance : FloatOps ℚ where
  zero := 0
  isNeg x := x < 0
  isNonPos x := x ≤ 0
  isPos x := 0 < x
  isNaN _ := false
  isInf _ := false
  roundProduct x y := toInt64 (mathRound (x * y))
  roundMul n x := toInt64 (mathRound (n * x))
  roundShare n x := toInt64 (mathRound (n * x / (1 + x)))
  roundDiv n x := toInt64 (mathRound (n / x))

variable {F : Type} [FloatOps F]

open FloatOps

def marketplaceFeeRateSnapshot (marketplaceFeeRate : F) : F :=
  if isNaN marketplaceFeeRate || isInf marketplaceFeeRate
      || isNeg marketplaceFeeRate then zero
  else marketplaceFeeRate

def marketplacePlatformFeeFromBaseCharge (baseCharge : Int) (feeRate : F) :
    Int :=
  if baseCharge ≤ 0 ∨ isNonPos feeRate ∨ isNaN feeRate ∨ isInf feeRate then 0
  else
    let fee := roundMul baseCharge feeRate
    if fee < 0 then 0 else fee

/-- The sum is a 64-bit addition, so the comparison with the largest integer
that follows it in the source can never hold. -/
def marketplaceBuyerChargeQuotaWithFee (baseCharge : Int) (feeRate : F) :
    Except String Int :=
  if baseCharge ≤ 0 then .ok 0
  else
    let fee := marketplacePlatformFeeFromBaseCharge baseCharge feeRate
    let total := add64 baseCharge fee
    if total > maxInt64 then .error "marketplace buyer charge exceeds supported user quota range"
    else .ok total

def marketplaceBuyerChargeWithFee (baseCharge : Int) (feeRate : F) : Int :=
  match marketplaceBuyerChargeQuotaWithFee baseCharge feeRate with
  | .error _ => maxInt64
  | .ok total => total

def marketplacePlatformFeeFromBuyerCharge (buyerCharge : Int) (feeRate : F) :
    Int :=
  if buyerCharge ≤ 0 ∨ isNonPos feeRate ∨ isNaN feeRate ∨ isInf feeRate then 0
  else
    let fee := roundShare buyerCharge feeRate
    if fee < 0 then 0
    else if fee > buyerCharge then buyerCharge
    else fee

def marketplaceOfficialCostFromBuyerCharge (buyerCharge : Int)
    (multiplier : F) : Int :=
  if buyerCharge ≤ 0 then 0
  else if isNonPos multiplier then buyerCharge
  else
    let officialCost := roundDiv buyerCharge multiplier
    if officialCost ≤ 0 then 1 else officialCost

/-- What `Settle` may charge: the actual charge, but no more than what the
session holds plus what the order has left. -/
def marketplaceCapActualFixedOrderBuyerCharge (actualQuota : Int)
    (preConsumedQuota : Int) (remainingQuota : Int) (feeRate : F) : Int :=
  let targetCharge := marketplaceBuyerChargeWithFee actualQuota feeRate
  if targetCharge ≤ preConsumedQuota then targetCharge
  else
    let maxCharge := add64 preConsumedQuota remainingQuota
    let maxCharge := if maxCharge < 0 then 0 else maxCharge
    let maxCharge := if maxCharge > maxInt64 then maxInt64 else maxCharge
    if targetCharge > maxCharge then maxCharge else targetCharge

/-! ## Range facts -/

theorem feeFromBaseCharge_nonneg (b : Int) (r : F) :
    0 ≤ marketplacePlatformFeeFromBaseCharge b r := by
  unfold marketplacePlatformFeeFromBaseCharge
  split
  · exact le_refl 0
  · dsimp only
    split <;> omega

theorem feeFromBuyerCharge_bounds (hc : 0 ≤ c)
    (r : F) : 0 ≤ marketplacePlatformFeeFromBuyerCharge c r
      ∧ marketplacePlatformFeeFromBuyerCharge c r ≤ c := by
  unfold marketplacePlatformFeeFromBuyerCharge
  split
  · exact ⟨le_refl 0, hc⟩
  dsimp only
  split
  · exact ⟨le_refl 0, hc⟩
  · split <;> omega

/-- The charge for `quota`, fee included, is a 64-bit integer. This is what
the source's comparison with the largest integer was meant to check. -/
def ChargeFits (quota : Int) (feeRate : F) : Prop :=
  quota ≤ 0 ∨
    quota + marketplacePlatformFeeFromBaseCharge quota feeRate ≤ maxInt64

instance (feeRate : F) : Decidable (ChargeFits quota feeRate) :=
  inferInstanceAs (Decidable (_ ∨ _))

theorem buyerCharge_of_nonpos (hq : q ≤ 0) (r : F) : marketplaceBuyerChargeWithFee q r = 0 := by
  unfold marketplaceBuyerChargeWithFee marketplaceBuyerChargeQuotaWithFee
  rw [if_pos hq]

theorem buyerCharge_of_pos {r : F} (h : ChargeFits q r) (hq : 0 < q) :
    marketplaceBuyerChargeWithFee q r = q + marketplacePlatformFeeFromBaseCharge q r := by
  have hfee := feeFromBaseCharge_nonneg q r
  have hsum := h.resolve_left (by omega)
  unfold marketplaceBuyerChargeWithFee marketplaceBuyerChargeQuotaWithFee
  rw [if_neg (by omega)]
  dsimp only
  rw [add64_eq (InInt64.of_nonneg (by omega) hsum), if_neg (by omega)]

/-- A charge that fits is not negative, and it is a 64-bit integer. -/
theorem buyerCharge_bounds {r : F} (h : ChargeFits q r) :
    0 ≤ marketplaceBuyerChargeWithFee q r ∧ marketplaceBuyerChargeWithFee q r ≤ maxInt64 := by
  have hfee := feeFromBaseCharge_nonneg q r
  by_cases hq : q ≤ 0
  · rw [buyerCharge_of_nonpos hq]
    decide
  · rw [buyerCharge_of_pos h (by omega)]
    exact ⟨by omega, h.resolve_left hq⟩

theorem buyerCharge_nonneg {r : F} (h : ChargeFits q r) : 0 ≤ marketplaceBuyerChargeWithFee q r :=
  (buyerCharge_bounds h).1

/-- **The cap**: with a representable charge, what `Settle` charges is between
zero and what the session holds plus what the order has left. -/
theorem capBuyerCharge_bounds {pre rem : Int} {r : F}
    (hfit : ChargeFits q r) (hpre : 0 ≤ pre) (hrem : 0 ≤ rem) (hmax : pre + rem ≤ maxInt64) :
    0 ≤ marketplaceCapActualFixedOrderBuyerCharge q pre rem r ∧
      marketplaceCapActualFixedOrderBuyerCharge q pre rem r ≤ pre + rem := by
  have hnn := buyerCharge_nonneg hfit
  unfold marketplaceCapActualFixedOrderBuyerCharge
  dsimp only
  rw [add64_eq (InInt64.of_nonneg (by omega) hmax)]
  split
  · omega
  · split <;> omega

/-! ## The fee and back, over the rationals -/

theorem mathRound_bounds (hx : 0 ≤ x) : mathRound x - 1 / 2 ≤ x ∧ x < mathRound x + 1 / 2 := by
  rw [mathRound, if_pos hx]
  have hle := Rat.le_floor_iff.mp (le_refl (x + 1 / 2).floor)
  have hlt := Rat.floor_lt_iff.mp (Int.lt_succ (x + 1 / 2).floor)
  push_cast at hlt
  constructor <;> linarith

theorem mathRound_eq {x : ℚ} {n : Int} (hx : 0 ≤ x) (hle : n - 1 / 2 ≤ x) (hlt : x < n + 1 / 2) :
    mathRound x = n := by
  obtain ⟨_, _⟩ := mathRound_bounds hx
  have h₁ : (mathRound x : ℚ) < n + 1 := by linarith
  have h₂ : (n : ℚ) < mathRound x + 1 := by linarith
  norm_cast at h₁ h₂
  omega

theorem mathRound_zero : mathRound 0 = 0 :=
  mathRound_eq le_rfl (by norm_num) (by norm_num)

theorem mathRound_nonneg (hx : 0 ≤ x) : 0 ≤ mathRound x := by
  have h := (mathRound_bounds hx).2
  have hpos : (0 : ℚ) < mathRound x + 1 := by linarith
  norm_cast at hpos
  omega

theorem toInt64_of_nonneg (hn : 0 ≤ n) (hmax : n ≤ maxInt64) : toInt64 n = n := by
  rw [toInt64, if_pos ⟨le_trans (by decide) hn, hmax⟩]

section

variable {b : Int} {r : ℚ}

/-- The fee put on a base charge is less than one half away from `b * r`, and
the share taken out of the total is nearer to it still: the error is divided
by `1 + r`. -/
theorem mathRound_share (hb : 0 ≤ b) (hr : 0 ≤ r) :
    mathRound ((b + mathRound (b * r) : Int) * r / (1 + r)) = mathRound (b * r) := by
  have hb' : (0 : ℚ) ≤ b := by exact_mod_cast hb
  have hnn := mathRound_nonneg (mul_nonneg hb' hr)
  obtain ⟨_, _⟩ := mathRound_bounds (mul_nonneg hb' hr)
  have hf : (0 : ℚ) ≤ mathRound (b * r) := by exact_mod_cast hnn
  have hpos : 0 < 1 + r := by linarith
  push_cast
  refine mathRound_eq (by positivity) ?_ ?_
  · rw [le_div_iff₀ hpos]
    linarith
  · rw [div_lt_iff₀ hpos]
    linarith

theorem feeFromBaseCharge_eq (hb : 0 ≤ b) (hr : 0 ≤ r) (hfit : mathRound (b * r) ≤ maxInt64) :
    marketplacePlatformFeeFromBaseCharge b r = mathRound (b * r) := by
  have hnn := mathRound_nonneg (mul_nonneg (Int.cast_nonneg hb) hr)
  have hround : roundMul b r = mathRound (b * r) := toInt64_of_nonneg hnn hfit
  unfold marketplacePlatformFeeFromBaseCharge
  split
  · rename_i hzero
    have hprod : (b : ℚ) * r = 0 := by
      rcases hzero with h | h | h | h
      · rw [show b = 0 by omega]; simp
      · rw [le_antisymm (of_decide_eq_true h) hr, mul_zero]
      · cases h
      · cases h
    rw [hprod, mathRound_zero]
  · rw [hround, if_neg (by omega)]

/-- **The round trip**: the fee found in a buyer charge is the one that was put
on the base charge. -/
theorem feeFromBuyerCharge_eq (hb : 0 ≤ b) (hr : 0 ≤ r) (hfit : b + mathRound (b * r) ≤ maxInt64) :
    marketplacePlatformFeeFromBuyerCharge (b + mathRound (b * r)) r = mathRound (b * r) := by
  have hnn := mathRound_nonneg (mul_nonneg (Int.cast_nonneg hb) hr)
  have hround : roundShare (b + mathRound (b * r)) r = mathRound (b * r) := by
    show toInt64 (mathRound (_ * r / (1 + r))) = _
    rw [mathRound_share hb hr]
    exact toInt64_of_nonneg hnn (by omega)
  unfold marketplacePlatformFeeFromBuyerCharge
  split
  · rename_i hzero
    rcases hzero with h | h | h | h
    · omega
    · rw [le_antisymm (of_decide_eq_true h) hr, mul_zero, mathRound_zero]
    · cases h
    · cases h
  · rw [hround, if_neg (by omega), if_neg (by omega)]

theorem buyerCharge_eq (hb : 0 < b) (hr : 0 ≤ r) (hfit : b + mathRound (b * r) ≤ maxInt64) :
    marketplaceBuyerChargeWithFee b r = b + mathRound (b * r) := by
  have hfee := feeFromBaseCharge_eq hb.le hr (by omega)
  rw [buyerCharge_of_pos (.inr (by rw [hfee]; exact hfit)) hb, hfee]

/-- Past the 64-bit integers the charge wraps to a negative number or has no fee,
and less is found in it than was to be put on it. -/
theorem feeFromBuyerCharge_lt (hb : 0 < b) (hmax : b ≤ maxInt64) (hr : 0 ≤ r)
    (hpast : maxInt64 < b + mathRound (b * r)) :
    marketplacePlatformFeeFromBuyerCharge (marketplaceBuyerChargeWithFee b r) r <
      mathRound (b * r) := by
  have hcharge : marketplaceBuyerChargeWithFee b r =
      add64 b (marketplacePlatformFeeFromBaseCharge b r) := by
    unfold marketplaceBuyerChargeWithFee marketplaceBuyerChargeQuotaWithFee
    rw [if_neg (by omega)]
    simp only [add64, gt_iff_lt, not_lt.mpr (wrap64_le _), if_false]
  by_cases hlarge : mathRound (b * r) ≤ maxInt64
  · have hneg : marketplaceBuyerChargeWithFee b r ≤ 0 := by
      rw [hcharge, feeFromBaseCharge_eq hb.le hr hlarge, add64, wrap64, Int.bmod]
      unfold maxInt64 at *
      split <;> omega
    rw [marketplacePlatformFeeFromBuyerCharge, if_pos (.inl hneg)]
    omega
  · have hnone : marketplacePlatformFeeFromBaseCharge b r = 0 := by
      have hround : roundMul b r = -maxInt64 - 1 := if_neg fun h => hlarge h.2
      unfold marketplacePlatformFeeFromBaseCharge
      split
      · rfl
      · rw [hround]
        decide
    have hbounds := feeFromBuyerCharge_bounds hb.le r
    rw [hcharge, hnone, add64_eq (.of_nonneg (by omega) (by omega)), add_zero]
    omega

end

end HermesToken.Marketplace
