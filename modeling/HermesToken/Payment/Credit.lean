import HermesToken.Lib.ReadCommitted
import HermesToken.Payment.CryptoOrder

/-!
# Completions credit at most once

The completions of one top-up order, and the redemptions of one code, as
concurrent transactions on the row. Each reads the row with a `FOR UPDATE`
that takes NO lock, checks the status of its copy, saves the whole row and
adds the quota to the user. The committed credits are the effects.
-/

namespace HermesToken.Payment

open Lib Lib.ReadCommitted

/-! ## Top-up orders -/

/-- The completions of a top-up order. A crypto completion comes with the
other rows it has read: the crypto order and the transaction. -/
inductive CompleteOp where
  | recharge (referenceId : String) (amountTotal : Int)
  | manualCompleteTopUp (tradeNo : String)
  | rechargeCreem (referenceId customerEmail : String) (paid : Paid) (userExists : Bool)
  | rechargeWaffo (tradeNo : String) (paid : Paid)
  | rechargeWaffoPancake (tradeNo : String) (paid : Paid)
  | completeCryptoTopUp (order : CryptoPaymentOrder)
      (existing : Option CryptoPaymentTransaction) (evidence : CryptoTxEvidence)

def CryptoCompletion.topUp : CryptoCompletion → Option Completion
  | .credit _ _ completion => some completion
  | _ => none

def CompleteOp.run (rates : Rates) (now : Int) (topUp : TopUp) :
    CompleteOp → Except String (Option Completion)
  | .recharge referenceId amountTotal =>
    Payment.recharge rates now referenceId amountTotal topUp
  | .manualCompleteTopUp tradeNo => Payment.manualCompleteTopUp rates now tradeNo topUp
  | .rechargeCreem referenceId customerEmail paid userExists =>
    Payment.rechargeCreem now referenceId customerEmail paid userExists topUp
  | .rechargeWaffo tradeNo paid => Payment.rechargeWaffo rates now tradeNo paid topUp
  | .rechargeWaffoPancake tradeNo paid =>
    Payment.rechargeWaffoPancake rates now tradeNo paid topUp
  | .completeCryptoTopUp order existing evidence => do
    let done ← Payment.completeCryptoTopUp rates now evidence order
      (if topUp.id = order.topUpId then some topUp else none) existing
    return done.topUp

open CompleteOp (run)

/-- The callbacks of the payment providers. -/
def CompleteOp.FromProvider : CompleteOp → Prop
  | .manualCompleteTopUp _ | .completeCryptoTopUp .. => False
  | _ => True

/-- What the callback of its provider adds for an order. -/
def callbackQuota (rates : Rates) (topUp : TopUp) : Int :=
  if topUp.paymentProvider = .creem then intPart topUp.amount
  else quotaFromStandardTopUpAmount rates topUp.amount

/-- Every completion checks that the order is pending and leaves it
completed. -/
theorem completeOp_run_some {topUp : TopUp} {op : CompleteOp}
    (h : op.run rates now topUp = .ok (some c)) :
    topUp.status = .pending ∧ ∃ quota, c = topUp.complete now quota ∧
      (op.FromProvider → topUp.tradeNo ≠ "" ∧ quota = callbackQuota rates topUp) := by
  cases op with
  | recharge =>
    simp only [run, recharge, lookup, seq_ok, require_ok,
      return_ok, exists_const, Option.some.injEq] at h
    obtain ⟨⟨htrade, rfl⟩, hstripe, hpend, _, _, _, rfl⟩ := h
    exact ⟨hpend, _, rfl, fun _ => ⟨htrade, by simp [callbackQuota, hstripe]⟩⟩
  | manualCompleteTopUp =>
    simp only [run, manualCompleteTopUp, lookup, seq_ok] at h
    obtain ⟨_, _, h⟩ := h
    split at h
    · cases h
    simp only [require_seq_ok, return_ok, Option.some.injEq] at h
    obtain ⟨hpend, _, _, rfl⟩ := h
    exact ⟨hpend, _, rfl, False.elim⟩
  | rechargeCreem =>
    simp only [run, rechargeCreem, lookup, seq_ok, require_ok,
      return_ok, exists_const, Option.some.injEq] at h
    obtain ⟨⟨htrade, rfl⟩, hcreem, hpend, _, _, _, _, _, rfl⟩ := h
    exact ⟨hpend, _, rfl, fun _ => ⟨htrade, by simp [callbackQuota, hcreem]⟩⟩
  | rechargeWaffo tradeNo paid | rechargeWaffoPancake tradeNo paid =>
    simp only [run, rechargeWaffo, rechargeWaffoPancake, finishWaffo, lookup, seq_ok, require_ok,
      exists_const] at h
    obtain ⟨⟨htrade, rfl⟩, hwaffo, h⟩ := h
    split at h
    · cases h
    simp only [seq_ok, require_ok, return_ok, exists_const, Option.some.injEq] at h
    obtain ⟨hpend, _, _, _, _, _, _, rfl⟩ := h
    exact ⟨hpend, _, rfl, fun _ => ⟨htrade, by simp [callbackQuota, hwaffo]⟩⟩
  | completeCryptoTopUp order =>
    simp only [run, seq_ok, return_ok] at h
    obtain ⟨done, hdone, hc⟩ := h
    rcases completeCryptoTopUp_ok hdone with
      ⟨_, rfl⟩ | ⟨_, _, rfl⟩ | ⟨_, _, t, tx, quota, ht, hpend, _, rfl⟩
    · cases hc
    · cases hc
    obtain ⟨_, rfl⟩ : topUp.id = order.topUpId ∧ topUp = t := by
      simpa using ht
    cases hc
    exact ⟨hpend, _, rfl, False.elim⟩

/-- A completion at a time: it saves the whole row and credits the user. -/
def completions (rates : Rates) : Program (CompleteOp × Int) TopUp Credit :=
  fun op topUp => match op.1.run rates op.2 topUp with
    | .ok (some c) => some { apply := fun _ => c.topUp, effects := [c.credit] }
    | _ => none

/-! ## Redemption codes -/

/-- A call of `Redeem` at a time. -/
structure RedeemOp where
  key : String
  (userId now : Int)

def redemptions : Program RedeemOp Redemption Credit :=
  fun op redemption => match redeem op.now op.key op.userId redemption with
    | .ok (redemption', credit) =>
      some { apply := fun _ => redemption', effects := [credit] }
    | .error _ => none

theorem redeem_ok (h : redeem now key userId redemption = .ok (redemption', credit)) :
    redemption.status = .enabled ∧ redemption'.status = .used := by
  simp only [redeem, require_seq_ok, return_ok, Prod.mk.injEq] at h
  obtain ⟨_, _, _, hon, _, rfl, _⟩ := h
  exact ⟨hon, rfl⟩

/-! ## At most one credit -/

/-- Nothing is credited yet, or one credit is and the row is `done`. -/
def Once {R E : Type*} (done : R → Prop) (row : R) (log : List E) : Prop :=
  log = [] ∨ (log.length = 1 ∧ done row)

/-- A program that writes only rows that are not done, leaves them done, and
credits once each time, credits at most once in every fresh run. -/
theorem Once.exec {Op R E : Type*} {prog : Program Op R E} {done : R → Prop}
    (hprog : ∀ op row change, prog op row = some change →
      ¬ done row ∧ done (change.apply row) ∧ change.effects.length = 1) {row acts}
    (h : Along (Sys.step prog) (Sys.Fresh prog) (Sys.start row) acts) :
    (exec (Sys.step prog) (Sys.start row) acts).log.length ≤ 1 := by
  have hrun := (Sys.serial_rule (Once done) ?_ (Sys.held_start prog row) (.inl rfl) h).2
  · rcases hrun with hnil | ⟨hone, _⟩
    · simp [hnil]
    · omega
  intro op row log change hchg honce
  obtain ⟨hopen, hdone, hone⟩ := hprog op row change hchg
  rcases honce with rfl | ⟨_, hclose⟩
  · exact .inr ⟨by simpa using hone, hdone⟩
  · exact absurd hclose hopen

theorem completions_once (rates : Rates) (op : CompleteOp × Int) (topUp : TopUp)
    (change : Change TopUp Credit) (h : completions rates op topUp = some change) :
    ¬ topUp.status = .success ∧ (change.apply topUp).status = .success ∧
      change.effects.length = 1 := by
  simp only [completions] at h
  split at h
  · rename_i hc
    obtain ⟨hpend, _, rfl, _⟩ := completeOp_run_some hc
    cases h
    exact ⟨by rw [hpend]; decide, rfl, rfl⟩
  · cases h

theorem redemptions_once (op : RedeemOp) (redemption : Redemption)
    (change : Change Redemption Credit) (h : redemptions op redemption = some change) :
    ¬ redemption.status = .used ∧ (change.apply redemption).status = .used ∧
      change.effects.length = 1 := by
  simp only [redemptions] at h
  split at h
  · rename_i hr
    obtain ⟨hon, hused⟩ := redeem_ok hr
    cases h
    exact ⟨by rw [hon]; decide, hused, rfl⟩
  · cases h

/-- **A top-up order and a redemption code credit at most once.** In every
interleaving whose saves find the row as it was read, at most one transaction
adds the quota. -/
theorem topUp_redemption_credited_once (rates : Rates) (topUp : TopUp)
    (acts : List (Act (CompleteOp × Int))) (redemption : Redemption) (redeems : List (Act RedeemOp))
    (hacts : Along (Sys.step (completions rates)) (Sys.Fresh (completions rates))
      (Sys.start topUp) acts) (hredeems : Along (Sys.step redemptions) (Sys.Fresh redemptions)
      (Sys.start redemption) redeems) :
    (exec (Sys.step (completions rates)) (Sys.start topUp) acts).log.length ≤ 1 ∧
      (exec (Sys.step redemptions) (Sys.start redemption) redeems).log.length ≤ 1 :=
  ⟨Once.exec (fun op row change h => completions_once rates op row change h) hacts,
    Once.exec (fun op row change h => redemptions_once op row change h) hredeems⟩

def sampleRates : Rates := ⟨500⟩

/-- A pending order of an external payment. -/
def sampleTopUp : TopUp :=
  { id := 1, userId := 7, amount := 2, money := 2, tradeNo := "T1",
    paymentMethod := .other "alipay", paymentProvider := .epay }

def sampleRedemption : Redemption := { id := 1, key := "K", quota := 30 }

/-- Two completions, and two redemptions, one after the other. -/
theorem topUp_redemption_credited_once_sample :
    (exec (Sys.step (completions sampleRates)) (Sys.start sampleTopUp)
        [.read 0 (.manualCompleteTopUp "T1", 5), .write 0, .commit 0,
          .read 1 (.manualCompleteTopUp "T1", 6), .write 1, .commit 1]).log.length ≤ 1 ∧
      (exec (Sys.step redemptions) (Sys.start sampleRedemption)
        [.read 0 ⟨"K", 7, 5⟩, .write 0, .commit 0,
          .read 1 ⟨"K", 8, 6⟩, .write 1, .commit 1]).log.length ≤ 1 :=
  topUp_redemption_credited_once sampleRates sampleTopUp _ sampleRedemption _
    (by decide +kernel) (by decide +kernel)

/-- Two administrators read the pending order, two users the enabled code.
All four transactions commit: the order is credited twice, and the code once
to each user. -/
theorem topUp_redemption_credited_twice :
    (exec (Sys.step (completions sampleRates)) (Sys.start sampleTopUp)
        [.read 0 (.manualCompleteTopUp "T1", 5), .read 1 (.manualCompleteTopUp "T1", 6),
          .write 0, .commit 0, .write 1, .commit 1]).log = [⟨7, 1000⟩, ⟨7, 1000⟩] ∧
      (exec (Sys.step redemptions) (Sys.start sampleRedemption)
        [.read 0 ⟨"K", 7, 5⟩, .read 1 ⟨"K", 8, 6⟩,
          .write 0, .commit 0, .write 1, .commit 1]).log = [⟨7, 30⟩, ⟨8, 30⟩] := by
  decide +kernel

/-! ## Manual completion -/

def PaymentMethod.text : PaymentMethod → String
  | .stripe => "stripe"
  | .creem => "creem"
  | .waffo => "waffo"
  | .waffoPancake => "waffo_pancake"
  | .wallet => "wallet"
  | .cryptoUSDT => "crypto_usdt"
  | .balance => "balance"
  | .other name => name

/-- `completeEpayTopUp` of `controller/topup.go`, without the data in its errors.
The row and the quota are not written in one transaction. -/
def completeEpayTopUp (rates : Rates) (now : Int) (tradeNo paidType : String)
    (paidMoney : PaidMoney) (topUp : TopUp) : Except String (Option Completion) := do
  require (topUp.tradeNo = tradeNo) "未找到订单"
  if topUp.status = .success then return none
  else
    require (topUp.status = .pending) "订单状态异常"
    require (topUp.paymentProvider = .other "" ∨ topUp.paymentProvider = .epay) "订单支付网关异常"
    require (topUp.paymentMethod ∉ [.stripe, .creem, .waffo, .waffoPancake]) "订单支付方式异常"
    require (paidType ≠ "") "未提供支付方式"
    require (equalFold topUp.paymentMethod.text paidType) "订单支付方式不匹配"
    require (paidMoney ≠ .absent) "未提供支付金额"
    checkMoney topUp paidMoney
    return some (topUp.complete now (quotaFromStandardTopUpAmount rates topUp.amount))

/-- The callback of a provider completes the order. -/
def CallbackCompletes (rates : Rates) (now : Int) (topUp : TopUp) (c : Completion) : Prop :=
  (∃ op : CompleteOp, op.FromProvider ∧ op.run rates now topUp = .ok (some c)) ∨
    ∃ paidType paidMoney,
      completeEpayTopUp rates now topUp.tradeNo paidType paidMoney topUp = .ok (some c)

theorem CallbackCompletes.credits (h : CallbackCompletes rates now topUp c) :
    topUp.status = .pending ∧ c = topUp.complete now (callbackQuota rates topUp) := by
  obtain ⟨op, hprovider, h⟩ | ⟨paidType, paidMoney, h⟩ := h
  · obtain ⟨hpending, quota, rfl, hquota⟩ := completeOp_run_some h
    exact ⟨hpending, by rw [(hquota hprovider).2]⟩
  simp only [completeEpayTopUp, seq_ok, require_ok, exists_const] at h
  obtain ⟨-, h⟩ := h
  split at h
  · cases h
  simp only [seq_ok, require_ok, return_ok, exists_const, Option.some.injEq] at h
  obtain ⟨hpending, hepay, _, _, _, _, _, _, rfl⟩ := h
  refine ⟨hpending, ?_⟩
  obtain hepay | hepay := hepay <;> simp [callbackQuota, hepay]

theorem manualCompleteTopUp_credit {credit : Credit} (hpending : topUp.status = .pending) :
    (∃ c, manualCompleteTopUp rates now topUp.tradeNo topUp = .ok (some c) ∧ c.credit = credit) ↔
      topUp.tradeNo ≠ "" ∧ topUp.paymentMethod ≠ .cryptoUSDT ∧ 0 < manualQuota rates topUp ∧
        credit = ⟨topUp.userId, manualQuota rates topUp⟩ := by
  simp only [manualCompleteTopUp, lookup, seq_ok, require_ok, return_ok, exists_const, hpending,
    reduceCtorEq, if_false, Option.some.injEq, and_true, true_and]
  constructor
  · rintro ⟨_, ⟨htrade, hmethod, hpos, rfl⟩, rfl⟩
    exact ⟨htrade, hmethod, hpos, rfl⟩
  · rintro ⟨htrade, hmethod, hpos, rfl⟩
    exact ⟨_, ⟨htrade, hmethod, hpos, rfl⟩, rfl⟩

/-- **An administrator credits what the callback credits** exactly when the order
has a trade number, is no USDT order and is worth a quota, the Creem method with
another provider makes no difference, and the money of a Stripe order is worth
the same quota as its amount. -/
theorem manual_completion_eq_callback (h : CallbackCompletes rates now topUp c) :
    let worth := if topUp.paymentProvider = .creem then topUp.amount
      else topUp.amount * rates.quotaPerUnit
    (∃ c', manualCompleteTopUp rates now' topUp.tradeNo topUp = .ok (some c') ∧
        c'.credit = c.credit) ↔
      topUp.tradeNo ≠ "" ∧ topUp.paymentMethod ≠ .cryptoUSDT ∧ 1 ≤ worth ∧
        (topUp.paymentMethod = .creem → ⌊topUp.amount⌋ = ⌊worth⌋) ∧
        (topUp.paymentMethod ≠ .creem → topUp.paymentProvider = .stripe →
          ⌊topUp.money * rates.quotaPerUnit⌋ = ⌊worth⌋) := by
  intro worth
  obtain ⟨hpending, rfl⟩ := h.credits
  have hcallback : callbackQuota rates topUp = intPart worth := by
    simp only [callbackQuota, worth, quotaFromStandardTopUpAmount]
    split_ifs <;> rfl
  rw [manualCompleteTopUp_credit hpending]
  refine and_congr_right fun _ => and_congr_right fun _ => ?_
  simp only [TopUp.complete, Credit.mk.injEq, true_and, hcallback]
  -- the quotas are equal, so both are positive when one is
  have hpos : ∀ x : ℚ, 0 < intPart x ∧ intPart worth = intPart x ↔ 1 ≤ worth ∧ ⌊x⌋ = ⌊worth⌋ := by
    intro x
    rw [eq_comm, and_comm, ← intPart_pos]
    constructor
    · rintro ⟨heq, h⟩
      rw [heq] at h
      exact ⟨h, (intPart_eq_iff (intPart_pos.mp h)).mp heq⟩
    · rintro ⟨h, heq⟩
      have := (intPart_eq_iff (intPart_pos.mp h)).mpr heq
      exact ⟨this, this ▸ h⟩
  rw [manualQuota]
  by_cases hmethod : topUp.paymentMethod = .creem
  · simp [hmethod, hpos]
  by_cases hstripe : topUp.paymentProvider = .stripe
  · simp [hmethod, hstripe, hpos]
  by_cases hcreem : topUp.paymentProvider = .creem
  · simp [hmethod, hcreem, intPart_pos, worth]
  · simp [hmethod, hstripe, hcreem, quotaFromStandardTopUpAmount, intPart_pos, worth]

theorem manual_completion_of_sample :
    ∃ c, manualCompleteTopUp sampleRates 6 "T1" sampleTopUp = .ok (some c) ∧
      c.credit = ⟨7, 1000⟩ := by
  have hepay : completeEpayTopUp sampleRates 5 "T1" "Alipay" (.value 2) sampleTopUp =
      .ok (some (sampleTopUp.complete 5 1000)) := by decide +kernel
  exact (manual_completion_eq_callback (.inr ⟨_, _, hepay⟩)).mpr
    (by decide +kernel)

/-- A discounted Stripe order: the callback credits the amount, the
administrator only the money. -/
theorem manual_completion_differs :
    let order := { sampleTopUp with
      paymentMethod := .stripe, paymentProvider := .stripe, amount := 10, money := 8 }
    recharge sampleRates 5 "T1" 800 order = .ok (some (order.complete 5 5000)) ∧
      manualCompleteTopUp sampleRates 5 "T1" order = .ok (some (order.complete 5 4000)) := by
  decide +kernel

end HermesToken.Payment
