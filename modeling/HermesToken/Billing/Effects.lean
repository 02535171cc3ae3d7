import HermesToken.Billing.Session

/-!
# What the session calls do to the balances

One lemma for each call of a billing session. The accounts are compared with
an earlier state `acc₀` by the net debit of the funding source and of the
token. `take` and `takeToken` are the two changes a call can make; every
other lemma says which of them it made, and when it made none.
-/

namespace HermesToken.Billing

open Lib FundingSource Accounts

/-! ## What the balance operations do -/

/-- The accounts after the funding source paid `n`. -/
def Accounts.take (acc : Accounts) (f : FundingSource) (n : Int) : Accounts :=
  match f with
  | .wallet _ => { acc with userQuota := acc.userQuota - n }
  | .subscription _ _ => { acc with amountUsed := acc.amountUsed + n }

/-- The accounts after the token paid `n`; the playground has none. -/
def Accounts.takeToken (acc : Accounts) (info : RelayInfo) (n : Int) : Accounts :=
  if info.isPlayground then acc else { acc with remainQuota := acc.remainQuota - n }

/-- The net debit of the funding source since `acc₀`. -/
def fundingDebit (f : FundingSource) (acc₀ acc : Accounts) : Int :=
  match f with
  | .wallet _ => acc₀.userQuota - acc.userQuota
  | .subscription _ _ => acc.amountUsed - acc₀.amountUsed

/-- The net debit of the token since `acc₀`. -/
def tokenDebit (acc₀ acc : Accounts) : Int := acc₀.remainQuota - acc.remainQuota

/-- The part of `n` that falls on the token. -/
def tokenShare (info : RelayInfo) (n : Int) : Int :=
  if info.isPlayground then 0 else n

variable {acc acc₀ : Accounts} {f : FundingSource} {n delta : Int}
  {ok : Bool} {info : RelayInfo} {s : BillingSession}

@[simp] theorem fundingDebit_self : fundingDebit f acc acc = 0 := by
  cases f <;> simp [fundingDebit]

@[simp] theorem tokenDebit_self : tokenDebit acc acc = 0 := by
  simp [tokenDebit]

@[simp] theorem fundingDebit_take :
    fundingDebit f acc₀ (acc.take f n) = fundingDebit f acc₀ acc + n := by
  cases f <;> simp [fundingDebit, take] <;> omega

@[simp] theorem fundingDebit_takeToken :
    fundingDebit f acc₀ (acc.takeToken info n) = fundingDebit f acc₀ acc := by
  unfold takeToken
  cases f <;> split <;> rfl

@[simp] theorem tokenDebit_take : tokenDebit acc₀ (acc.take f n) = tokenDebit acc₀ acc := by
  cases f <;> rfl

@[simp] theorem tokenDebit_takeToken :
    tokenDebit acc₀ (acc.takeToken info n) = tokenDebit acc₀ acc + tokenShare info n := by
  unfold takeToken tokenShare tokenDebit
  split <;> simp; omega

theorem tokenShare_add :
    tokenShare info (n + m) = tokenShare info n + tokenShare info m := by
  unfold tokenShare
  split <;> simp

@[simp] theorem take_record : (acc.take f n).record = acc.record := by
  cases f <;> rfl

@[simp] theorem take_remainQuota : (acc.take f n).remainQuota = acc.remainQuota := by
  cases f <;> rfl

@[simp] theorem takeToken_record : (acc.takeToken info n).record = acc.record := by
  unfold takeToken
  split <;> rfl

@[simp] theorem write_ok_iff : write ok acc = .ok acc' ↔ ok ∧ acc = acc' := by
  unfold write
  cases ok <;> simp

@[simp] theorem decreaseUserQuota_ok_iff : decreaseUserQuota acc n ok = .ok acc' ↔
    0 ≤ n ∧ ok ∧ { acc with userQuota := acc.userQuota - n } = acc' := by
  unfold decreaseUserQuota
  split <;> simp <;> omega

@[simp] theorem increaseUserQuota_ok_iff : increaseUserQuota acc n ok = .ok acc' ↔
    0 ≤ n ∧ ok ∧ { acc with userQuota := acc.userQuota + n } = acc' := by
  unfold increaseUserQuota
  split <;> simp <;> omega

@[simp] theorem decreaseTokenQuota_ok_iff : decreaseTokenQuota acc n ok = .ok acc' ↔
    0 ≤ n ∧ ok ∧ { acc with remainQuota := acc.remainQuota - n } = acc' := by
  unfold decreaseTokenQuota
  split <;> simp <;> omega

@[simp] theorem increaseTokenQuota_ok_iff : increaseTokenQuota acc n ok = .ok acc' ↔
    0 ≤ n ∧ ok ∧ { acc with remainQuota := acc.remainQuota + n } = acc' := by
  unfold increaseTokenQuota
  split <;> simp <;> omega

/-- Whether a change of the used amount by `delta` stays within the total. -/
def withinTotal (acc : Accounts) (delta : Int) : Bool :=
  decide (¬(acc.amountTotal > 0 ∧ acc.amountUsed + delta > acc.amountTotal))

/-- Above zero the clamp does nothing, and the operation is exactly the change
by `delta` within the total. -/
theorem postConsume_ok_iff (hd : delta ≠ 0) (h : 0 ≤ acc.amountUsed + delta) :
    postConsumeUserSubscriptionDelta acc delta ok = .ok acc' ↔
      withinTotal acc delta ∧ ok ∧
        { acc with amountUsed := acc.amountUsed + delta } = acc' := by
  have hclamp : ¬ acc.amountUsed + delta < 0 := by omega
  simp only [postConsumeUserSubscriptionDelta, withinTotal, if_neg hd, if_neg hclamp,
    decide_eq_true_eq]
  split <;> simp_all

section

variable (f acc delta)

/-- Whether the funding source accepts a change by `delta`. -/
def FundingSource.accepts (ok : Bool) : Bool :=
  ok && (!f.isSubscription || withinTotal acc delta)

/-- The used amount of a subscription does not fall below zero. -/
def FundingSource.AboveZero : Prop :=
  f.isSubscription = true → 0 ≤ acc.amountUsed + delta

end

instance : Decidable (FundingSource.AboveZero acc f delta) := inferInstanceAs (Decidable (_ → _))

theorem FundingSource.settle_ok (h : f.settle acc delta ok = .ok acc')
    (hz : f.AboveZero acc delta) (hd : delta ≠ 0) : acc' = acc.take f delta := by
  cases f with simp only [settle, if_neg hd] at h
  | wallet =>
    by_cases hpos : delta > 0
    · rw [if_pos hpos] at h
      simp only [decreaseUserQuota_ok_iff] at h
      exact h.2.2.symm
    rw [if_neg hpos] at h
    simp only [increaseUserQuota_ok_iff] at h
    rw [← h.2.2]
    simp [take, Int.sub_eq_add_neg]
  | subscription =>
    rw [postConsume_ok_iff hd (hz rfl)] at h
    exact h.2.2.symm

theorem FundingSource.settle_refused (h : f.accepts acc delta ok = false)
    (hd : delta ≠ 0) : ∃ e, f.settle acc delta ok = .error e := by
  cases hs : f.settle acc delta ok with
  | error e => exact ⟨e, rfl⟩
  | ok =>
  exfalso
  cases f with
  | wallet =>
    have hok : ok = false := by simpa [accepts, isSubscription] using h
    subst hok
    simp only [settle, if_neg hd] at hs
    split at hs <;> simp at hs
  | subscription =>
    have hlim : ok →
        acc.amountTotal > 0 ∧ acc.amountUsed + delta > acc.amountTotal := by
      simpa [accepts, isSubscription, withinTotal] using h
    simp only [settle, postConsumeUserSubscriptionDelta, if_neg hd] at hs
    split at hs <;> split at hs <;> simp at hs <;>
      exact absurd (hlim hs.1) (by omega)

/-- The wallet counts what it reserves, the subscription does not. -/
def FundingSource.counted (f : FundingSource) (delta : Int) : FundingSource :=
  match f with
  | .wallet consumed => .wallet (consumed + delta)
  | .subscription amount preConsumed => .subscription amount preConsumed

theorem reserveFunding_ok (h : s.reserveFunding acc delta ok = .ok (f', acc'))
    (hz : s.funding.AboveZero acc delta) (hd : 0 < delta) :
    f' = s.funding.counted delta ∧ acc' = acc.take s.funding delta ∧
      s.funding.accepts acc delta ok := by
  cases hf : s.funding with
  | wallet =>
    simp only [BillingSession.reserveFunding, hf, seq_ok, return_ok,
      decreaseUserQuota_ok_iff, Prod.mk.injEq] at h
    obtain ⟨_, ⟨_, hok, rfl⟩, rfl, rfl⟩ := h
    exact ⟨rfl, rfl, by simp [accepts, isSubscription, hok]⟩
  | subscription =>
    have hz' : 0 ≤ acc.amountUsed + delta := hz (by rw [hf]; rfl)
    simp only [BillingSession.reserveFunding, hf, seq_ok, return_ok,
      postConsume_ok_iff (show delta ≠ 0 by omega) hz', Prod.mk.injEq] at h
    obtain ⟨_, ⟨hw, hok, rfl⟩, rfl, rfl⟩ := h
    exact ⟨rfl, rfl, by simp [accepts, hok, hw]⟩

theorem rollbackFundingReserve_reserved (h : s.reserveFunding acc delta ok = .ok (f', acc'))
    (hz : s.funding.AboveZero acc 0) (hd : 0 < delta) :
    BillingSession.rollbackFundingReserve f' acc' delta true = (s.funding, acc) := by
  cases hf : s.funding with
  | wallet =>
    simp only [BillingSession.reserveFunding, hf, seq_ok, return_ok,
      decreaseUserQuota_ok_iff, Prod.mk.injEq] at h
    obtain ⟨_, ⟨_, _, rfl⟩, rfl, rfl⟩ := h
    have hneg : ¬ delta < 0 := by omega
    simp [BillingSession.rollbackFundingReserve, increaseUserQuota, write, hneg]
  | subscription =>
    have hz' : 0 ≤ acc.amountUsed + 0 := hz (by rw [hf]; rfl)
    simp only [BillingSession.reserveFunding, hf, seq_ok, return_ok,
      postConsume_ok_iff (show delta ≠ 0 by omega)
        (show 0 ≤ acc.amountUsed + delta by omega), Prod.mk.injEq] at h
    obtain ⟨_, ⟨hw, _, rfl⟩, rfl, rfl⟩ := h
    -- the reservation was within the total, so giving it back is too
    have hback : postConsumeUserSubscriptionDelta
        { acc with amountUsed := acc.amountUsed + delta } (-delta) true = .ok acc := by
      rw [postConsume_ok_iff (by omega) (by simp; omega)]
      refine ⟨?_, rfl, by simp only [Int.add_neg_cancel_right]⟩
      simp only [withinTotal, decide_eq_true_eq] at hw ⊢
      omega
    simp [BillingSession.rollbackFundingReserve, hback]

theorem settleToken_ok (h : s.settleToken acc delta ok = .ok acc') :
    acc' = acc.takeToken s.relayInfo delta := by
  simp only [BillingSession.settleToken] at h
  by_cases hp : s.relayInfo.isPlayground
  · rw [if_pos hp] at h
    simp [takeToken, hp, ← Except.ok.inj h]
  rw [if_neg hp] at h
  by_cases hpos : delta > 0
  · rw [if_pos hpos, decreaseTokenQuota_ok_iff] at h
    simp [takeToken, hp, ← h.2.2]
  · rw [if_neg hpos, increaseTokenQuota_ok_iff] at h
    simp [takeToken, hp, ← h.2.2, Int.sub_eq_add_neg]

/-- Whether the token step of a reservation goes through. -/
def tokenAccepts (info : RelayInfo) (acc : Accounts) (delta : Int) (ok : Bool) : Bool :=
  info.isPlayground || (ok && (info.tokenUnlimited || decide (delta ≤ acc.remainQuota)))

theorem reserveToken_ok (h : s.reserveToken acc delta ok = .ok acc') (hd : 0 < delta) :
    acc' = acc.takeToken s.relayInfo delta := by
  simp only [BillingSession.reserveToken, preConsumeTokenQuota] at h
  by_cases hp : s.relayInfo.isPlayground
  · rw [if_pos (.inr hp)] at h
    simp [takeToken, hp, ← Except.ok.inj h]
  rw [if_neg (show ¬(delta ≤ 0 ∨ _) from fun h => h.elim (by omega) hp),
    if_neg (show ¬ delta < 0 by omega), if_neg hp] at h
  split at h
  · simp at h
  · simp only [decreaseTokenQuota_ok_iff] at h
    simp [takeToken, hp, ← h.2.2]

theorem reserveToken_accepted (h : tokenAccepts s.relayInfo acc delta ok)
    (hd : 0 < delta) : ∃ acc', s.reserveToken acc delta ok = .ok acc' := by
  simp only [BillingSession.reserveToken, preConsumeTokenQuota]
  by_cases hp : s.relayInfo.isPlayground
  · exact ⟨acc, if_pos (.inr hp)⟩
  simp only [tokenAccepts, hp, Bool.false_or, Bool.and_eq_true, Bool.or_eq_true,
    decide_eq_true_eq] at h
  rw [if_neg (show ¬(delta ≤ 0 ∨ _) from fun h => h.elim (by omega) hp),
    if_neg (show ¬ delta < 0 by omega), if_neg hp,
    if_neg (by simp; intro hu; rcases h.2 with h' | h' <;> simp_all)]
  exact ⟨_, decreaseTokenQuota_ok_iff.mpr ⟨by omega, h.1, rfl⟩⟩

/-! ## What the calls do -/

/-- The session takes reservations up to `t`. -/
def BillingSession.reservable (s : BillingSession) (t : Int) : Bool :=
  !(s.settled || s.refunded || s.trusted || decide (t ≤ s.preConsumedQuota))

/-- A reservation whose token step fails can be undone. -/
def BillingSession.Undoable (s : BillingSession) (acc : Accounts) (t : Int)
    (o : Faults) : Prop :=
  s.reservable t = true → s.funding.accepts acc (t - s.preConsumedQuota) o.funding = true →
    tokenAccepts s.relayInfo acc (t - s.preConsumedQuota) o.token = true ∨
      o.rollback = true

instance : Decidable (BillingSession.Undoable s acc t o) := inferInstanceAs (Decidable (_ → _ → _))

/-- **A reservation is all or nothing**: it takes its delta from both
balances, or leaves session and accounts as they were. -/
theorem reserve_spec (t : Int) (o : Faults) (h : s.Undoable acc t o)
    (hz : s.funding.AboveZero acc 0) :
    ((s.reserve acc t o).session = s ∧ (s.reserve acc t o).accounts = acc) ∨
    ∃ delta, 0 < delta ∧ s.reservable t ∧
      (s.reserve acc t o).session = s.reserved (s.funding.counted delta) delta ∧
      (s.reserve acc t o).accounts = (acc.take s.funding delta).takeToken s.relayInfo delta := by
  by_cases hopen : s.reservable t
  · have hd : 0 < t - s.preConsumedQuota := by
      simp [BillingSession.reservable] at hopen
      omega
    have hguard : ¬ (s.settled || s.refunded || s.trusted ||
        decide (t ≤ s.preConsumedQuota)) := by
      simpa [BillingSession.reservable] using hopen
    simp only [BillingSession.reserve, if_neg hguard]
    cases hr : s.reserveFunding acc (t - s.preConsumedQuota) o.funding with
    | error => exact .inl ⟨rfl, rfl⟩
    | ok p =>
    obtain ⟨f', acc₁⟩ := p
    have hz' : s.funding.AboveZero acc (t - s.preConsumedQuota) := by
      intro hsub
      have hused := hz hsub
      omega
    obtain ⟨hf', hacc₁, hacc⟩ := reserveFunding_ok hr hz' hd
    simp only
    cases ht : s.reserveToken acc₁ (t - s.preConsumedQuota) o.token with
    | ok =>
      right
      refine ⟨_, hd, hopen, by simp only [hf'], ?_⟩
      rw [reserveToken_ok ht hd, hacc₁]
    | error =>
      left
      rcases h hopen hacc with htok | hback
      · exfalso
        have hsame : tokenAccepts s.relayInfo acc₁ (t - s.preConsumedQuota) o.token := by
          simpa only [hacc₁, tokenAccepts, take_remainQuota] using htok
        obtain ⟨_, hx⟩ := reserveToken_accepted hsame hd
        rw [hx] at ht
        cases ht
      · simp only [hback, rollbackFundingReserve_reserved hr hz hd, and_self]
  left
  have hguard : (s.settled || s.refunded || s.trusted ||
      decide (t ≤ s.preConsumedQuota)) := by
    simpa only [BillingSession.reservable, Bool.not_eq_true, Bool.not_eq_false'] using hopen
  simp [BillingSession.reserve, hguard]

/-- A settlement of exactly the pre-consumed quota moves no balance. -/
theorem settle_exact (o : Faults) : s.settle acc s.preConsumedQuota o =
    ⟨{ s with settled := true }, acc, .ok ()⟩ := by
  cases hs : s.settled with
  | true =>
    have hsame : { s with settled := true } = s := by rw [← hs]
    rw [hsame]
    simp [BillingSession.settle, hs]
  | false => simp [BillingSession.settle, hs]

/-- The three ways a settlement can end: nothing happens, the pre-consumed
quota was exact, or the funding source takes the difference. -/
theorem settle_spec (a : Int) (o : Faults) (hfrs : s.settled = false → s.fundingSettled = false)
    (hz : s.funding.AboveZero acc (a - s.preConsumedQuota)) :
    ((s.settle acc a o).session = s ∧ (s.settle acc a o).accounts = acc) ∨
    (s.settled = false ∧ a = s.preConsumedQuota ∧
      s.settle acc a o = ⟨{ s with settled := true }, acc, .ok ()⟩) ∨
    (s.settled = false ∧ a ≠ s.preConsumedQuota ∧
      (s.settle acc a o).session = { s with fundingSettled := true, settled := true } ∧
      ((s.settle acc a o).accounts =
          (acc.take s.funding (a - s.preConsumedQuota)).takeToken s.relayInfo
            (a - s.preConsumedQuota) ∨
        ((s.settle acc a o).accounts = acc.take s.funding (a - s.preConsumedQuota) ∧
          (s.settle acc a o).result.isOk = false))) := by
  cases hs : s.settled with
  | true => exact .inl (by simp [BillingSession.settle, hs])
  | false =>
  by_cases hd : a - s.preConsumedQuota = 0
  · have ha : a = s.preConsumedQuota := by omega
    subst ha
    exact .inr (.inl ⟨rfl, rfl, settle_exact o⟩)
  cases hf : s.funding.settle acc (a - s.preConsumedQuota) o.funding with
  | error => exact .inl (by simp [BillingSession.settle, hs, hd, hf, hfrs hs])
  | ok acc₁ =>
  right; right
  have hacc₁ := settle_ok hf hz hd
  have hcall : s.settle acc a o =
      s.finishSettle acc₁ (a - s.preConsumedQuota) o.token := by
    simp [BillingSession.settle, hs, hd, hf, hfrs hs]
  rw [hcall, BillingSession.finishSettle]
  refine ⟨rfl, by omega, ?_⟩
  cases ht : s.settleToken acc₁ (a - s.preConsumedQuota) o.token with
  | ok => exact ⟨rfl, .inl (by rw [settleToken_ok ht, hacc₁])⟩
  | error => exact ⟨rfl, .inr ⟨hacc₁, rfl⟩⟩

theorem settle_refused (a : Int) (o : Faults) (hfrs : s.settled = false → s.fundingSettled = false)
    (hne : a ≠ s.preConsumedQuota)
    (h : s.funding.accepts acc (a - s.preConsumedQuota) o.funding = false) :
    (s.settle acc a o).session = s ∧ (s.settle acc a o).accounts = acc := by
  cases hs : s.settled with
  | true => simp [BillingSession.settle, hs]
  | false =>
    have hd : a - s.preConsumedQuota ≠ 0 := by omega
    obtain ⟨e, he⟩ := FundingSource.settle_refused h hd
    simp [BillingSession.settle, hs, hd, he, hfrs hs]

/-! ## What the refund steps do -/

/-- Every attempt that changes the subscription also saves the record. -/
def Recorded (tries : List Attempt) : Prop :=
  ∀ o ∈ tries, o.posted = true → o.saved = true

instance : Decidable (Recorded tries) := inferInstanceAs (Decidable (∀ o ∈ tries, _ → _))

/-- The accounts after the pre-consumed `p` came back to the subscription. -/
def Accounts.giveBack (acc : Accounts) (p : Int) : Accounts := { acc with
  amountUsed := acc.amountUsed - p
  record := some { preConsumed := p, refunded := true } }

section

variable {p : Int} (hr : acc.record = some { preConsumed := p }) (hp : 0 < p)
  (hu : p ≤ acc.amountUsed)
include hr hp hu

theorem refundPreConsume_spec (ho : o.posted → o.saved) :
    refundSubscriptionPreConsume acc o = (acc.giveBack p, .ok ()) ∨
      ∃ e, refundSubscriptionPreConsume acc o = (acc, .error e) := by
  simp only [refundSubscriptionPreConsume, hr]
  rw [if_neg (by simp), if_neg (by omega)]
  cases hpost : postConsumeUserSubscriptionDelta acc (-p) o.posted with
  | error e => exact .inr ⟨e, rfl⟩
  | ok =>
    rw [postConsume_ok_iff (by omega) (by omega)] at hpost
    obtain ⟨_, hsent, rfl⟩ := hpost
    left
    simp [write, ho hsent, Effect.of, giveBack, Int.sub_eq_add_neg]

/-- By induction on the attempts left: a failed one has changed nothing. -/
theorem refundWithRetry_ok :
    ∀ (k : Nat) (tries : List Attempt), Recorded tries →
      (refundWithRetry acc k tries).2 = .ok () →
      (refundWithRetry acc k tries).1 = acc.giveBack p := by
  intro k
  induction k with
  | zero =>
    intro tries _ h
    cases tries <;> cases h
  | succ _ ih =>
    intro tries htries h
    cases tries with
    | nil => cases h
    | cons o rest =>
      rcases refundPreConsume_spec hr hp hu (htries o (by simp)) with ho | ⟨e, ho⟩
      · simp [refundWithRetry, ho]
      · simp only [refundWithRetry, ho] at h ⊢
        exact ih rest (fun o' ho' => htries o' (by simp [ho'])) h

end

namespace BillingSession

/-- What a refund step gives back to the funding source. -/
def owedFunding (s : BillingSession) : RefundStep → Int
  | .funding => match s.funding with
    | .wallet consumed => consumed
    | .subscription _ preConsumed => preConsumed
  | .extra quota => quota
  | .token _ => 0

def owedToken : RefundStep → Int
  | .token quota => quota
  | _ => 0

/-- The step can give back all it owes. -/
def Payable (s : BillingSession) (acc : Accounts) : RefundStep → Prop
  | .funding => match s.funding with
    | .wallet consumed => 0 ≤ consumed
    | .subscription _ preConsumed =>
      0 < preConsumed ∧ preConsumed ≤ acc.amountUsed ∧
        acc.record = some { preConsumed }
  | .extra quota => s.funding.isSubscription = true ∧ 0 < quota ∧ quota ≤ acc.amountUsed
  | .token _ => True

end BillingSession

theorem Effect.of_ok (h : (Effect.of acc r).2 = .ok ()) : r = .ok (Effect.of acc r).1 := by
  cases r with
  | ok => rfl
  | error => cases h

variable (acc₀) in
/-- **A refund step that succeeds gives back what it owes.** -/
theorem runRefundStep_ok
    (h : (s.runRefundStep acc ok tries step).2 = .ok ()) (htries : Recorded tries)
    (hstep : s.Payable acc step) :
    fundingDebit s.funding acc₀ (s.runRefundStep acc ok tries step).1 =
        fundingDebit s.funding acc₀ acc - s.owedFunding step ∧
      tokenDebit acc₀ (s.runRefundStep acc ok tries step).1 =
        tokenDebit acc₀ acc - BillingSession.owedToken step := by
  cases step with
  | funding =>
    cases hf : s.funding with simp only [BillingSession.Payable, hf] at hstep
    | wallet consumed =>
      simp only [BillingSession.runRefundStep, refund, hf] at h ⊢
      by_cases hc : consumed ≤ 0
      · have hzero : consumed = 0 := by omega
        simp [BillingSession.owedFunding, BillingSession.owedToken, hf, hzero]
      rw [if_neg hc] at h ⊢
      obtain ⟨_, _, hacc⟩ := increaseUserQuota_ok_iff.mp (Effect.of_ok h)
      rw [← hacc]
      simp [fundingDebit, tokenDebit, BillingSession.owedFunding, BillingSession.owedToken, hf]
      omega
    | subscription _ preConsumed =>
      obtain ⟨hp, hu, hr⟩ := hstep
      simp only [BillingSession.runRefundStep, refund, hf,
        if_neg (show ¬ preConsumed ≤ 0 by omega)] at h ⊢
      rw [refundWithRetry_ok hr hp hu _ _ htries h]
      simp [fundingDebit, tokenDebit, giveBack, BillingSession.owedFunding,
        BillingSession.owedToken, hf]
      omega
  | extra quota =>
    obtain ⟨hsub, _, hu⟩ := hstep
    have hpost := Effect.of_ok h
    rw [postConsume_ok_iff (by omega) (by omega)] at hpost
    have hacc : (s.runRefundStep acc ok tries (.extra quota)).1 =
        { acc with amountUsed := acc.amountUsed + -quota } := hpost.2.2.symm
    cases hf : s.funding with
    | wallet => simp [hf, isSubscription] at hsub
    | subscription =>
      rw [hacc]
      simp [fundingDebit, tokenDebit, BillingSession.owedFunding, BillingSession.owedToken]
      omega
  | token quota =>
    obtain ⟨_, _, hacc⟩ := increaseTokenQuota_ok_iff.mp (Effect.of_ok h)
    have hacc' : (s.runRefundStep acc ok tries (.token quota)).1 =
        { acc with remainQuota := acc.remainQuota + quota } := hacc.symm
    rw [hacc']
    cases s.funding <;>
      simp [fundingDebit, tokenDebit, BillingSession.owedFunding, BillingSession.owedToken] <;>
      omega

end HermesToken.Billing
