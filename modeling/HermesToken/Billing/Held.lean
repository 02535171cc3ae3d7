import HermesToken.Billing.Relay

/-!
# What a session holds

Between its opening and its end a session HOLDS what it has pre-consumed: that
much was taken from its own funding source, and nothing from the other one.
Settling turns the hold into a charge, refunding gives it back. The lemmas are
about every source of funding at once, so that they also say what was not
touched.
-/

namespace HermesToken.Billing

open Lib BillingSession

variable {quota : Int} {o : Faults} {f : FundingSource}

/-- `PreConsumeBilling`: the sources are tried until one opens a session. -/
def preConsumeBilling (info : RelayInfo) (t : Trust) (quota : Int) :
    List (Source × Faults) → Accounts → Accounts × Option BillingSession
  | [], acc => (acc, none)
  | (src, o) :: rest, acc =>
    let c := openSession src info t acc quota o
    if c.result.isOk then (c.accounts, some c.session)
    else preConsumeBilling info t quota rest c.accounts

/-- Neither funding source was touched, and nothing was recorded. -/
structure SameFunds (acc acc' : Accounts) : Prop where
  userQuota : acc'.userQuota = acc.userQuota
  amountUsed : acc'.amountUsed = acc.amountUsed
  record : acc'.record = acc.record

/-- **Held.** The session has neither settled nor refunded, and exactly its
pre-consumed quota was taken, all of it from its own source. -/
structure Held (acc₀ : Accounts) (s : BillingSession) (acc : Accounts) : Prop where
  unsettled : s.settled = false
  unrefunded : s.refunded = false
  uncommitted : s.fundingSettled = false
  extra : s.extraReserved = 0
  nonneg : 0 ≤ s.preConsumedQuota
  consumed : s.tokenConsumed = s.preConsumedQuota
  source : match s.funding with
    | .wallet consumed => consumed = s.preConsumedQuota ∧
        acc.userQuota = acc₀.userQuota - s.preConsumedQuota ∧ acc.amountUsed = acc₀.amountUsed
    | .subscription _ preConsumed => preConsumed = s.preConsumedQuota ∧ 0 < preConsumed ∧
        acc.userQuota = acc₀.userQuota ∧ acc.amountUsed = acc₀.amountUsed + preConsumed ∧
        acc.record = some { preConsumed } ∧
        (0 < acc.amountTotal → acc.amountUsed ≤ acc.amountTotal)

section

variable {acc₀ acc : Accounts} {s : BillingSession}

theorem SameFunds.refl (acc : Accounts) : SameFunds acc acc := ⟨rfl, rfl, rfl⟩

theorem SameFunds.trans (h : SameFunds acc₀ acc) (h' : SameFunds acc acc') :
    SameFunds acc₀ acc' :=
  ⟨h'.userQuota.trans h.userQuota, h'.amountUsed.trans h.amountUsed, h'.record.trans h.record⟩

theorem SameFunds.fundingDebit_eq (h : SameFunds acc acc') (f : FundingSource) :
    fundingDebit f acc₀ acc' = fundingDebit f acc₀ acc := by
  cases f <;> simp [fundingDebit, h.userQuota, h.amountUsed]

theorem sameFunds_takeToken (acc : Accounts) (info : RelayInfo) (quota : Int) :
    SameFunds acc (acc.takeToken info quota) := by
  unfold Accounts.takeToken
  split
  · exact .refl acc
  · exact ⟨rfl, rfl, rfl⟩

theorem sameFunds_increaseTokenQuota (h : increaseTokenQuota acc quota ok = .ok acc') :
    SameFunds acc acc' := by
  rw [increaseTokenQuota_ok_iff] at h
  rw [← h.2.2]
  exact ⟨rfl, rfl, rfl⟩

theorem sameFunds_rollbackToken (consumed : Int) (ok : Bool) :
    SameFunds acc (s.rollbackToken acc consumed ok) := by
  unfold rollbackToken
  split
  · split
    · rename_i h
      exact sameFunds_increaseTokenQuota h
    · exact .refl acc
  · exact .refl acc

theorem Held.of_sameFunds (h : SameFunds acc₀ acc) (hs : Held acc s acc') : Held acc₀ s acc' := by
  refine ⟨hs.unsettled, hs.unrefunded, hs.uncommitted, hs.extra, hs.nonneg, hs.consumed, ?_⟩
  have hsrc := hs.source
  rw [h.userQuota, h.amountUsed] at hsrc
  exact hsrc

/-! ## Opening -/

/-- A pre-consume that fails has at most touched the token. -/
theorem preConsume_error {trusted} (hquo : 0 ≤ quota)
    (h : (s.preConsume acc trusted quota o).result.isOk = false) :
    SameFunds acc (s.preConsume acc trusted quota o).accounts := by
  have heff : 0 ≤ if trusted then 0 else quota := by cases trusted <;> simp [hquo]
  simp only [preConsume] at h ⊢
  generalize (if trusted then 0 else quota) = effective at h heff
  cases htoken : s.preConsumeToken acc effective o.token with
  | error => exact .refl acc
  | ok taken =>
  obtain ⟨consumed, acc₁⟩ := taken
  obtain ⟨_, rfl⟩ := preConsumeToken_ok htoken heff
  rw [htoken] at h
  simp only at h ⊢
  split
  · exact (sameFunds_takeToken _ _ effective).trans (sameFunds_rollbackToken consumed o.rollback)
  rename_i hfund
  rw [hfund] at h
  cases h

theorem held_walletPreConsume {info trusted} (hquo : 0 ≤ quota)
    (h : ((mk info (.wallet 0) 0 0 0 false false false false).preConsume acc
      trusted quota o).result.isOk) :
    Held acc ((mk info (.wallet 0) 0 0 0 false false false false).preConsume acc
      trusted quota o).session ((mk info (.wallet 0) 0 0 0 false false false
      false).preConsume acc trusted quota o).accounts := by
  have heff : 0 ≤ if trusted then 0 else quota := by cases trusted <;> simp [hquo]
  obtain ⟨f, acc', hfund, hsess, hacc⟩ := preConsume_ok h heff
  rw [hsess, hacc]
  generalize (if trusted then 0 else quota) = effective at hfund heff
  have hsame := sameFunds_takeToken acc info effective
  simp only [FundingSource.preConsume] at hfund
  split at hfund
  · have hzero : effective = 0 := by omega
    cases hfund
    refine ⟨rfl, rfl, rfl, rfl, heff, rfl, hzero.symm, ?_, hsame.amountUsed⟩
    show _ = acc.userQuota - effective
    rw [hsame.userQuota]
    omega
  · simp only [seq_ok, return_ok, decreaseUserQuota_ok_iff, Prod.mk.injEq] at hfund
    obtain ⟨_, ⟨_, _, rfl⟩, rfl, rfl⟩ := hfund
    refine ⟨rfl, rfl, rfl, rfl, heff, rfl, rfl, ?_, hsame.amountUsed⟩
    exact congrArg (· - effective) hsame.userQuota

theorem shouldTrust_subscription
    (h : s.funding.isSubscription) : s.shouldTrust trustQuota tokenQuota = false := by
  simp only [shouldTrust]
  split
  · rfl
  split
  · rfl
  split
  · rfl
  cases hf : s.funding with
  | wallet =>
    rw [hf] at h
    cases h
  | subscription => rfl

theorem held_subscriptionPreConsume {info own} (hown : 0 < own) (hrec : acc.record = none)
    (h : ((mk info (.subscription own 0) 0 0 0 false false false
      false).preConsume acc false own o).result.isOk) :
    Held acc ((mk info (.subscription own 0) 0 0 0 false false false
      false).preConsume acc false own o).session ((mk info (.subscription own 0)
      0 0 0 false false false false).preConsume acc false own o).accounts := by
  obtain ⟨f, acc', hfund, hsess, hacc⟩ :=
    preConsume_ok h (by simpa using hown.le)
  simp only [Bool.false_eq_true, if_false] at hfund hsess
  have hsame := sameFunds_takeToken acc info own
  generalize acc.takeToken info own = acc₁ at hfund hsame
  rw [hsess, hacc]
  simp only [FundingSource.preConsume, preConsumeUserSubscription,
    hsame.record.trans hrec, if_neg (not_le.mpr hown), seq_ok, return_ok,
    Prod.exists] at hfund
  obtain ⟨taken, acc₂, htake, hpair⟩ := hfund
  split at htake
  · cases htake
  rename_i hwith
  simp only [seq_ok, write_ok_iff, return_ok, Prod.mk.injEq] at htake
  obtain ⟨_, ⟨_, rfl⟩, rfl, rfl⟩ := htake
  obtain ⟨rfl, rfl⟩ := Prod.mk.inj hpair
  refine ⟨rfl, rfl, rfl, rfl, hown.le, rfl, rfl, hown, hsame.userQuota, ?_, rfl, ?_⟩
  · exact congrArg (· + own) hsame.amountUsed
  intro htot
  have htot' : acc₁.amountTotal > 0 := htot
  show acc₁.amountUsed + own ≤ acc₁.amountTotal
  omega

/-- **Opening a session.** It holds its quota, or nothing was taken. -/
theorem openSession_held (src : Source) (info : RelayInfo) (t : Trust) (o : Faults)
    (hquo : 0 ≤ quota) (hrec : acc.record = none) :
    let c := openSession src info t acc quota o
    (c.result.isOk → Held acc c.session c.accounts) ∧
      (c.result.isOk = false → SameFunds acc c.accounts) := by
  cases src with
  | wallet =>
    simp only [openSession, tryWallet]
    split
    · exact ⟨fun h => (by cases h), fun _ => .refl acc⟩
    split
    · exact ⟨fun h => (by cases h), fun _ => .refl acc⟩
    · exact ⟨held_walletPreConsume hquo, preConsume_error hquo⟩
  | subscription =>
    simp only [openSession, trySubscription]
    generalize hown : (if quota ≤ 0 then 1 else quota) = own
    have hpos : 0 < own := by split at hown <;> omega
    have htrust : (mk info (.subscription own 0) 0 0 0 false false false
        false).shouldTrust t.trustQuota t.tokenQuota = false := shouldTrust_subscription rfl
    rw [htrust]
    exact ⟨held_subscriptionPreConsume hpos hrec, preConsume_error hpos.le⟩

/-- By induction on the sources: a source that opens no session takes nothing. -/
theorem preConsumeBilling_holds (info : RelayInfo) (t : Trust) (hquo : 0 ≤ quota)
    (hrec : acc₀.record = none) :
    ∀ (tries : List (Source × Faults)) (acc : Accounts), SameFunds acc₀ acc →
      match preConsumeBilling info t quota tries acc with
      | (acc', some s) => Held acc₀ s acc'
      | (acc', none) => SameFunds acc₀ acc' := by
  intro tries
  induction tries with
  | nil => exact fun acc hsame => hsame
  | cons try_ rest ih =>
  obtain ⟨src, o⟩ := try_
  intro acc hsame
  obtain ⟨hheld, herror⟩ := openSession_held src info t o hquo (hsame.record.trans hrec)
  simp only [preConsumeBilling]
  cases hok : (openSession src info t acc quota o).result.isOk with
  | true => exact (hheld hok).of_sameFunds hsame
  | false => exact ih _ (hsame.trans (herror hok))

/-! ## Settling and refunding -/

theorem fundingDebit_take_other (h : g.isSubscription ≠ f.isSubscription) :
    fundingDebit g acc₀ (acc.take f n) = fundingDebit g acc₀ acc := by
  cases f <;> cases g <;> first | rfl | exact absurd rfl h

theorem Held.fundingDebit_eq (h : Held acc₀ s acc) (f : FundingSource) :
    fundingDebit f acc₀ acc =
      if f.isSubscription = s.funding.isSubscription then s.preConsumedQuota else 0 := by
  have hsrc := h.source
  cases hf : s.funding with rw [hf] at hsrc
  | wallet =>
    obtain ⟨_, huser, hused⟩ := hsrc
    cases f <;> simp [fundingDebit, FundingSource.isSubscription, huser, hused]
  | subscription =>
    obtain ⟨hpre, _, huser, hused, _⟩ := hsrc
    cases f <;> simp [fundingDebit, FundingSource.isSubscription, huser, hused, hpre]

/-- The settlement has nothing to move, or the source accepts what it moves. -/
def sessionAccepts (s : BillingSession) (acc : Accounts) (quota : Int) (o : Faults) : Bool :=
  quota = s.preConsumedQuota ||
    s.funding.accepts acc (quota - s.preConsumedQuota) o.funding

theorem settle_accepted (hdlt : delta ≠ 0) (hzero : f.AboveZero acc delta)
    (h : f.accepts acc delta ok) : f.settle acc delta ok = .ok (acc.take f delta) := by
  simp only [FundingSource.accepts, Bool.and_eq_true, Bool.or_eq_true, Bool.not_eq_true'] at h
  obtain ⟨rfl, hwith⟩ := h
  cases f with simp only [FundingSource.settle, if_neg hdlt]
  | wallet =>
    by_cases hpos : delta > 0
    · rw [if_pos hpos, decreaseUserQuota_ok_iff]
      exact ⟨by omega, rfl, rfl⟩
    rw [if_neg hpos, increaseUserQuota_ok_iff]
    refine ⟨by omega, rfl, ?_⟩
    simp [Accounts.take, Int.sub_eq_add_neg]
  | subscription =>
    rw [postConsume_ok_iff hdlt (hzero rfl)]
    exact ⟨hwith.resolve_left (by simp [FundingSource.isSubscription]), rfl, rfl⟩

theorem finishSettle_sameFunds (s : BillingSession) (ok : Bool) :
    SameFunds acc (s.finishSettle acc delta ok).accounts := by
  simp only [finishSettle]
  split
  · rename_i h
    rw [settleToken_ok h]
    exact sameFunds_takeToken acc s.relayInfo delta
  · exact .refl acc

theorem finishSettle_funding :
    (s.finishSettle acc delta ok).session.funding = s.funding := by
  simp only [finishSettle]
  split <;> rfl

/-- **Settling.** The session's source ends up charged with the quota. -/
theorem Held.settle (h : Held acc₀ s acc) (hused : 0 ≤ acc₀.amountUsed) (hquo : 0 ≤ quota)
    (haccepts : sessionAccepts s acc quota o) :
    (s.settle acc quota o).session.funding.isSubscription = s.funding.isSubscription ∧
      ∀ f, fundingDebit f acc₀ (s.settle acc quota o).accounts =
        if f.isSubscription = s.funding.isSubscription then quota else 0 := by
  simp only [BillingSession.settle, h.unsettled, h.uncommitted, Bool.false_eq_true, if_false]
  by_cases hdlt : quota - s.preConsumedQuota = 0
  · rw [if_pos hdlt]
    refine ⟨rfl, fun f => ?_⟩
    rw [h.fundingDebit_eq, show quota = s.preConsumedQuota by omega]
  rw [if_neg hdlt]
  have hacc' : s.funding.accepts acc (quota - s.preConsumedQuota) o.funding := by
    rcases Bool.or_eq_true_iff.mp haccepts with hsame | hmoves
    · exact absurd (by simpa using hsame) fun hsame : quota = s.preConsumedQuota =>
        hdlt (by omega)
    · exact hmoves
  have hzero : s.funding.AboveZero acc (quota - s.preConsumedQuota) := by
    intro hsub
    have hsrc := h.source
    cases hf : s.funding with
    | wallet => simp [hf, FundingSource.isSubscription] at hsub
    | subscription =>
      rw [hf] at hsrc
      obtain ⟨_, _, _, _, _⟩ := hsrc
      omega
  rw [settle_accepted hdlt hzero hacc']
  refine ⟨congrArg _ finishSettle_funding, fun f => ?_⟩
  rw [(finishSettle_sameFunds s o.token).fundingDebit_eq]
  by_cases hkind : f.isSubscription = s.funding.isSubscription
  · rw [if_pos hkind]
    have hown := h.fundingDebit_eq f
    rw [if_pos hkind] at hown
    have hmoved : fundingDebit f acc₀ (acc.take s.funding (quota - s.preConsumedQuota)) =
        fundingDebit f acc₀ acc + (quota - s.preConsumedQuota) := by
      cases hf : s.funding <;> cases f <;>
        first
        | (simp only [fundingDebit, Accounts.take]; omega)
        | (rw [hf] at hkind; cases hkind)
    omega
  · rw [if_neg hkind, fundingDebit_take_other hkind, h.fundingDebit_eq, if_neg hkind]

theorem Held.sessionAccepts_of_ok (h : Held acc₀ s acc)
    (hok : (s.settle acc quota o).result.isOk) : sessionAccepts s acc quota o := by
  cases hacc : sessionAccepts s acc quota o with
  | true => rfl
  | false =>
  obtain ⟨hne, href⟩ := Bool.or_eq_false_iff.mp hacc
  have hdlt : quota - s.preConsumedQuota ≠ 0 := by
    have := of_decide_eq_false hne
    omega
  obtain ⟨e, he⟩ := FundingSource.settle_refused href hdlt
  simp [BillingSession.settle, h.unsettled, h.uncommitted, hdlt, he, Except.isOk,
    Except.toBool] at hok

theorem settleToken_accepted (s : BillingSession) (acc : Accounts) (delta : Int) :
    (s.settleToken acc delta true).isOk := by
  simp only [settleToken, decreaseTokenQuota, increaseTokenQuota, write, if_true]
  split
  · rfl
  split
  · rw [if_neg (by omega)]
    rfl
  · rw [if_neg (by omega)]
    rfl

theorem Held.settle_failed (h : Held acc₀ s acc) (htoken : o.token)
    (hfail : (s.settle acc quota o).result.isOk = false) :
    (s.settle acc quota o).session = s ∧ (s.settle acc quota o).accounts = acc := by
  simp only [BillingSession.settle, h.unsettled, h.uncommitted, Bool.false_eq_true,
    if_false] at hfail ⊢
  split at hfail
  · cases hfail
  rename_i hdlt
  rw [if_neg hdlt]
  split at hfail
  · exact ⟨rfl, rfl⟩
  rename_i acc' hfund
  have hok := settleToken_accepted s acc' (quota - s.preConsumedQuota)
  rw [htoken] at hfail
  simp only [finishSettle] at hfail
  split at hfail
  · cases hfail
  rename_i he
  rw [he] at hok
  cases hok

theorem runRefundJob_token (quota : Int) :
    SameFunds acc (Relay.runRefundJob s [.token quota] acc).1 := by
  simp only [Relay.runRefundJob, runRefundStep, Effect.of]
  cases h : increaseTokenQuota acc quota true with
  | error => exact .refl acc
  | ok => exact sameFunds_increaseTokenQuota h

theorem Held.refund_funding (h : Held acc₀ s acc) (hused : 0 ≤ acc₀.amountUsed)
    (f : FundingSource) :
    fundingDebit f acc₀ (s.funding.refund acc true [{}]).1 = 0 := by
  have hsrc := h.source
  have hnn := h.nonneg
  cases hf : s.funding with rw [hf] at hsrc
  | wallet consumed =>
    simp only [FundingSource.refund]
    split
    · cases f <;> simp only [fundingDebit] <;> omega
    rename_i hpos
    simp only [increaseUserQuota, if_neg (show ¬ consumed < 0 by omega), write, if_true, Effect.of]
    cases f <;> simp only [fundingDebit] <;> omega
  | subscription _ preConsumed =>
    obtain ⟨_, hpos, _, _, hrec, htot⟩ := hsrc
    have hpost : postConsumeUserSubscriptionDelta acc (-preConsumed) true =
        .ok { acc with amountUsed := acc.amountUsed + -preConsumed } := by
      rw [postConsume_ok_iff (by omega) (by omega)]
      refine ⟨?_, rfl, rfl⟩
      simp only [withinTotal, decide_eq_true_eq]
      rintro ⟨hlim, _⟩
      have := htot hlim
      omega
    simp only [FundingSource.refund, if_neg (show ¬ preConsumed ≤ 0 by omega),
      maxAttempts, refundWithRetry, refundSubscriptionPreConsume, hrec,
      hpost, write, if_true, Effect.of, Bool.false_eq_true, if_false]
    cases f <;> simp only [fundingDebit] <;> omega

/-- **Refunding.** Nothing is charged to any source. -/
theorem Held.refund (h : Held acc₀ s acc) (hused : 0 ≤ acc₀.amountUsed) (f : FundingSource) :
    fundingDebit f acc₀ (Relay.runRefundJob s.refund.1 s.refund.2 acc).1 = 0 := by
  simp only [BillingSession.refund, h.unsettled, h.unrefunded, Bool.false_or]
  cases hneed : s.needsRefund with
  | false =>
    -- a session that needs no refund has taken nothing
    simp only [Bool.not_false, if_true, Relay.runRefundJob]
    have hzero : s.preConsumedQuota = 0 := by
      have hnn := h.nonneg
      simp only [needsRefund, h.unsettled, h.unrefunded, h.uncommitted,
        h.consumed, Bool.or_self, Bool.false_eq_true, if_false] at hneed
      split at hneed
      · cases hneed
      · omega
    rw [h.fundingDebit_eq, hzero, ite_self]
  | true =>
    simp only [Bool.not_true, Bool.false_eq_true, if_false, refundJob,
      laterSteps, asRefunded, h.extra, gt_iff_lt, lt_self_iff_false,
      false_and, List.nil_append]
    have hfund := h.refund_funding hused f
    split
    · exact ((runRefundJob_token s.tokenConsumed).fundingDebit_eq f).trans hfund
    · exact hfund

end

end HermesToken.Billing
