import HermesToken.Billing.Atomicity

/-!
# Charging of a relay request

The retry loop of `Relay` in `controller/relay.go`, as far as it touches the
balances. An attempt ends in one of the ways of `Outcome`. A handler settles
BEFORE it returns, and the controller turns a first-chunk timeout into a
retryable error only afterwards. All balance operations are accepted here;
what can still fail is a subscription that would pass its total.
-/

namespace HermesToken.Billing

open Lib Accounts

variable {quota : Int} {o : Faults}

/-- How one attempt ends. The quotas are those computed from its usage, and
`retry` is the answer of `shouldRetry` apart from the retry budget. -/
inductive Outcome where
  /-- No channel is left, or the body cannot be read again. -/
  | unavailable
  | upstreamError (retry : Bool)
  /-- The handler returned without an error, nothing was forwarded. -/
  | firstChunkTimeout (quota : Int) (retry : Bool)
  /-- `turns` are the charges of a realtime session while it runs. -/
  | success (turns : List Int) (quota : Int)

/-- How the request ends. With a negative retry limit no attempt is made, and
the request neither fails nor is delivered. -/
inductive Ending where
  | delivered (quota : Int)
  | failed
  | skipped
  deriving DecidableEq

/-- `PostConsumeQuota` on the funding source of the request. -/
def postConsumeQuota (info : RelayInfo) (f : FundingSource) (acc : Accounts)
    (quota : Int) : Except String Accounts := do
  let acc₁ ← match f with
    | .subscription _ _ => postConsumeUserSubscriptionDelta acc quota true
    | .wallet _ =>
      if quota > 0 then decreaseUserQuota acc quota true
      else increaseUserQuota acc (-quota) true
  if info.isPlayground then .ok acc₁
  else if quota > 0 then decreaseTokenQuota acc₁ quota true
  else increaseTokenQuota acc₁ (-quota) true

/-- The balances and the billing session of a request; a free model has none.
`ok` says that no balance operation has failed. -/
structure Relay where
  info : RelayInfo
  billing : Option BillingSession
  accounts : Accounts
  ok : Bool := true

namespace Relay

/-- The funding source that the request is charged on. -/
def source (r : Relay) : FundingSource :=
  match r.billing with
  | some s => s.funding
  | none => .wallet 0

/-- The request after an operation without a session. -/
def apply (r : Relay) : Except String Accounts → Relay
  | .ok acc => { r with accounts := acc }
  | .error _ => { r with ok := false }

/-- `SettleBilling`. -/
def settleBilling (r : Relay) (actualQuota : Int) : Relay :=
  match r.billing with
  | some s =>
    let c := s.settle r.accounts actualQuota {}
    { r with billing := some c.session, accounts := c.accounts,
             ok := r.ok && c.result.isOk }
  | none =>
    if actualQuota = 0 then r
    else r.apply (postConsumeQuota r.info r.source r.accounts actualQuota)

/-- `PreWssConsumeQuota`: a realtime session charges every turn at once. -/
def chargeTurn (r : Relay) (quota : Int) : Relay :=
  r.apply (postConsumeQuota r.info r.source r.accounts quota)

def runRefundJob (s : BillingSession) : List RefundStep → Accounts → Accounts × Bool
  | [], acc => (acc, true)
  | step :: rest, acc =>
    let e := s.runRefundStep acc true [{}] step
    let last := runRefundJob s rest e.1
    (last.1, e.2.isOk && last.2)

/-- The deferred refund of a request that failed. -/
def refund (r : Relay) : Relay :=
  match r.billing with
  | none => r
  | some s =>
    let last := runRefundJob s.refund.1 s.refund.2 r.accounts
    { r with billing := some s.refund.1, accounts := last.1, ok := r.ok && last.2 }

/-- The retry loop with `budget` retries left. An exhausted list of outcomes
is a loop that finds no channel. -/
def attempts (budget : Nat) (outcomes : List Outcome) (r : Relay) : Relay × Ending :=
  match outcomes with
  | [] => (r, .failed)
  | .unavailable :: _ => (r, .failed)
  | .upstreamError retry :: rest =>
    match retry, budget with
    | true, budget + 1 => attempts budget rest r
    | _, _ => (r, .failed)
  | .firstChunkTimeout quota retry :: rest =>
    -- the handler has settled before the controller sees the timeout
    match retry, budget with
    | true, budget + 1 => attempts budget rest (r.settleBilling quota)
    | _, _ => (r.settleBilling quota, .failed)
  | .success turns quota :: _ =>
    ((turns.foldl chargeTurn r).settleBilling quota, .delivered quota)
termination_by structural outcomes

/-- The loop and the deferred refund. -/
def run (r : Relay) (retryTimes : Int) (outcomes : List Outcome) : Relay × Ending :=
  if retryTimes < 0 then (r, .skipped)
  else match attempts retryTimes.toNat outcomes r with
    | (r', .failed) => (r'.refund, .failed)
    | done => done

/-- The request when the loop starts: a free model skips the pre-consume. -/
def start (free : Bool) (src : Source) (info : RelayInfo) (t : Trust)
    (acc : Accounts) (preConsumedQuota : Int) : Relay :=
  if free then { info, billing := none, accounts := acc }
  else
    let c := openSession src info t acc preConsumedQuota {}
    { info, billing := some c.session, accounts := c.accounts }

/-- What the session has taken before the attempts. -/
def preConsumed (r : Relay) : Int :=
  match r.billing with
  | some s => s.preConsumedQuota
  | none => 0

/-- The net debits are those of the ending. A request without an attempt keeps
what it has taken before: nobody refunds it. -/
def Charged (acc₀ : Accounts) (r : Relay) : Ending → Prop
  | .delivered quota =>
    fundingDebit r.source acc₀ r.accounts = quota ∧
      tokenDebit acc₀ r.accounts = tokenShare r.info quota
  | .failed => fundingDebit r.source acc₀ r.accounts = 0 ∧ tokenDebit acc₀ r.accounts = 0
  | .skipped => fundingDebit r.source acc₀ r.accounts = r.preConsumed ∧
      tokenDebit acc₀ r.accounts = tokenShare r.info r.preConsumed

end Relay

/-- An attempt that does not settle before it is abandoned, does not charge
by turns, and asks a subscription for no negative amount. -/
def Outcome.Clean (f : FundingSource) : Outcome → Prop
  | .firstChunkTimeout _ _ => False
  | .success turns quota => turns = [] ∧ (f.isSubscription = true → 0 ≤ quota)
  | _ => True

instance (f : FundingSource) : (o : Outcome) → Decidable (o.Clean f)
  | .unavailable => isTrue trivial
  | .upstreamError _ => isTrue trivial
  | .firstChunkTimeout _ _ => isFalse id
  | .success turns quota =>
    inferInstanceAs (Decidable (turns = [] ∧ (f.isSubscription = true → 0 ≤ quota)))

/-! ## A clean request -/

variable {acc₀ : Accounts} {s : BillingSession} {r : Relay} {info : RelayInfo}

/-- Without abandoned settlements the loop charges at most once, at its end. -/
theorem attempts_clean :
    ∀ (outcomes : List Outcome) (budget : Nat), (∀ o ∈ outcomes, o.Clean f) →
      r.attempts budget outcomes = (r, .failed) ∨
        ∃ quota, (f.isSubscription = true → 0 ≤ quota) ∧
          r.attempts budget outcomes = (r.settleBilling quota, .delivered quota) := by
  intro outcomes
  induction outcomes with
  | nil => exact fun _ _ => .inl rfl
  | cons o rest ih =>
  intro budget hclean
  have ho := hclean o (by simp)
  have hrest : ∀ o ∈ rest, o.Clean f := fun o ho => hclean o (by simp [ho])
  cases o with
  | unavailable => exact .inl rfl
  | upstreamError retry =>
    cases retry with
    | false => exact .inl rfl
    | true =>
      cases budget with
      | zero => exact .inl rfl
      | succ budget => exact ih budget hrest
  | firstChunkTimeout quota retry => exact absurd ho id
  | success turns quota =>
    obtain ⟨rfl, hquo⟩ := ho
    exact .inr ⟨quota, hquo, rfl⟩

theorem postConsumeQuota_wallet :
    postConsumeQuota info (.wallet consumed) acc quota =
      .ok ((acc.take (.wallet consumed) quota).takeToken info quota) := by
  by_cases hp : info.isPlayground
  · by_cases hpos : quota > 0
    · have hneg : ¬ quota < 0 := by omega
      simp [postConsumeQuota, decreaseUserQuota, write, hp, hpos, hneg, bind, Except.bind,
        take, takeToken]
    · simp [postConsumeQuota, increaseUserQuota, write, hp, hpos, bind, Except.bind,
        take, takeToken, Int.sub_eq_add_neg]
  by_cases hpos : quota > 0
  · have hneg : ¬ quota < 0 := by omega
    simp [postConsumeQuota, decreaseUserQuota, decreaseTokenQuota, write, hp, hpos, hneg,
      bind, Except.bind, take, takeToken]
  · simp [postConsumeQuota, increaseUserQuota, increaseTokenQuota, write, hp, hpos,
      bind, Except.bind, take, takeToken, Int.sub_eq_add_neg]

theorem settle_result_ok (h : (s.settle acc a o).result.isOk) :
    (s.settle acc a o).session.settled := by
  simp only [BillingSession.settle, BillingSession.finishSettle] at h ⊢
  split
  · assumption
  rename_i hs
  rw [if_neg hs] at h
  split
  · rfl
  rename_i hd
  rw [if_neg hd] at h
  split
  · split <;> rfl
  rename_i hc
  rw [if_neg hc] at h
  split
  · rename_i he
    simp [he, Except.isOk, Except.toBool] at h
  · split <;> rfl

theorem Live.settle_debits (h : Live acc₀ b) (h₀ : 0 ≤ acc₀.amountUsed)
    (hok : (b.session.settle b.accounts quota o).result.isOk)
    (hquo : b.session.funding.isSubscription → 0 ≤ quota) :
    (b.session.settle b.accounts quota o).session.funding = b.session.funding ∧
      fundingDebit b.session.funding acc₀ (b.session.settle b.accounts quota o).accounts = quota ∧
      tokenDebit acc₀ (b.session.settle b.accounts quota o).accounts =
        tokenShare b.session.relayInfo quota := by
  have hz : b.session.funding.AboveZero b.accounts (quota - b.session.preConsumedQuota) := by
    intro hsub
    have hfund := h.funding
    have hquo' := hquo hsub
    cases hf : b.session.funding with
    | wallet => simp [hf, FundingSource.isSubscription] at hsub
    | subscription =>
      simp only [fundingDebit, hf] at hfund
      omega
  rcases settle_spec quota o (fun _ => h.uncommitted) hz with
    ⟨hs, _⟩ | ⟨_, ha, hc⟩ | ⟨_, _, hs, hacc⟩
  · have hset := settle_result_ok hok
    rw [hs, h.unsettled] at hset
    cases hset
  · rw [hc]
    exact ⟨rfl, h.funding.trans ha.symm, by rw [h.token, ha]⟩
  rcases hacc with hacc | ⟨_, hfail⟩
  · rw [hs, hacc]
    refine ⟨rfl, ?_, ?_⟩
    · simp only [fundingDebit_takeToken, fundingDebit_take, h.funding]
      omega
    simp only [tokenDebit_takeToken, tokenDebit_take, h.token, ← tokenShare_add]
    congr 1
    omega
  · rw [hfail] at hok
    cases hok

/-- By induction on the steps left: when the goroutine is done and no step
failed, nothing is debited. -/
theorem Refunding.runRefundJob (h₀ : 0 ≤ acc₀.amountUsed) :
    ∀ (job : List RefundStep) (b : Request), Refunding acc₀ b → b.job = job →
      b.refundOk → (Relay.runRefundJob b.session job b.accounts).2 →
      fundingDebit b.session.funding acc₀
          (Relay.runRefundJob b.session job b.accounts).1 = 0 ∧
        tokenDebit acc₀ (Relay.runRefundJob b.session job b.accounts).1 = 0 := by
  intro job
  induction job with
  | nil =>
    intro b h hjob hok _
    simpa [Relay.runRefundJob, hjob] using h.owed hok
  | cons step rest ih =>
  intro b h hjob hok hlast
  simp only [Relay.runRefundJob, Bool.and_eq_true] at hlast ⊢
  have hwork : Refunding acc₀ (b.work true [{}]) := h.work h₀ (by decide)
  have hb : (b.work true [{}]).session = b.session ∧ (b.work true [{}]).job = rest ∧
      (b.work true [{}]).refundOk ∧
      (b.work true [{}]).accounts = (b.session.runRefundStep b.accounts true [{}] step).1 := by
    simp [Request.work, hjob, hok, hlast.1]
  obtain ⟨hs, hj, hr, hacc⟩ := hb
  have hnext := ih (b.work true [{}]) hwork hj hr
  rw [hs, hacc] at hnext
  exact hnext hlast.2

/-- A request whose session is live, or that has no session and no charge. -/
def Relay.Fresh (acc₀ : Accounts) (r : Relay) : Prop :=
  match r.billing with
  | some s => Live acc₀ { session := s, accounts := r.accounts } ∧
      s.relayInfo.isPlayground = r.info.isPlayground
  | none => r.accounts = acc₀

open Relay

theorem Relay.Fresh.settled (h : r.Fresh acc₀) (h₀ : 0 ≤ acc₀.amountUsed)
    (hquo : r.source.isSubscription → 0 ≤ quota) (hok : (r.settleBilling quota).ok) :
    Charged acc₀ (r.settleBilling quota) (.delivered quota) := by
  cases hb : r.billing with simp only [Relay.Fresh, hb] at h
  | none =>
    by_cases hq : quota = 0
    · subst hq
      simp [Relay.Charged, settleBilling, hb, h, tokenShare]
    · simp [Relay.Charged, settleBilling, apply, source, hb, hq, h, postConsumeQuota_wallet]
  | some =>
    simp only [source, hb] at hquo
    simp only [settleBilling, hb, Bool.and_eq_true] at hok
    obtain ⟨hfund, hdebit, htoken⟩ := h.1.settle_debits h₀ hok.2 hquo
    simp only [Relay.Charged, settleBilling, source, hb, hfund]
    refine ⟨hdebit, htoken.trans ?_⟩
    simp only [tokenShare, h.2]

theorem Relay.Fresh.refunded (h : r.Fresh acc₀) (h₀ : 0 ≤ acc₀.amountUsed)
    (hok : r.refund.ok) : Charged acc₀ r.refund .failed := by
  cases hb : r.billing with
  | none =>
    simp only [Relay.Fresh, hb] at h
    simp [Relay.Charged, refund, hb, h]
  | some s =>
  simp only [Relay.Fresh, hb] at h
  simp only [refund, hb, Bool.and_eq_true] at hok
  simp only [Relay.Charged, refund, source, hb]
  rw [h.1.refund_eq] at hok ⊢
  cases hneed : s.needsRefund with
  | true =>
    simp only [hneed, if_true] at hok ⊢
    exact h.1.refunding.runRefundJob h₀ _ _ rfl rfl hok.2
  | false =>
    have hpre : s.preConsumedQuota = 0 := h.1.pre_eq_zero hneed
    have hfund : fundingDebit s.funding acc₀ r.accounts = s.preConsumedQuota := h.1.funding
    have htoken : tokenDebit acc₀ r.accounts = tokenShare s.relayInfo s.preConsumedQuota :=
      h.1.token
    simp only [Bool.false_eq_true, if_false, runRefundJob]
    rw [hfund, htoken, hpre]
    simp [tokenShare]

theorem Relay.Fresh.skipped (h : r.Fresh acc₀) : Charged acc₀ r .skipped := by
  cases hb : r.billing with simp only [Relay.Fresh, hb] at h
  | none => simp [Relay.Charged, preConsumed, hb, h, tokenShare]
  | some s =>
    have hfund : fundingDebit s.funding acc₀ r.accounts = s.preConsumedQuota := h.1.funding
    have htoken : tokenDebit acc₀ r.accounts = tokenShare s.relayInfo s.preConsumedQuota :=
      h.1.token
    simp only [Relay.Charged, source, preConsumed, hb, hfund, htoken, tokenShare, h.2, and_self]

theorem preConsume_relayInfo :
    (s.preConsume acc trusted quota o).session.relayInfo = s.relayInfo := by
  simp only [BillingSession.preConsume]
  split
  · rfl
  · split <;> rfl

theorem openSession_playground :
    (openSession src info t acc quota o).session.relayInfo.isPlayground = info.isPlayground := by
  cases src with
  | wallet =>
    simp only [openSession, tryWallet]
    split
    · rfl
    split
    · rfl
    · rw [preConsume_relayInfo]
  | subscription => simp only [openSession, trySubscription, preConsume_relayInfo]

theorem Relay.fresh_start (hq : Openable src acc₀ preConsumedQuota)
    (hopen : free = true ∨ (openSession src info t acc₀ preConsumedQuota {}).result.isOk = true) :
    (start free src info t acc₀ preConsumedQuota).Fresh acc₀ := by
  cases free with
  | true => rfl
  | false =>
    have hok := hopen.resolve_left (by simp)
    exact ⟨live_openSession hq hok, openSession_playground⟩

/-- **A request is charged for what it delivers.** The net debits of a clean
run are the quota of the delivered attempt, and zero when the request fails. With a
negative retry limit they are what was taken before the loop. -/
theorem relay_charged (free : Bool) (src : Source) (info : RelayInfo) (t : Trust)
    (acc₀ : Accounts) (preConsumedQuota retryTimes : Int) (outcomes : List Outcome)
    (hq : Openable src acc₀ preConsumedQuota)
    (hopen : free = true ∨ (openSession src info t acc₀ preConsumedQuota {}).result.isOk = true)
    (hclean : ∀ o ∈ outcomes, o.Clean (Relay.start free src info t acc₀ preConsumedQuota).source)
    (hok : ((Relay.start free src info t acc₀ preConsumedQuota).run
      retryTimes outcomes).1.ok = true) :
    let done := (Relay.start free src info t acc₀ preConsumedQuota).run retryTimes outcomes
    done.1.Charged acc₀ done.2 := by
  intro done
  have hfresh : (Relay.start free src info t acc₀ preConsumedQuota).Fresh acc₀ :=
    Relay.fresh_start hq hopen
  simp only [done, Relay.run] at hok ⊢
  by_cases hneg : retryTimes < 0
  · rw [if_pos hneg]
    exact hfresh.skipped
  rw [if_neg hneg] at hok ⊢
  rcases attempts_clean (r := Relay.start free src info t acc₀ preConsumedQuota)
    outcomes retryTimes.toNat hclean with hrun | ⟨quota, hquota, hrun⟩
  · simp only [hrun] at hok ⊢
    exact hfresh.refunded hq.1 hok
  · simp only [hrun] at hok ⊢
    exact hfresh.settled hq.1 hquota hok

/-- A request of 10 on the sample accounts. -/
def sampleRun (outcomes : List Outcome) : Relay × Ending :=
  (Relay.start false .wallet {} {} sampleAccounts 10).run 2 outcomes

/-- Two upstream errors, then an answer with a usage of 7. -/
theorem relay_charged_sample :
    let done := sampleRun [.upstreamError true, .upstreamError true, .success [] 7]
    done.1.Charged sampleAccounts done.2 :=
  relay_charged false .wallet {} {} sampleAccounts 10 2 _
    ⟨by decide, (by decide : (0 : Int) ≤ 10)⟩ (by decide) (by decide) (by decide)

/-- The abandoned attempt settles 3 and the delivered one is worth 50: the
user pays 3. When the retry fails as well, the 3 stay charged. -/
theorem relay_timeout_replaces_charge :
    (sampleRun [.firstChunkTimeout 3 true, .success [] 50]).1.ok = true ∧
      (sampleRun [.firstChunkTimeout 3 true, .success [] 50]).2 = .delivered 50 ∧
      fundingDebit (.wallet 0) sampleAccounts
        (sampleRun [.firstChunkTimeout 3 true, .success [] 50]).1.accounts = 3 ∧
      (sampleRun [.firstChunkTimeout 3 true, .unavailable]).1.ok = true ∧
      (sampleRun [.firstChunkTimeout 3 true, .unavailable]).2 = .failed ∧
      fundingDebit (.wallet 0) sampleAccounts
        (sampleRun [.firstChunkTimeout 3 true, .unavailable]).1.accounts = 3 := by
  decide

end HermesToken.Billing
