import HermesToken.Billing.Held
import HermesToken.Billing.Price
import HermesToken.Tasks.Task

/-!
# Submitting a task

`RelayTask` of `controller/relay.go` with `RelayTaskSubmit`. Every attempt
prices the request anew, but only the first one that is not free pre-consumes.
After the loop the quota of the last attempt is settled and written into the
row of the task. An error of the settlement and an error of the insert are only
logged.
-/

namespace HermesToken.Tasks

open Lib
open HermesToken.Billing (Accounts BillingSession Faults RelayInfo Source Trust PriceSettings
  PriceInfo PriceData SameFunds Held fundingDebit preConsumeBilling
  preConsumeBilling_holds sessionAccepts sameFunds_increaseTokenQuota)

/-- What is the same in all attempts of a request. The row of a subscription
has a positive id. -/
structure TaskRequest where
  info : RelayInfo := {}
  trust : Trust := {}
  userId : Int
  tokenId : Int := 0
  publicTaskID : String
  userGroup : String := "default"
  (acceptUnsetRatioModel isAdmin : Bool := false)
  subscriptionId : { id : Int // 0 < id } := ⟨1, by decide⟩

/-- An error of an attempt. A local one is not retried. -/
structure TaskError where
  localError : Bool := false

inductive TaskAnswer where
  /-- The request cannot be built or sent, or is answered with an error. -/
  | failed (error : TaskError)
  | accepted (upstreamTaskID : String) (taskData : List UInt8)
      (adjustedRatios : List (String × ℚ))

/-- What an attempt meets. `tries` are the funding sources in the order in
which the user's preference has them tried, and `retry` is the answer of
`shouldRetryTaskRelay` past local errors and the budget. -/
structure SubmitAttempt where
  channel : Bool := true
  channelId : Int := 1
  retry : Bool := true
  platform : TaskPlatform := .other "35"
  adaptor : Bool := true
  invalid : Option TaskError := none
  modelMapped : Bool := true
  modelName : String
  usingGroup : String := "default"
  estimatedRatios : List (String × ℚ) := []
  tries : List (Source × Faults) := [(.wallet, {})]
  answer : TaskAnswer

structure TaskSubmitResult where
  upstreamTaskID : String
  taskData : List UInt8
  platform : TaskPlatform
  quota : Int

/-- The part of the relay information that attempts change. -/
structure Submission where
  billing : Option BillingSession := none
  accounts : Accounts
  price : PriceData := {}
  usingGroup : String := ""
  channelId : Int := 0
  modelName : String := ""

/-! ## An attempt -/

/-- Step 7: only the first attempt with a price pre-consumes, and it may not
be trusted. -/
def preConsumeTask (req : TaskRequest) (a : SubmitAttempt) (st : Submission) :
    Submission × Except TaskError Unit :=
  if st.billing.isNone && !st.price.freeModel then
    match preConsumeBilling { req.info with forcePreConsume := true } req.trust st.price.quota
      a.tries st.accounts with
    | (acc, none) => ({ st with accounts := acc }, .error {})
    | (acc, some s) => ({ st with accounts := acc, billing := some s }, .ok ())
  else (st, .ok ())

/-- The end of an attempt: the adaptor may adjust the ratios. -/
def finishSubmit (a : SubmitAttempt) (st : Submission) :
    Submission × Except TaskError TaskSubmitResult :=
  match a.answer with
  | .failed e => (st, .error e)
  | .accepted upstreamTaskID taskData adjusted =>
    let quota :=
      if adjusted = [] then st.price.quota else st.price.recalcQuotaFromRatios adjusted
    let price :=
      if adjusted = [] then st.price else { st.price with otherRatios := adjusted, quota }
    ({ st with price }, .ok ⟨upstreamTaskID, taskData, a.platform, quota⟩)

def relayTaskSubmit (settings : PriceSettings) (req : TaskRequest) (a : SubmitAttempt)
    (st : Submission) : Submission × Except TaskError TaskSubmitResult :=
  let st := { st with
    usingGroup := a.usingGroup, channelId := a.channelId, modelName := a.modelName }
  if !a.adaptor then (st, .error { localError := true })
  else match a.invalid with
  | some e => (st, .error e)
  | none =>
    if !a.modelMapped then (st, .error { localError := true })
    else match settings.taskPrice
      { originModelName := a.modelName, userGroup := req.userGroup, usingGroup := a.usingGroup
        acceptUnsetRatioModel := req.acceptUnsetRatioModel, isAdmin := req.isAdmin }
      a.estimatedRatios with
    | .error _ => (st, .error {})
    | .ok price =>
      match preConsumeTask req a { st with price } with
      | (st, .error e) => (st, .error e)
      | (st, .ok _) => finishSubmit a st

/-- The retry loop. When the attempts are used up no channel is found. -/
def relayAttempts (settings : PriceSettings) (req : TaskRequest) :
    ℕ → List SubmitAttempt → Submission → Submission × Except TaskError TaskSubmitResult
  | _, [], st => (st, .error { localError := true })
  | budget, a :: rest, st =>
    if !a.channel then (st, .error { localError := true })
    else match relayTaskSubmit settings req a st with
      | (st, .ok result) => (st, .ok result)
      | (st, .error e) =>
        match budget with
        | 0 => (st, .error e)
        | budget + 1 =>
          if !e.localError && a.retry then relayAttempts settings req budget rest st
          else (st, .error e)

/-! ## After the loop -/

/-- `PostConsumeQuota` of a request without a session, which is charged to the
wallet. The token is not touched when the wallet fails. -/
def postConsumeWallet (info : RelayInfo) (acc : Accounts) (quota : Int) (o : Faults) : Accounts :=
  match (if quota > 0 then Billing.decreaseUserQuota acc quota o.funding
    else Billing.increaseUserQuota acc (-quota) o.funding) with
  | .error _ => acc
  | .ok acc₁ =>
    if info.isPlayground then acc₁
    else (Billing.Effect.of acc₁ (if quota > 0 then Billing.decreaseTokenQuota acc₁ quota o.token
      else Billing.increaseTokenQuota acc₁ (-quota) o.token)).1

/-- `SettleBilling`. -/
def settleTask (req : TaskRequest) (st : Submission) (quota : Int) (o : Faults) : Submission :=
  match st.billing with
  | some s =>
    let c := s.settle st.accounts quota o
    { st with billing := some c.session, accounts := c.accounts }
  | none =>
    if quota = 0 then st
    else { st with accounts := postConsumeWallet req.info st.accounts quota o }

/-- The deferred refund of a request that failed, with its goroutine run to
the end. -/
def refundTask (st : Submission) : Submission :=
  match st.billing with
  | none => st
  | some s => { st with
      billing := some s.refund.1
      accounts := (Billing.Relay.runRefundJob s.refund.1 s.refund.2 st.accounts).1 }

/-- `BillingSource` of the relay information: it is set with a session. -/
def Submission.billingSource (st : Submission) : String :=
  match st.billing with
  | none => ""
  | some s => if s.funding.isSubscription then "subscription" else "wallet"

/-- The row: `InitTask` and what `RelayTask` adds. -/
def initTask (settings : PriceSettings) (req : TaskRequest) (now : Int) (st : Submission)
    (result : TaskSubmitResult) : Task where
  taskID := req.publicTaskID
  platform := result.platform
  userId := req.userId
  group := st.usingGroup
  channelId := st.channelId
  quota := result.quota
  submitTime := now
  originModelName := st.modelName
  privateData := {
    upstreamTaskID := result.upstreamTaskID
    billingSource := st.billingSource
    subscriptionId := if st.billingSource = "subscription" then req.subscriptionId else 0
    tokenId := req.tokenId
    billingContext := some {
      groupRatio := st.price.groupRatio
      otherRatios := st.price.otherRatios
      originModelName := st.modelName
      perCallBilling := decide (st.modelName ∈ settings.taskPricePatches) || st.price.usePrice } }
  data := result.taskData

/-- What happens to a request: its attempts, which parts of the settlement the
database accepts, and whether the row is inserted. -/
structure TaskRun where
  retryTimes : Int := 3
  attempts : List SubmitAttempt
  settle : Faults := {}
  inserted : Bool := true
  now : Int := 0

/-- **`RelayTask`.** The accounts it leaves and the row it inserts. With a
negative number of retries there is no attempt and no result. -/
def relayTask (settings : PriceSettings) (req : TaskRequest) (acc : Accounts) (run : TaskRun) :
    Accounts × Option Task :=
  if run.retryTimes < 0 then (acc, none)
  else match relayAttempts settings req run.retryTimes.toNat run.attempts { accounts := acc } with
    | (st, .error _) => ((refundTask st).accounts, none)
    | (st, .ok result) =>
      let st := settleTask req st result.quota run.settle
      (st.accounts,
        if run.inserted then some (initTask settings req run.now st result) else none)

/-! ## The loop -/

/-- The request holds what its session pre-consumed, or nothing. -/
def Submission.Holds (acc₀ : Accounts) (st : Submission) : Prop :=
  match st.billing with
  | some s => Held acc₀ s st.accounts
  | none => SameFunds acc₀ st.accounts

/-- The adaptor adjusts by ratios that are not negative. -/
def SubmitAttempt.RatiosNonneg (a : SubmitAttempt) : Prop :=
  match a.answer with
  | .failed _ => True
  | .accepted _ _ adjusted => ∀ r ∈ adjusted, 0 ≤ r.2

theorem preConsumeTask_keeps (req : TaskRequest) (a : SubmitAttempt) (st : Submission) :
    (preConsumeTask req a st).1.price = st.price ∧
      (preConsumeTask req a st).1.usingGroup = st.usingGroup := by
  unfold preConsumeTask
  split
  · split <;> exact ⟨rfl, rfl⟩
  · exact ⟨rfl, rfl⟩

theorem preConsumeTask_holds (req : TaskRequest) (a : SubmitAttempt) (h : st.Holds acc₀)
    (hprice : st.price.Nonneg) (hrec : acc₀.record = none) :
    (preConsumeTask req a st).1.Holds acc₀ := by
  simp only [preConsumeTask]
  split
  · rename_i hfst
    have hnone : st.billing = none := by simpa using (Bool.and_eq_true_iff.mp hfst).1
    have hsame : SameFunds acc₀ st.accounts := by simpa [Submission.Holds, hnone] using h
    have htries := preConsumeBilling_holds { req.info with forcePreConsume := true } req.trust
      hprice.quota hrec a.tries st.accounts hsame
    split
    · rename_i heq
      rw [heq] at htries
      simpa [Submission.Holds, hnone] using htries
    · rename_i heq
      rw [heq] at htries
      exact htries
  · exact h

theorem finishSubmit_holds (h : st.Holds acc₀) (hprice : st.price.Nonneg) (ha : a.RatiosNonneg) :
    (finishSubmit a st).1.Holds acc₀ ∧
      ∀ result, (finishSubmit a st).2 = .ok result → 0 ≤ result.quota := by
  simp only [finishSubmit, SubmitAttempt.RatiosNonneg] at ha ⊢
  split
  · exact ⟨h, fun result hres => (by cases hres)⟩
  rename_i hans
  rw [hans] at ha
  refine ⟨h, fun result hres => ?_⟩
  cases hres
  simp only
  split
  · exact hprice.quota
  · exact hprice.recalcQuotaFromRatios ha

/-- **An attempt** keeps what the request holds, whatever it meets. -/
theorem relayTaskSubmit_holds (req : TaskRequest) (hsettings : settings.Nonneg)
    (hrec : acc₀.record = none) (h : st.Holds acc₀) (ha : a.RatiosNonneg) :
    (relayTaskSubmit settings req a st).1.Holds acc₀ ∧
      ∀ result, (relayTaskSubmit settings req a st).2 = .ok result → 0 ≤ result.quota := by
  simp only [relayTaskSubmit]
  split
  · exact ⟨h, fun result hres => (by cases hres)⟩
  split
  · exact ⟨h, fun result hres => (by cases hres)⟩
  split
  · exact ⟨h, fun result hres => (by cases hres)⟩
  split
  · exact ⟨h, fun result hres => (by cases hres)⟩
  rename_i price hprice
  have hnn := hsettings.taskPrice_nonneg hprice
  generalize hcost : ({ st with
    usingGroup := a.usingGroup, channelId := a.channelId, modelName := a.modelName
    price } : Submission) = priced
  have hheld : priced.Holds acc₀ := by
    rw [← hcost]
    exact h
  have hnn' : priced.price.Nonneg := by
    rw [← hcost]
    exact hnn
  have hpre := preConsumeTask_holds req a hheld hnn' hrec
  have hkept := (preConsumeTask_keeps req a priced).1
  split
  · rename_i heq
    rw [heq] at hpre
    exact ⟨hpre, fun result hres => (by cases hres)⟩
  · rename_i heq
    rw [heq] at hpre hkept
    exact finishSubmit_holds hpre (hkept ▸ hnn') ha

/-- By induction on the attempts: the loop ends with what the last session
holds. -/
theorem relayAttempts_holds (req : TaskRequest) (hsettings : settings.Nonneg)
    (hrec : acc₀.record = none) :
    ∀ (attempts : List SubmitAttempt) (budget : ℕ) (st : Submission), st.Holds acc₀ →
      (∀ a ∈ attempts, a.RatiosNonneg) →
      (relayAttempts settings req budget attempts st).1.Holds acc₀ ∧
        ∀ result, (relayAttempts settings req budget attempts st).2 = .ok result →
          0 ≤ result.quota := by
  intro attempts
  induction attempts with
  | nil =>
    intro budget st h _
    cases budget <;> exact ⟨h, fun result hres => (by cases hres)⟩
  | cons a rest ih =>
  intro budget st h hrat
  have hsubmit := relayTaskSubmit_holds req hsettings hrec h (hrat a List.mem_cons_self)
  unfold relayAttempts
  split
  · exact ⟨h, fun result hres => (by cases hres)⟩
  split
  · rename_i st' result heq
    rw [heq] at hsubmit
    exact hsubmit
  rename_i st' e heq
  rw [heq] at hsubmit
  split
  · exact ⟨hsubmit.1, fun result hres => (by cases hres)⟩
  split
  · exact ih _ st' hsubmit.1 fun b hb => hrat b (List.mem_cons_of_mem a hb)
  · exact ⟨hsubmit.1, fun result hres => (by cases hres)⟩

/-! ## The quota of the row -/

/-- The settlement of the request has nothing to move, or its funding step is
accepted. -/
def settlementAccepted (st : Submission) (quota : Int) (o : Faults) : Bool :=
  match st.billing with
  | some s => sessionAccepts s st.accounts quota o
  | none => quota = 0 || o.funding

/-- No database error after the loop: the funding step of the settlement is
accepted and the row is inserted. -/
def TaskRun.completes (settings : PriceSettings) (req : TaskRequest) (acc : Accounts)
    (run : TaskRun) : Bool :=
  match relayAttempts settings req run.retryTimes.toNat run.attempts { accounts := acc } with
  | (st, .ok result) => settlementAccepted st result.quota run.settle && run.inserted
  | (_, .error _) => true

section

variable {settings : PriceSettings}

theorem postConsumeWallet_debit (hfund : o.funding) :
    fundingDebit f acc₀ (postConsumeWallet info acc quota o) =
      fundingDebit f acc₀ acc + if f.isSubscription then 0 else quota := by
  have hwall : (if quota > 0 then Billing.decreaseUserQuota acc quota o.funding
      else Billing.increaseUserQuota acc (-quota) o.funding) =
        .ok (acc.take (.wallet 0) quota) := by
    rw [hfund]
    split
    · rw [Billing.decreaseUserQuota_ok_iff]
      exact ⟨by omega, rfl, rfl⟩
    rw [Billing.increaseUserQuota_ok_iff]
    refine ⟨by omega, rfl, ?_⟩
    simp [Accounts.take, Int.sub_eq_add_neg]
  have htaken : fundingDebit f acc₀ (acc.take (.wallet 0) quota) =
      fundingDebit f acc₀ acc + if f.isSubscription then 0 else quota := by
    cases f <;> simp only [fundingDebit, Accounts.take, Billing.FundingSource.isSubscription,
      Bool.false_eq_true, if_false, if_true] <;> omega
  have hsame : SameFunds (acc.take (.wallet 0) quota) (postConsumeWallet info acc quota o) := by
    simp only [postConsumeWallet, hwall]
    generalize acc.take (.wallet 0) quota = acc₁
    split
    · exact .refl acc₁
    split
    · cases h : Billing.decreaseTokenQuota acc₁ quota o.token with
      | error => exact .refl acc₁
      | ok =>
        rw [Billing.decreaseTokenQuota_ok_iff] at h
        rw [← h.2.2]
        exact ⟨rfl, rfl, rfl⟩
    · cases h : Billing.increaseTokenQuota acc₁ (-quota) o.token with
      | error => exact .refl acc₁
      | ok => exact sameFunds_increaseTokenQuota h
  rw [hsame.fundingDebit_eq, htaken]

theorem settleTask_debit (h : st.Holds acc₀) (hused : 0 ≤ acc₀.amountUsed)
    (hquo : 0 ≤ quota) (hacc : settlementAccepted st quota o) (f : Billing.FundingSource) :
    fundingDebit f acc₀ (settleTask req st quota o).accounts =
      if f.isSubscription = decide ((settleTask req st quota o).billingSource = "subscription")
        then quota else 0 := by
  cases hbill : st.billing with simp only [Submission.Holds, hbill] at h
  | some s =>
    simp only [settlementAccepted, hbill] at hacc
    obtain ⟨hkind, hdebit⟩ := h.settle hused hquo hacc
    simp only [settleTask, hbill, Submission.billingSource, hdebit f, hkind]
    cases s.funding.isSubscription <;> rfl
  | none =>
    simp only [settlementAccepted, hbill, Bool.or_eq_true, decide_eq_true_eq] at hacc
    have hnothing : fundingDebit f acc₀ st.accounts = 0 := by
      rw [h.fundingDebit_eq, Billing.fundingDebit_self]
    simp only [settleTask, hbill]
    by_cases hzero : quota = 0
    · subst hzero
      rw [if_pos rfl, hnothing, ite_self]
    simp only [if_neg hzero, Submission.billingSource]
    rw [postConsumeWallet_debit (hacc.resolve_left hzero), hnothing]
    cases f.isSubscription <;> simp

end

/-- **The quota of a task is what was charged for it.** For every run of
`RelayTask` that completes, with prices and ratios that are not negative: if a
row is inserted, its quota was taken from the source that the row names, and
nothing from the other; if none is inserted, nothing was taken. -/
theorem relayTask_quota_charged (settings : PriceSettings) (req : TaskRequest) (acc₀ : Accounts)
    (run : TaskRun) (hsettings : settings.Nonneg)
    (hratios : ∀ a ∈ run.attempts, a.RatiosNonneg) (hrecord : acc₀.record = none)
    (hused : 0 ≤ acc₀.amountUsed) (hcompletes : run.completes settings req acc₀ = true) :
    match relayTask settings req acc₀ run with
    | (acc, some t) => ∀ f, fundingDebit f acc₀ acc =
        if f.isSubscription = taskIsSubscription t then t.quota else 0
    | (acc, none) => ∀ f, fundingDebit f acc₀ acc = 0 := by
  simp only [relayTask]
  by_cases hretry : run.retryTimes < 0
  · rw [if_pos hretry]
    exact fun f => Billing.fundingDebit_self
  rw [if_neg hretry]
  have hloop := relayAttempts_holds req hsettings hrecord run.attempts
    run.retryTimes.toNat { accounts := acc₀ } (SameFunds.refl acc₀) hratios
  simp only [TaskRun.completes] at hcompletes
  generalize relayAttempts settings req run.retryTimes.toNat run.attempts { accounts := acc₀ } =
    ended at hloop hcompletes
  obtain ⟨st, outcome⟩ := ended
  cases outcome with
  | error =>
    intro f
    have hholds := hloop.1
    cases hbilling : st.billing with simp only [Submission.Holds, hbilling] at hholds
    | none =>
      simp only [refundTask, hbilling]
      rw [hholds.fundingDebit_eq, Billing.fundingDebit_self]
    | some =>
      simp only [refundTask, hbilling]
      exact hholds.refund hused f
  | ok result =>
    obtain ⟨haccepted, hinserted⟩ := Bool.and_eq_true_iff.mp hcompletes
    simp only [hinserted, if_true]
    intro f
    rw [settleTask_debit hloop.1 hused (hloop.2 result rfl) haccepted f]
    have hsubscription : taskIsSubscription (initTask settings req run.now
        (settleTask req st result.quota run.settle) result) =
          decide ((settleTask req st result.quota run.settle).billingSource = "subscription") := by
      simp only [taskIsSubscription, initTask]
      by_cases hsource : (settleTask req st result.quota run.settle).billingSource = "subscription"
      · simp [hsource, req.subscriptionId.property]
      · simp [hsource]
    rw [hsubscription]
    rfl

/-- A model at 0.002 a call, in a group of ratio 1 and a group of ratio 2. -/
def samplePrices : PriceSettings where
  modelPrice := fun name => if name = "video" then some (1 / 500) else none
  groupRatio := fun name => if name = "vip" then some 2 else none

theorem samplePrices_nonneg : samplePrices.Nonneg where
  quotaPerUnit := by decide +kernel
  modelPrice := by
    intro name price hprice
    simp only [samplePrices, Option.mem_def] at hprice
    split at hprice <;> cases hprice
    norm_num
  defaultModelPrice := nofun
  modelRatio := nofun
  groupRatio := by
    intro name ratio hratio
    simp only [samplePrices, Option.mem_def] at hratio
    split at hratio <;> cases hratio
    norm_num
  groupGroupRatio := nofun
  taskModelPricing := nofun

def sampleRequest : TaskRequest where
  userId := 7
  publicTaskID := "task_a"

def sampleFunds : Accounts := { userQuota := 10000, remainQuota := 10000 }

/-- The channel of the first attempt fails; the second one, in the dearer
group, takes the task. -/
def sampleAttempts : List SubmitAttempt :=
  [{ modelName := "video", answer := .failed {} },
    { modelName := "video", usingGroup := "vip", answer := .accepted "u1" [] [] }]

theorem relayTask_quota_charged_sample :
    match relayTask samplePrices sampleRequest sampleFunds { attempts := sampleAttempts } with
    | (acc, some t) => ∀ f, fundingDebit f sampleFunds acc =
        if f.isSubscription = taskIsSubscription t then t.quota else 0
    | (acc, none) => ∀ f, fundingDebit f sampleFunds acc = 0 :=
  relayTask_quota_charged samplePrices sampleRequest sampleFunds { attempts := sampleAttempts }
    samplePrices_nonneg
    (by
      intro a ha
      simp only [sampleAttempts, List.mem_cons, List.not_mem_nil, or_false] at ha
      rcases ha with rfl | rfl
      · trivial
      · intro r hr
        cases hr)
    rfl (by decide) (by decide +kernel)

/-- **A row that was not paid for, and a payment without a row.** The first
attempt pre-consumes 1000, the second one costs 2000. When the wallet refuses
the difference the row has 2000 and 1000 were taken. When the insert fails
there is no row and 2000 were taken. -/
theorem relayTask_quota_differs :
    (let run := relayTask samplePrices sampleRequest sampleFunds
      { attempts := sampleAttempts, settle := { funding := false } }
    run.2.map (·.quota) = some 2000 ∧ fundingDebit (.wallet 0) sampleFunds run.1 = 1000) ∧
    (let run := relayTask samplePrices sampleRequest sampleFunds
      { attempts := sampleAttempts, inserted := false }
    run.2 = none ∧ fundingDebit (.wallet 0) sampleFunds run.1 = 2000) := by
  decide +kernel

/-! ## The group ratio of the row -/

/-- The price has the ratio of the group in use. -/
def Submission.AtGroupRatio (settings : PriceSettings) (req : TaskRequest) (st : Submission) :
    Prop :=
  st.price.groupRatio = (settings.groupGroupRatio req.userGroup st.usingGroup).getD
    ((settings.groupRatio st.usingGroup).getD 1)

theorem relayTaskSubmit_atGroupRatio (h : relayTaskSubmit settings req a st = (st', .ok result)) :
    st'.AtGroupRatio settings req := by
  simp only [relayTaskSubmit] at h
  split at h
  · cases h
  split at h
  · cases h
  split at h
  · cases h
  split at h
  · cases h
  rename_i price hprice
  have hratio := PriceSettings.taskPrice_groupRatio hprice
  split at h
  · cases h
  rename_i hpre
  obtain ⟨hkept, hgroup⟩ := preConsumeTask_keeps req a { st with
    usingGroup := a.usingGroup, channelId := a.channelId, modelName := a.modelName, price }
  rw [hpre] at hkept hgroup
  simp only [finishSubmit] at h
  split at h
  · cases h
  cases h
  unfold Submission.AtGroupRatio
  split
  · rw [hkept, hgroup]; exact hratio
  · rw [hkept, hgroup]; exact hratio

theorem relayAttempts_atGroupRatio
    (h : relayAttempts settings req budget attempts st = (st', .ok result)) :
    st'.AtGroupRatio settings req := by
  induction attempts generalizing budget st with
  | nil => unfold relayAttempts at h; cases h
  | cons a rest ih =>
  unfold relayAttempts at h
  split at h
  · cases h
  split at h
  · rename_i hsubmit
    cases h
    exact relayTaskSubmit_atGroupRatio hsubmit
  split at h
  · cases h
  split at h
  · exact ih h
  · cases h

/-- What a recalculation reads, when the settings have not changed since. -/
def recalculationRatios (settings : PriceSettings) (userGroup : Int → String) :
    RatioSettings where
  modelRatio name :=
    if (settings.getModelRatio name).2 then some (settings.getModelRatio name).1 else none
  groupRatio group := (settings.groupRatio group).getD 1
  groupGroupRatio := settings.groupGroupRatio
  userGroup

theorem getD_eq_getD {x y : Option ℚ} {own : ℚ} : x.getD own = y.getD own ↔
    x = y ∨ x = none ∧ y = some own ∨ x = some own ∧ y = none := by
  cases x <;> cases y <;> simp [eq_comm]

/-- **A recalculation applies the ratio of the submission** exactly when it applies
none, or the special ratio of the user's group in the group of the task is that of
the latter in itself, or one of them is unset and the other the group's own ratio.
For a task without a group it takes the group that the user has then. -/
theorem recalculated_at_submitted_ratio (userGroup : Int → String)
    (h : relayTask settings req acc run = (acc', some t)) :
    let ratios := recalculationRatios settings userGroup
    let special := settings.groupGroupRatio
    let own := ratios.groupRatio
    ∃ bc, t.privateData.billingContext = some bc ∧
      ((∀ applied ∈ ratios.appliedRatios t, applied.2 = bc.groupRatio) ↔
        (∀ ratio ∈ ratios.modelRatio (taskModelName t), ratio ≤ 0) ∨
        if t.group = "" then userGroup t.userId = "" ∨
          (special (userGroup t.userId) (userGroup t.userId)).getD (own (userGroup t.userId)) =
            (special req.userGroup "").getD (own "")
        else special t.group t.group = special req.userGroup t.group ∨
          special t.group t.group = none ∧ special req.userGroup t.group = some (own t.group) ∨
          special t.group t.group = some (own t.group) ∧ special req.userGroup t.group = none) := by
  intro ratios special own
  obtain ⟨bc, hbc, hsubmitted⟩ : ∃ bc, t.privateData.billingContext = some bc ∧
      bc.groupRatio = (special req.userGroup t.group).getD (own t.group) := by
    simp only [relayTask] at h
    split at h
    · cases h
    split at h
    · cases h
    rename_i st result hloop
    obtain ⟨-, htask⟩ := Prod.mk.inj h
    split at htask
    · cases htask
      have hkept : (settleTask req st result.quota run.settle).price = st.price ∧
          (settleTask req st result.quota run.settle).usingGroup = st.usingGroup := by
        unfold settleTask
        split
        · exact ⟨rfl, rfl⟩
        · split <;> exact ⟨rfl, rfl⟩
      refine ⟨_, rfl, ?_⟩
      simp only [initTask, hkept]
      exact relayAttempts_atGroupRatio hloop
    · cases htask
  refine ⟨bc, hbc, ?_⟩
  rw [hsubmitted, RatioSettings.appliedRatios]
  cases ratios.modelRatio (taskModelName t) with
  | none => simp
  | some modelRatio =>
    rw [← getD_eq_getD]
    by_cases hpos : modelRatio ≤ 0
    · simp [hpos]
    by_cases hgroup : t.group = ""
    · by_cases huser : userGroup t.userId = "" <;>
        simp [hpos, hgroup, huser, ratios, recalculationRatios, RatioSettings.finalGroupRatio,
          special, own]
    · simp [hpos, hgroup, RatioSettings.finalGroupRatio]
      rfl

/-- A model with a ratio instead of a price. -/
def sampleRatios : PriceSettings :=
  { samplePrices with modelPrice := fun _ => none, modelRatio := fun _ => some (1 / 250) }

theorem recalculated_at_submitted_ratio_sample :
    let ratios := recalculationRatios sampleRatios fun _ => ""
    ∃ t bc, (relayTask sampleRatios sampleRequest sampleFunds
        { attempts := sampleAttempts }).2 = some t ∧ t.privateData.billingContext = some bc ∧
      ratios.appliedRatios t = some (1 / 250, 2) ∧
      ∀ applied ∈ ratios.appliedRatios t, applied.2 = bc.groupRatio := by
  intro ratios
  have hrow : (relayTask sampleRatios sampleRequest sampleFunds
      { attempts := sampleAttempts }).2.map (fun t => (t.group, ratios.appliedRatios t)) =
        some ("vip", some (1 / 250, 2)) := by decide +kernel
  obtain ⟨t, ht, hkept⟩ := Option.map_eq_some_iff.mp hrow
  obtain ⟨hgroup, happlied⟩ := Prod.mk.inj hkept
  obtain ⟨bc, hbc, hratio⟩ := recalculated_at_submitted_ratio (fun _ => "") (Prod.ext rfl ht)
  refine ⟨t, bc, ht, hbc, happlied, hratio.mpr (.inr ?_)⟩
  rw [hgroup, if_neg (by decide)]
  exact .inl rfl

/-- A user of `vip` has a special ratio in `default`, its own users do not. -/
theorem recalculated_at_another_ratio :
    let settings : PriceSettings := { sampleRatios with
      groupGroupRatio := fun userGroup _ => if userGroup = "vip" then some (1 / 2) else none }
    let ratios := recalculationRatios settings fun _ => "vip"
    (relayTask settings { sampleRequest with userGroup := "vip" } sampleFunds
      { attempts := [{ modelName := "video", answer := .accepted "u1" [] [] }] }).2.map
      (fun t => (t.privateData.billingContext.map (·.groupRatio),
        (ratios.appliedRatios t).map (·.2))) = some (some (1 / 2), some 1) := by
  decide +kernel

end HermesToken.Tasks
