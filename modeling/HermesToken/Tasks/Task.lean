import HermesToken.Lib.GoString
import Mathlib.Data.List.Sort
import Mathlib.Data.Rat.Floor

/-!
# Asynchronous tasks

The row of a task, what a poller makes of an upstream answer
(`updateVideoSingleTask` and `updateSunoTasks` of `service/task_polling.go`),
and what a task's billing moves (`service/task_billing.go`). Everything here is
about one task and the poller's own copy of it; who writes what to the database
is in `Tasks.Polling`.
-/

namespace HermesToken.Tasks

open Lib

/-! ## The row -/

inductive TaskStatus where
  | notStart
  | submitted
  | queued
  | inProgress
  | failure
  | success
  | unknown
  | other (text : String)
  deriving DecidableEq

def TaskStatus.ofString (text : String) : TaskStatus :=
  if text = "NOT_START" then notStart
  else if text = "SUBMITTED" then submitted
  else if text = "QUEUED" then queued
  else if text = "IN_PROGRESS" then inProgress
  else if text = "FAILURE" then failure
  else if text = "SUCCESS" then success
  else if text = "UNKNOWN" then unknown
  else other text

/-- A task in this status is not polled any more. -/
def TaskStatus.finished : TaskStatus → Bool
  | failure | success => true
  | _ => false

inductive TaskPlatform where
  | suno
  | midjourney
  | other (name : String)
  deriving DecidableEq

/-- What the billing of the polling phase reads of the submission. -/
structure TaskBillingContext where
  groupRatio : ℚ := 1
  otherRatios : List (String × ℚ) := []
  originModelName : String := ""
  perCallBilling : Bool := false

structure TaskPrivateData where
  (upstreamTaskID resultURL : String := "")
  billingSource : String := "wallet"
  (subscriptionId tokenId : Int := 0)
  billingContext : Option TaskBillingContext := none

structure Task where
  id : Int := 0
  taskID : String
  platform : TaskPlatform
  userId : Int
  group : String := ""
  (channelId quota : Int)
  status : TaskStatus := .notStart
  failReason : String := ""
  submitTime : Int
  (startTime finishTime : Int := 0)
  progress : String := "0%"
  originModelName : String := ""
  privateData : TaskPrivateData := {}
  data : List UInt8 := []

/-- The id the task has at its provider. Old rows have it in `TaskID`. -/
def Task.getUpstreamTaskID (t : Task) : String :=
  if t.privateData.upstreamTaskID ≠ "" then t.privateData.upstreamTaskID else t.taskID

/-- `SubmitTime > 0 && SubmitTime < legacyTaskCutoff`: the sweeper does not
refund tasks of the old system. -/
def Task.isLegacy (t : Task) : Bool := 0 < t.submitTime && t.submitTime < 1740182400

structure Task.Snapshot where
  status : TaskStatus
  progress : String
  (startTime finishTime : Int)
  (failReason resultURL : String)
  data : List UInt8
  deriving DecidableEq

def Task.snapshot (t : Task) : Snapshot where
  status := t.status
  progress := t.progress
  startTime := t.startTime
  finishTime := t.finishTime
  failReason := t.failReason
  resultURL := t.privateData.resultURL
  data := t.data

/-! ## A video answer -/

structure TaskInfo where
  status : String
  (reason url progress : String := "")
  totalTokens : Int := 0
  deriving DecidableEq

def failTaskInfo (reason : String) : TaskInfo := { status := "FAILURE", reason }

/-- The task of a response in this system's own format. -/
structure HermesTask where
  (status progress failReason : String)

/-- The result URL is not part of the format, so `GetResultURL` is the fail
reason. -/
def HermesTask.info (t : HermesTask) : TaskInfo where
  status := t.status
  reason := t.failReason
  url := t.failReason
  progress := t.progress

/-- What the code reads from a response body: the body as a successful
response of this system, if it is one, what the adaptor parses it to, the code
of the error that it carries, if it has the form of an error, and the body
without its large parts. -/
structure VideoBody where
  hermes : Option HermesTask := none
  parsed : Except String TaskInfo
  errorCode : Option (Option String) := none
  redacted : List UInt8 := []

/-- The result that the body stands for; `none` is a rate limit, which ends
the call without an error. -/
def videoTaskResult (b : VideoBody) : Except String (Option TaskInfo) := do
  let info ← match b.hermes with
    | some t => pure t.info
    | none => b.parsed
  if info.status ≠ "" then return some info
  else match b.errorCode with
    | none => return some info
    | some (some "429") => return none
    | some (some _) => return some (failTaskInfo "upstream returned error")
    | some none => return some (failTaskInfo "upstream returned unrecognized message")

/-- What is to be done about the money of a task. -/
inductive Billing where
  | keep
  | refund
  | settle (info : TaskInfo)
  deriving DecidableEq

/-- What a call makes of a poller's copy: the copy, whether it is written,
whether the billing depends on that write, and the billing. -/
structure VideoUpdate where
  task : Task
  (write guarded : Bool := false)
  billing : Billing := .keep

def resultURL (serverAddress : String) (t : Task) (url : String) : String :=
  if url.startsWith "data:" || url = "" then
    serverAddress ++ "/v1/videos/" ++ t.taskID ++ "/content"
  else url

/-- The copy under the status of a result; `none` for a status that is not one
of an answer. -/
def applyStatus (serverAddress : String) (now : Int) (t : Task) (info : TaskInfo) :
    Option Task :=
  let t := { t with status := .ofString info.status }
  let progress (default : String) := if info.progress ≠ "" then info.progress else default
  let finishTime := if t.finishTime = 0 then now else t.finishTime
  match t.status with
  | .submitted => some { t with progress := progress "10%" }
  | .queued => some { t with progress := progress "20%" }
  | .inProgress => some { t with
      progress := progress "30%"
      startTime := if t.startTime = 0 then now else t.startTime }
  | .success => some { t with
      progress := progress "100%"
      finishTime := finishTime
      privateData := { t.privateData with resultURL := resultURL serverAddress t info.url } }
  -- here the progress of the answer is overwritten
  | .failure => some { t with
      progress := "100%"
      finishTime := finishTime
      failReason := info.reason }
  | _ => none

/-- The billing that a result asks for. -/
def billingOf (t : Task) (info : TaskInfo) : Billing :=
  match TaskStatus.ofString info.status with
  | .success => .settle info
  | .failure => if t.quota ≠ 0 then .refund else .keep
  | _ => .keep

/-- `updateVideoSingleTask` after the body was read. The billing of a copy that
was finished BEFORE the call does not depend on a write. -/
def updateVideo (serverAddress : String) (now : Int) (t : Task) (b : VideoBody) : VideoUpdate :=
  match videoTaskResult b with
  | .error _ => { task := t }
  | .ok none => { task := { t with data := b.redacted } }
  | .ok (some info) =>
    match applyStatus serverAddress now { t with data := b.redacted } info with
    | none => { task := { t with data := b.redacted, status := .ofString info.status } }
    | some t' =>
      let isDone := t'.status.finished
      if isDone && t.status ≠ t'.status then
        { task := t', write := true, guarded := true, billing := billingOf t info }
      else { task := t', write := t.snapshot ≠ t'.snapshot, billing := billingOf t info }

/-! ## A Suno answer -/

structure SunoDataResponse where
  (taskID status : String)
  failReason : String := ""
  (submitTime startTime finishTime : Int := 0)
  data : List UInt8 := []

def TaskStatus.text : TaskStatus → String
  | .notStart => "NOT_START"
  | .submitted => "SUBMITTED"
  | .queued => "QUEUED"
  | .inProgress => "IN_PROGRESS"
  | .failure => "FAILURE"
  | .success => "SUCCESS"
  | .unknown => "UNKNOWN"
  | .other text => text

/-- The data of the two are compared after their bytes were sorted. -/
def taskNeedsUpdate (old : Task) (new : SunoDataResponse) : Bool :=
  old.submitTime ≠ new.submitTime || old.startTime ≠ new.startTime ||
    old.finishTime ≠ new.finishTime || old.status.text ≠ new.status ||
    old.failReason ≠ new.failReason || (old.status.finished && old.progress ≠ "100%") ||
    old.data.insertionSort (· ≤ ·) ≠ new.data.insertionSort (· ≤ ·)

/-- The copy after an item of the answer, and whether its quota is returned. -/
def applySunoItem (t : Task) (item : SunoDataResponse) : Task × Bool :=
  let status := if item.status ≠ "" then .ofString item.status else t.status
  let failed := item.failReason ≠ "" || status = .failure
  ({ t with
      status := status
      failReason := if item.failReason ≠ "" then item.failReason else t.failReason
      submitTime := if item.submitTime ≠ 0 then item.submitTime else t.submitTime
      startTime := if item.startTime ≠ 0 then item.startTime else t.startTime
      finishTime := if item.finishTime ≠ 0 then item.finishTime else t.finishTime
      progress := if failed || item.status = "SUCCESS" then "100%" else t.progress
      data := item.data }, failed)

/-! ## Billing -/

inductive FundingSource where
  | wallet (userId : Int)
  | subscription (id : Int)

def taskIsSubscription (t : Task) : Bool :=
  t.privateData.billingSource = "subscription" && 0 < t.privateData.subscriptionId

def fundingSource (t : Task) : FundingSource :=
  if taskIsSubscription t then .subscription t.privateData.subscriptionId else .wallet t.userId

/-- What a refund of the task pays, and where to. -/
def Task.ticket (t : Task) : Int × FundingSource := (t.quota, fundingSource t)

inductive BillingKind where
  | refund
  | settle
  deriving DecidableEq

/-- What a billing step did for a task: what was asked of its source of funding
and of its token (a return is negative). A subscription gives no more back than
was used of it: `PostConsumeUserSubscriptionDelta` stops at zero. -/
structure BillingEntry where
  task : Int
  kind : BillingKind
  funding : Option (FundingSource × Int)
  token : Option (Int × Int)

/-- What the database answers during a billing step. -/
structure BillingEnv where
  (fundingError tokenError : Bool := false)

/-- `taskAdjustFunding` and `taskAdjustTokenQuota`: no token is touched when
the funding fails. -/
def adjust (env : BillingEnv) (t : Task) (kind : BillingKind) (delta : Int) :
    Option BillingEntry :=
  if env.fundingError then none
  else some {
    task := t.id
    kind := kind
    funding := some (fundingSource t, delta)
    token :=
      if t.privateData.tokenId ≤ 0 || delta = 0 || env.tokenError then none
      else some (t.privateData.tokenId, delta) }

def refundTaskQuota (env : BillingEnv) (t : Task) : Option BillingEntry :=
  if t.quota = 0 then none else adjust env t .refund (-t.quota)

/-- `RecalculateTaskQuota`: what is moved, and the quota of the copy. -/
def recalculateTaskQuota (env : BillingEnv) (t : Task) (actualQuota : Int) :
    Option BillingEntry × Int :=
  if actualQuota ≤ 0 || actualQuota - t.quota = 0 then (none, t.quota)
  else match adjust env t .settle (actualQuota - t.quota) with
    | none => (none, t.quota)
    | some entry => (some entry, actualQuota)

structure RatioSettings where
  modelRatio : String → Option ℚ
  groupRatio : String → ℚ
  groupGroupRatio : String → String → Option ℚ
  userGroup : Int → String

def taskModelName (t : Task) : String :=
  match t.privateData.billingContext with
  | some bc => if bc.originModelName ≠ "" then bc.originModelName else t.originModelName
  | none => t.originModelName

/-- The part of a rational before its point. -/
def truncate (q : ℚ) : Int := if 0 ≤ q then ⌊q⌋ else ⌈q⌉

/-- The ratio `RecalculateTaskQuotaByTokens` applies for a group. -/
def RatioSettings.finalGroupRatio (settings : RatioSettings) (group : String) : ℚ :=
  (settings.groupGroupRatio group group).getD (settings.groupRatio group)

/-- The model's and the group's ratio that `RecalculateTaskQuotaByTokens` applies
to a task; `none` when it does nothing. -/
def RatioSettings.appliedRatios (settings : RatioSettings) (t : Task) : Option (ℚ × ℚ) :=
  match settings.modelRatio (taskModelName t) with
  | none => none
  | some modelRatio =>
    let group := if t.group = "" then settings.userGroup t.userId else t.group
    if modelRatio ≤ 0 || group = "" then none
    else some (modelRatio, settings.finalGroupRatio group)

/-- The quota of `RecalculateTaskQuotaByTokens`; `none` keeps the quota. -/
def quotaByTokens (settings : RatioSettings) (t : Task) (totalTokens : Int) : Option Int :=
  (settings.appliedRatios t).map fun (modelRatio, groupRatio) =>
    let ratios := (t.privateData.billingContext.map (·.otherRatios)).getD []
    let otherMultiplier :=
      ((ratios.map (·.2)).filter fun r => r ≠ 1 && 0 < r).foldl (· * ·) 1
    truncate (totalTokens * modelRatio * groupRatio * otherMultiplier)

/-- `settleTaskBillingOnComplete`; `adjusted` is what the adaptor returns. -/
def settleTaskBilling (settings : RatioSettings) (env : BillingEnv) (adjusted : Int) (t : Task)
    (info : TaskInfo) : Option BillingEntry × Int :=
  if (t.privateData.billingContext.map (·.perCallBilling)).getD false then (none, t.quota)
  else if adjusted > 0 then recalculateTaskQuota env t adjusted
  else if info.totalTokens > 0 then
    match quotaByTokens settings t info.totalTokens with
    | some quota => recalculateTaskQuota env t quota
    | none => (none, t.quota)
  else (none, t.quota)

end HermesToken.Tasks
