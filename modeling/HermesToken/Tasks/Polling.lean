import HermesToken.Lib.Jobs
import HermesToken.Lib.Rows
import HermesToken.Lib.Run
import HermesToken.Tasks.Task

/-!
# Polling

The system of `service/task_polling.go`: any number of pollers, each of which
runs `TaskPollingLoop` over the one table of tasks. A poller works on COPIES of
the rows it has read, keyed by upstream id, and every call of the database is
a step of its own. Pollers are told apart by a number; the jobs of all of them
are in one list, of which a step takes any.
-/

namespace HermesToken.Tasks

open Lib List

structure Settings where
  taskQueryLimit : ℕ := 1000
  taskTimeoutMinutes : Int := 1440
  serverAddress : String := ""
  ratios : RatioSettings

inductive Job where
  | sweep
  | sweepTask (task : Task)
  | poll
  | failNull (ids : List Int)
  | suno (channelId : Int) (taskIds : List String)
  | sunoItem (item : SunoDataResponse)
  | save (task : Task)
  | video (platform : TaskPlatform) (channelId : Int) (taskIds : List String)
  | videoTask (platform : TaskPlatform) (taskId : String)
  | refund (task : Task)
  | settle (platform : TaskPlatform) (taskId : String) (task : Task) (info : TaskInfo)

/-- An entry of the map `taskM` of a poller. -/
structure Copy where
  poller : ℕ
  platform : TaskPlatform
  upstreamID : String
  task : Task

def Copy.key (c : Copy) : ℕ × TaskPlatform × String := (c.poller, c.platform, c.upstreamID)

structure World where
  tasks : List Task := []
  memory : List Copy := []
  jobs : List (ℕ × Job) := []
  ledger : List BillingEntry := []

/-- What the database, the channel cache and the upstream answer in a step. A
`none` of `video` is a request that failed; an answer without success of the
Suno upstream has no items. -/
structure Env where
  now : Int := 0
  dbError : Bool := false
  (channel adaptor : Bool := true)
  video : Option VideoBody := none
  suno : Except String (List SunoDataResponse) := .ok []
  adjusted : Int := 0
  billing : BillingEnv := {}

/-! ## The table -/

namespace World

variable (w : World)

def task? (id : Int) : Option Task := w.tasks.find? (·.id = id)

def statusOf (id : Int) : Option TaskStatus := (w.task? id).map (·.status)

/-- `UpdateWithStatus`: the row is written if it still has the status. -/
def updateWithStatus (t : Task) (fromStatus : TaskStatus) : World × Bool :=
  if w.statusOf t.id = some fromStatus then ({ w with tasks := saveRow Task.id t w.tasks }, true)
  else (w, false)

/-- `Update`: the row is written whatever it has become. -/
def saveTask (t : Task) : World := { w with tasks := saveRow Task.id t w.tasks }

/-- `TaskBulkUpdateByID` to FAILURE; a reason is set if there is one. -/
def failTasks (ids : List Int) (reason : Option String) : World :=
  { w with tasks := w.tasks.map fun r =>
    if r.id ∈ ids then
      { r with status := .failure, progress := "100%", failReason := reason.getD r.failReason }
    else r }

/-- `GetAllUnFinishSyncTasks`. -/
def unfinishedTasks (limit : ℕ) : List Task :=
  (w.tasks.filter fun r => r.progress ≠ "100%" && !r.status.finished).take limit

/-- `GetTimedOutUnfinishedTasks`, the oldest first. -/
def timedOutTasks (cutoff : Int) : List Task :=
  ((w.tasks.filter fun r => r.progress ≠ "100%" && !r.status.finished &&
    r.submitTime < cutoff).insertionSort fun a b => a.submitTime ≤ b.submitTime).take 100

def addJobs (i : ℕ) (jobs : List Job) : World := { w with jobs := w.jobs ++ jobs.map (i, ·) }

variable (i : ℕ) (platform : TaskPlatform)

def copy? (upstreamID : String) : Option Task :=
  (w.memory.find? fun c => c.key = (i, platform, upstreamID)).map (·.task)

/-- The poller changes its copy. -/
def setCopy (upstreamID : String) (t : Task) : World :=
  { w with memory := saveRow Copy.key ⟨i, platform, upstreamID, t⟩ w.memory }

/-- The rows of a channel, found in the map by their upstream ids. -/
def idsOf (taskIds : List String) : List Int :=
  taskIds.filterMap fun taskId => (w.copy? i platform taskId).map (·.id)

end World

/-! ## The plan of a poll -/

/-- The map of a platform's tasks; the last task of an upstream id counts. -/
def taskM (i : ℕ) (tasks : List Task) : List Copy :=
  (tasks.filter fun t => t.getUpstreamTaskID ≠ "").reverse.map fun t =>
    ⟨i, t.platform, t.getUpstreamTaskID, t⟩

def taskChannelM (tasks : List Task) : List (Int × List String) :=
  let known := tasks.filter fun t => t.getUpstreamTaskID ≠ ""
  (known.map (·.channelId)).dedup.map fun channelId =>
    (channelId, (known.filter fun t => t.channelId = channelId).map (·.getUpstreamTaskID))

/-- `DispatchPlatformUpdate`. -/
def dispatchPlatformUpdate (platform : TaskPlatform) (channels : List (Int × List String)) :
    List Job :=
  match platform with
  | .midjourney => []
  | .suno => channels.map fun c => .suno c.1 c.2
  | .other name => channels.map fun c => .video (.other name) c.1 c.2

def platformJobs (platform : TaskPlatform) (tasks : List Task) : List Job :=
  let nullTaskIds := (tasks.filter fun t => t.getUpstreamTaskID = "").map (·.id)
  (if nullTaskIds = [] then [] else [.failNull nullTaskIds]) ++
    dispatchPlatformUpdate platform (taskChannelM tasks)

def pollJobs (tasks : List Task) : List Job :=
  (tasks.map (·.platform)).dedup.flatMap fun platform =>
    platformJobs platform (tasks.filter fun t => t.platform = platform)

theorem pollJobs_planned (h : job ∈ pollJobs tasks) :
    (∃ ids, job = .failNull ids) ∨ (∃ channelId taskIds, job = .suno channelId taskIds) ∨
      ∃ platform channelId taskIds, job = .video platform channelId taskIds := by
  obtain ⟨platform, _, hjob⟩ := mem_flatMap.mp h
  rcases mem_append.mp hjob with hnull | hdispatched
  · split at hnull
    · cases hnull
    · exact .inl ⟨_, mem_singleton.mp hnull⟩
  cases platform with
  | midjourney => cases hdispatched
  | suno =>
    obtain ⟨c, _, rfl⟩ := mem_map.mp hdispatched
    exact .inr (.inl ⟨_, _, rfl⟩)
  | other name =>
    obtain ⟨c, _, rfl⟩ := mem_map.mp hdispatched
    exact .inr (.inr ⟨_, _, _, rfl⟩)

/-! ## A step -/

def timedOut (settings : Settings) (now : Int) (t : Task) : Task := { t with
  status := .failure
  progress := "100%"
  finishTime := now
  failReason :=
    if t.isLegacy then "任务超时（旧系统遗留任务，不进行退款，请联系管理员）"
    else "任务超时（" ++ toString settings.taskTimeoutMinutes ++ "分钟）" }

namespace World

variable (settings : Settings) (i : ℕ) (env : Env) (w : World)

/-- `sweepTimedOutTasks` reads its tasks. -/
def sweep : World :=
  if settings.taskTimeoutMinutes ≤ 0 || env.dbError then w
  else w.addJobs i
    ((w.timedOutTasks (env.now - settings.taskTimeoutMinutes * 60)).map .sweepTask)

def sweepTask (t : Task) : World :=
  if env.dbError then w
  else match w.updateWithStatus (timedOut settings env.now t) t.status with
    | (w, false) => w
    | (w, true) =>
      if !t.isLegacy && t.quota ≠ 0 then w.addJobs i [.refund (timedOut settings env.now t)]
      else w

/-- `TaskPollingLoop` reads the unfinished tasks and plans. -/
def poll : World :=
  let tasks := if env.dbError then [] else w.unfinishedTasks settings.taskQueryLimit
  addJobs { w with memory := taskM i tasks ++ w.memory.filter (·.poller ≠ i) } i (pollJobs tasks)

def failNull (ids : List Int) : World :=
  if env.dbError then w else w.failTasks ids none

/-- `updateSunoTasks` up to its loop. -/
def suno (channelId : Int) (taskIds : List String) : World :=
  if taskIds = [] then w
  else if !env.channel then
    if env.dbError then w
    else w.failTasks (w.idsOf i .suno taskIds)
      (some ("获取渠道信息失败，请联系管理员，渠道ID：" ++ toString channelId))
  else if !env.adaptor then w
  else match env.suno with
    | .error _ => w
    | .ok items => w.addJobs i (items.map .sunoItem)

/-- A turn of the loop of `updateSunoTasks`. The quota is returned BEFORE the
task is saved. An item that was not asked for is a nil pointer: the poller is
gone. -/
def sunoItem (item : SunoDataResponse) : World :=
  match w.copy? i .suno item.taskID with
  | none => { w with
      memory := w.memory.filter (·.poller ≠ i)
      jobs := w.jobs.filter (·.1 ≠ i) }
  | some t =>
    if !taskNeedsUpdate t item then w
    else
      let (t, failed) := applySunoItem t item
      let entry := if failed then refundTaskQuota env.billing t else none
      addJobs { w.setCopy i .suno item.taskID t with ledger := w.ledger ++ entry.toList } i
        [.save t]

def save (t : Task) : World := if env.dbError then w else w.saveTask t

section

variable (platform : TaskPlatform)

/-- `updateVideoTasks` up to its loop. -/
def video (channelId : Int) (taskIds : List String) : World :=
  if taskIds = [] then w
  else if !env.channel then
    if env.dbError then w
    else w.failTasks (w.idsOf i platform taskIds)
      (some ("Failed to get channel info, channel ID: " ++ toString channelId))
  else if !env.adaptor then w
  else w.addJobs i (taskIds.map (.videoTask platform))

/-- The billing of `updateVideoSingleTask` is what comes after its write. -/
def billingJobs (taskId : String) (t : Task) : Billing → List Job
  | .keep => []
  | .refund => [.refund t]
  | .settle info => [.settle platform taskId t info]

/-- The write of `updateVideoSingleTask`, and whether it has won. -/
def writeVideo (w : World) (env : Env) (u : VideoUpdate) (fromStatus : TaskStatus) :
    World × Bool :=
  if u.write && !env.dbError then w.updateWithStatus u.task fromStatus else (w, false)

/-- `updateVideoSingleTask`. -/
def videoTask (taskId : String) : World :=
  match w.copy? i platform taskId, env.video with
  | some t, some body =>
    let u := updateVideo settings.serverAddress env.now t body
    let (w, won) := (w.setCopy i platform taskId u.task).writeVideo env u t.status
    if u.guarded && !won then w
    else w.addJobs i (billingJobs platform taskId u.task u.billing)
  | _, _ => w

def refund (t : Task) : World :=
  { w with ledger := w.ledger ++ (refundTaskQuota env.billing t).toList }

/-- `settleTaskBillingOnComplete` also changes the quota of the copy. A
settlement that moves nothing is noted too. -/
def settle (taskId : String) (t : Task) (info : TaskInfo) : World :=
  let (entry, quota) := settleTaskBilling settings.ratios env.billing env.adjusted t info
  { w.setCopy i platform taskId { t with quota } with
    ledger := w.ledger ++ [entry.getD ⟨t.id, .settle, none, none⟩] }

end

def runJob : Job → World
  | .sweep => w.sweep settings i env
  | .sweepTask t => w.sweepTask settings i env t
  | .poll => w.poll settings i env
  | .failNull ids => w.failNull env ids
  | .suno channelId taskIds => w.suno i env channelId taskIds
  | .sunoItem item => w.sunoItem i env item
  | .save t => w.save env t
  | .video platform channelId taskIds => w.video i env platform channelId taskIds
  | .videoTask platform taskId => w.videoTask settings i env platform taskId
  | .refund t => w.refund env t
  | .settle platform taskId t info => w.settle settings i env platform taskId t info

end World

/-- A task is submitted, a poller begins a round, or the job at a position is
done. -/
inductive Act where
  | submit (task : Task)
  | begin (poller : ℕ)
  | run (position : ℕ) (env : Env)

/-- The row that `submit` adds: it gets the next id, and is not finished. -/
def World.submit (w : World) (t : Task) : World :=
  if t.status.finished then w
  else { w with tasks := w.tasks ++ [{ t with id := w.tasks.length + 1 }] }

def World.step (settings : Settings) (w : World) : Act → World
  | .submit t => w.submit t
  | .begin i => w.addJobs i [.sweep, .poll]
  | .run k env => match takeJob k w.jobs with
    | none => w
    | some ((i, job), rest) => { w with jobs := rest }.runJob settings i env job

/-! ## Counting jobs -/

namespace World

/-- The number of jobs that `f` sends to a task. -/
def pending (w : World) (f : Job → Option Int) (id : Int) : ℕ :=
  w.jobs.countP fun p => f p.2 = some id

variable {w : World} {i : ℕ} (f : Job → Option Int)

theorem pending_addJobs (w : World) (i : ℕ) (jobs : List Job) (id : Int) :
    (w.addJobs i jobs).pending f id = w.pending f id + jobs.countP
    (fun job => f job = some id) := by
  simp only [pending, addJobs, countP_append, countP_map]
  rfl

theorem pending_addJobs_of_none {jobs} (h : ∀ job ∈ jobs, f job = none) (id : Int) :
    (w.addJobs i jobs).pending f id = w.pending f id := by
  rw [pending_addJobs, countP_eq_zero.mpr, Nat.add_zero]
  intro job hjob
  simp [h job hjob]

theorem pending_takeJob (h : takeJob k w.jobs = some ((i, job), rest)) (id : Int) :
    w.pending f id = { w with jobs := rest }.pending f id + if f job = some id then 1 else 0 := by
  simp only [pending, countP_takeJob h, decide_eq_true_eq]

end World

/-! ## Where jobs come from -/

inductive Spawned (settings : Settings) (env : Env) (w : World) (i : ℕ) : Job → Job → Prop where
  | sweepTask {t : Task} : t ∈ w.tasks → t.status.finished = false →
      Spawned settings env w i .sweep (.sweepTask t)
  | timedOut {t : Task} : t.quota ≠ 0 →
      Spawned settings env w i (.sweepTask t) (.refund (timedOut settings env.now t))
  | planned {tasks : List Task} {job : Job} : job ∈ pollJobs tasks →
      Spawned settings env w i .poll job
  | sunoItem {channelId : Int} {taskIds : List String} {item : SunoDataResponse} :
      Spawned settings env w i (.suno channelId taskIds) (.sunoItem item)
  | save {t : Task} {item : SunoDataResponse} : w.copy? i .suno item.taskID = some t →
      Spawned settings env w i (.sunoItem item) (.save (applySunoItem t item).1)
  | videoTask {platform : TaskPlatform} {channelId : Int} {taskIds : List String}
      {taskId : String} :
      Spawned settings env w i (.video platform channelId taskIds) (.videoTask platform taskId)
  | billing {platform : TaskPlatform} {taskId : String} {t : Task} {body : VideoBody}
      {job : Job} : w.copy? i platform taskId = some t → env.video = some body →
      job ∈ World.billingJobs platform taskId
        (updateVideo settings.serverAddress env.now t body).task
        (updateVideo settings.serverAddress env.now t body).billing →
      Spawned settings env w i (.videoTask platform taskId) job

namespace World

variable {w : World} {i : ℕ}

theorem mem_addJobs {jobs p} :
    p ∈ (w.addJobs i jobs).jobs ↔ p ∈ w.jobs ∨ (p.1 = i ∧ p.2 ∈ jobs) := by
  simp only [addJobs, mem_append, mem_map]
  constructor
  · rintro (h | ⟨job, hjob, rfl⟩)
    · exact .inl h
    · exact .inr ⟨rfl, hjob⟩
  · rintro (h | ⟨rfl, hjob⟩)
    · exact .inl h
    · exact .inr ⟨p.2, hjob, rfl⟩

theorem jobs_updateWithStatus (w : World) (t : Task) (fromStatus : TaskStatus) :
    (w.updateWithStatus t fromStatus).1.jobs = w.jobs := by
  simp only [updateWithStatus]
  split <;> rfl

theorem jobs_writeVideo (w : World) (env : Env) (u : VideoUpdate) (fromStatus : TaskStatus) :
    (w.writeVideo env u fromStatus).1.jobs = w.jobs := by
  simp only [writeVideo]
  split
  · exact jobs_updateWithStatus w u.task fromStatus
  · rfl

/-- **Where jobs come from.** -/
theorem mem_jobs_runJob {env settings job p} (h : p ∈ (w.runJob settings i env job).jobs) :
    p ∈ w.jobs ∨ (p.1 = i ∧ Spawned settings env w i job p.2) := by
  cases job with
  | sweep =>
    simp only [runJob, sweep] at h
    split at h
    · exact .inl h
    rcases mem_addJobs.mp h with hold | ⟨hp, hnew⟩
    · exact .inl hold
    obtain ⟨t, ht, heq⟩ := mem_map.mp hnew
    have hfilt := mem_filter.mp ((mem_insertionSort _).mp (mem_of_mem_take ht))
    refine .inr ⟨hp, heq ▸ .sweepTask hfilt.1 ?_⟩
    have := hfilt.2
    simp only [Bool.and_eq_true, Bool.not_eq_true'] at this
    exact this.1.2
  | sweepTask t =>
    simp only [runJob, sweepTask] at h
    split at h
    · exact .inl h
    have hjobs := jobs_updateWithStatus w (timedOut settings env.now t) t.status
    split at h
    · rename_i heq
      rw [heq] at hjobs
      exact .inl (hjobs ▸ h)
    rename_i heq
    rw [heq] at hjobs
    split at h
    · rename_i hquo
      rcases mem_addJobs.mp h with hold | ⟨hp, hnew⟩
      · exact .inl (hjobs ▸ hold)
      · refine .inr ⟨hp, mem_singleton.mp hnew ▸ .timedOut ?_⟩
        simpa using (Bool.and_eq_true_iff.mp hquo).2
    · exact .inl (hjobs ▸ h)
  | poll =>
    rcases mem_addJobs.mp h with hold | ⟨hp, hnew⟩
    · exact .inl hold
    · exact .inr ⟨hp, .planned hnew⟩
  | failNull =>
    simp only [runJob, failNull] at h
    split at h <;> exact .inl h
  | suno =>
    simp only [runJob, suno] at h
    split at h
    · exact .inl h
    split at h
    · split at h <;> exact .inl h
    split at h
    · exact .inl h
    split at h
    · exact .inl h
    rcases mem_addJobs.mp h with hold | ⟨hp, hnew⟩
    · exact .inl hold
    · obtain ⟨item, _, heq⟩ := mem_map.mp hnew
      exact .inr ⟨hp, heq ▸ .sunoItem⟩
  | sunoItem item =>
    simp only [runJob, sunoItem] at h
    split at h
    · exact .inl (mem_filter.mp h).1
    rename_i t hcopy
    split at h
    · exact .inl h
    rcases mem_addJobs.mp h with hold | ⟨hp, hnew⟩
    · exact .inl hold
    · exact .inr ⟨hp, mem_singleton.mp hnew ▸ .save hcopy⟩
  | save =>
    simp only [runJob, save] at h
    split at h <;> exact .inl h
  | video =>
    simp only [runJob, video] at h
    split at h
    · exact .inl h
    split at h
    · split at h <;> exact .inl h
    split at h
    · exact .inl h
    rcases mem_addJobs.mp h with hold | ⟨hp, hnew⟩
    · exact .inl hold
    · obtain ⟨taskId, _, heq⟩ := mem_map.mp hnew
      exact .inr ⟨hp, heq ▸ .videoTask⟩
  | videoTask platform taskId =>
    simp only [runJob, videoTask] at h
    split at h
    · rename_i t body hcopy hvideo
      have hjobs := jobs_writeVideo (w.setCopy i platform taskId
        (updateVideo settings.serverAddress env.now t body).task) env
        (updateVideo settings.serverAddress env.now t body) t.status
      split at h
      · exact .inl (hjobs ▸ h)
      rcases mem_addJobs.mp h with hold | ⟨hp, hnew⟩
      · exact .inl (hjobs ▸ hold)
      · exact .inr ⟨hp, .billing hcopy hvideo hnew⟩
    · exact .inl h
  | refund | settle => exact .inl h

end World

end HermesToken.Tasks
