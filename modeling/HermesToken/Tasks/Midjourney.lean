import HermesToken.Lib.Jobs
import HermesToken.Lib.Once
import HermesToken.Lib.Rows
import HermesToken.Lib.Run
import HermesToken.Tasks.Task

/-!
# Midjourney tasks

`UpdateMidjourneyTaskBulk` of `controller/midjourney.go`, run by any number of
pollers over one table. A task is polled until its PROGRESS is 100%, but the
compare-and-swap of `UpdateWithStatus` asks for its STATUS. Every call of the
database succeeds.
-/

namespace HermesToken.Tasks.Mj

open Lib List Option Nat

structure Midjourney where
  (id code : Int := 0)
  userId : Int
  mjId : String
  (promptEn state : String := "")
  submitTime : Int
  (startTime finishTime : Int := 0)
  (imageUrl videoUrl videoUrls : String := "")
  status : TaskStatus := .other ""
  progress : String := "0%"
  failReason : String := ""
  (channelId quota : Int)
  (buttons properties : String := "")

/-- An item of the upstream answer. The arrays and objects are the texts they
are stored as; an empty array of videos is `none`. -/
structure MidjourneyDto where
  mjId : String
  (promptEn state : String := "")
  (submitTime startTime finishTime : Int := 0)
  (imageUrl videoUrl : String := "")
  videoUrls : Option String := none
  (status progress failReason : String := "")
  (buttons properties : Option String := none)

/-- Whom a refund of the task pays, and what. -/
def Midjourney.ticket (t : Midjourney) : Int × Int := (t.userId, t.quota)

def Midjourney.done (t : Midjourney) : Bool := t.progress = "100%"

/-- The task has ended as a failure. -/
def Midjourney.failed (t : Midjourney) : Bool := t.done && t.status = .failure

/-! ## An item -/

/-- A task that takes more than an hour has failed. -/
def timeoutItem (now : Int) (t : Midjourney) (item : MidjourneyDto) : MidjourneyDto :=
  if now - t.submitTime > 3600000 && t.progress ≠ "100%" then
    { item with failReason := "上游任务超时（超过1小时）", status := "FAILURE" }
  else item

def checkMjTaskNeedUpdate (t : Midjourney) (item : MidjourneyDto) : Bool :=
  t.code ≠ 1 || t.progress ≠ item.progress || t.promptEn ≠ item.promptEn ||
    t.state ≠ item.state || t.submitTime ≠ item.submitTime || t.startTime ≠ item.startTime ||
    t.finishTime ≠ item.finishTime || t.imageUrl ≠ item.imageUrl ||
    t.status ≠ .ofString item.status || t.failReason ≠ item.failReason ||
    (t.progress ≠ "100%" && item.failReason ≠ "") || t.videoUrl ≠ item.videoUrl ||
    t.videoUrls ≠ item.videoUrls.getD ""

/-- The copy after an item, and whether its quota is returned. A fail reason
ends a task whatever its status is. -/
def applyItem (t : Midjourney) (item : MidjourneyDto) : Midjourney × Bool :=
  let status := TaskStatus.ofString item.status
  let failing := (item.progress ≠ "100%" && item.failReason ≠ "") ||
    (item.progress = "100%" && status = .failure)
  ({ t with
      code := 1
      progress := if failing then "100%" else item.progress
      promptEn := item.promptEn
      state := item.state
      submitTime := item.submitTime
      startTime := item.startTime
      finishTime := item.finishTime
      imageUrl := item.imageUrl
      status := status
      failReason := item.failReason
      properties := item.properties.getD t.properties
      buttons := item.buttons.getD t.buttons
      videoUrl := item.videoUrl
      videoUrls := item.videoUrls.getD "" }, failing && t.quota ≠ 0)

/-! ## The pollers -/

inductive Job where
  | poll
  | failNull (ids : List Int)
  | channel (channelId : Int) (mjIds : List String)
  | item (item : MidjourneyDto)
  | refund (task : Midjourney)

/-- An entry of the map `taskM` of a poller. -/
structure Copy where
  poller : ℕ
  mjId : String
  task : Midjourney

def Copy.key (c : Copy) : ℕ × String := (c.poller, c.mjId)

structure Refund where
  (task userId quota : Int)

structure World where
  tasks : List Midjourney := []
  copies : List Copy := []
  jobs : List (ℕ × Job) := []
  refunds : List Refund := []
  panics : ℕ := 0

/-- What a step meets: the time in milliseconds, whether the channel is found,
and the items of the upstream answer (`none` is a request that failed). -/
structure Env where
  now : Int := 0
  channel : Bool := true
  answer : Option (List MidjourneyDto) := none

namespace World

variable (w : World) (i : ℕ)

def task? (id : Int) : Option Midjourney := w.tasks.find? (·.id = id)

def addJobs (jobs : List Job) : World := { w with jobs := w.jobs ++ jobs.map (i, ·) }

def copy? (mjId : String) : Option Midjourney :=
  (w.copies.find? fun c => c.key = (i, mjId)).map (·.task)

def setCopy (mjId : String) (t : Midjourney) : World :=
  { w with copies := saveRow Copy.key ⟨i, mjId, t⟩ w.copies }

def saveTask (t : Midjourney) : World := { w with tasks := saveRow Midjourney.id t w.tasks }

/-- `UpdateWithStatus`. -/
def updateWithStatus (t : Midjourney) (fromStatus : TaskStatus) : World × Bool :=
  if (w.task? t.id).map (·.status) = some fromStatus then (w.saveTask t, true) else (w, false)

/-- `GetAllUnFinishTasks`. -/
def unfinishedTasks : List Midjourney := w.tasks.filter fun r => !r.done

/-- `MjBulkUpdateByTaskIds` and `MjBulkUpdate` to FAILURE: every selected row is
written, finished or not. -/
def failTasks (selected : Midjourney → Bool) (reason : Option String) : World :=
  { w with tasks := w.tasks.map fun r =>
    if selected r then
      { r with status := .failure, progress := "100%", failReason := reason.getD r.failReason }
    else r }

end World

open World

/-- The last task of an id counts. -/
def taskM (i : ℕ) (tasks : List Midjourney) : List Copy :=
  (tasks.filter fun t => t.mjId ≠ "").reverse.map fun t => ⟨i, t.mjId, t⟩

def taskChannelM (tasks : List Midjourney) : List (Int × List String) :=
  let known := tasks.filter fun t => t.mjId ≠ ""
  (known.map (·.channelId)).dedup.map fun channelId =>
    (channelId, (known.filter fun t => t.channelId = channelId).map (·.mjId))

def pollJobs (tasks : List Midjourney) : List Job :=
  let nullTaskIds := (tasks.filter fun t => t.mjId = "").map (·.id)
  (if nullTaskIds = [] then [] else [.failNull nullTaskIds]) ++
    (taskChannelM tasks).map fun c => .channel c.1 c.2

namespace World

variable (i : ℕ) (env : Env) (w : World)

/-- A round begins: the unfinished tasks are read and sorted by channel. -/
def poll : World :=
  addJobs { w with copies := taskM i w.unfinishedTasks ++ w.copies.filter (·.poller ≠ i) } i
    (pollJobs w.unfinishedTasks)

def channel (channelId : Int) (mjIds : List String) : World :=
  if !env.channel then
    w.failTasks (fun r => r.mjId ∈ mjIds)
      (some ("获取渠道信息失败，请联系管理员，渠道ID：" ++ toString channelId))
  else match env.answer with
    | none => w
    | some items => w.addJobs i (items.map .item)

/-- An item of the answer. One that was not asked for is a nil pointer: the
poller is gone. -/
def item (item : MidjourneyDto) : World :=
  match w.copy? i item.mjId with
  | none => { w with
      copies := w.copies.filter (·.poller ≠ i)
      jobs := w.jobs.filter (·.1 ≠ i)
      panics := w.panics + 1 }
  | some t =>
    let item := timeoutItem env.now t item
    if !checkMjTaskNeedUpdate t item then w
    else match (w.setCopy i item.mjId (applyItem t item).1).updateWithStatus
        (applyItem t item).1 t.status with
      | (w, false) => w
      | (w, true) =>
        w.addJobs i (if (applyItem t item).2 then [.refund (applyItem t item).1] else [])

/-- `IncreaseUserQuota` of a won failure. -/
def refund (t : Midjourney) : World :=
  { w with refunds := w.refunds ++ [⟨t.id, t.userId, t.quota⟩] }

def runJob : Job → World
  | .poll => w.poll i
  | .failNull ids => w.failTasks (fun r => r.id ∈ ids) none
  | .channel channelId mjIds => w.channel i env channelId mjIds
  | .item dto => w.item i env dto
  | .refund t => w.refund t

end World

/-- A task is submitted, a poller begins a round, or the job at a position is
done. -/
inductive Act where
  | submit (task : Midjourney)
  | begin (poller : ℕ)
  | run (position : ℕ) (env : Env)

/-- The row of a new task: it has not ended as a failure. -/
def World.submit (w : World) (t : Midjourney) : World :=
  if t.failed then w
  else { w with tasks := w.tasks ++ [{ t with id := w.tasks.length + 1 }] }

def World.step (w : World) : Act → World
  | .submit t => w.submit t
  | .begin i => w.addJobs i [.poll]
  | .run k env => match takeJob k w.jobs with
    | none => w
    | some ((i, job), rest) => { w with jobs := rest }.runJob i env job

/-! ## Payments -/

def Job.pays : Job → Option Int
  | .refund t => some t.id
  | _ => none

/-- How often a task was or is going to be refunded. -/
def World.paid (w : World) (id : Int) : ℕ :=
  w.refunds.countP (fun e => e.task = id) + w.jobs.countP (fun p => p.2.pays = some id)

def World.ticketOf (w : World) (id : Int) : Option (Int × Int) := (w.task? id).map (·.ticket)

/-- A progress of 100% is final. -/
def World.table (w : World) : PaidTable Int String :=
  ⟨fun id => (w.task? id).map (·.progress), w.paid⟩

def World.Final (progress : String) : Bool := progress = "100%"

/-- **The invariant.** The copies and the jobs agree with the rows about the
money, no task was paid for twice or before it was done, and a failed task was
paid for. -/
structure Sound (w : World) : Prop where
  ids : w.tasks.map Midjourney.id = (List.range w.tasks.length).map fun n : ℕ => (n : Int) + 1
  copies : ∀ c ∈ w.copies, w.ticketOf c.task.id = some c.task.ticket
  jobs : ∀ p ∈ w.jobs, ∀ t, p.2 = .refund t → w.ticketOf t.id = some t.ticket
  refunds : ∀ e ∈ w.refunds, w.ticketOf e.task = some (e.userId, e.quota)
  once : PaidTable.Once Final w.table
  failed : ∀ id r, w.task? id = some r → r.failed = true → r.quota ≠ 0 → 1 ≤ w.paid id
  panics : w.panics = 0

/-! ## The condition -/

/-- When a job pays as it should: nothing is failed in bulk, an item was asked
for, and a swap that is going to be won finds the task not done. -/
def jobOk (w : World) (i : ℕ) (env : Env) : Job → Bool
  | .failNull _ => false
  | .channel _ _ => env.channel
  | .item item => match w.copy? i item.mjId with
    | none => false
    | some t => (w.task? t.id).all fun r => r.status ≠ t.status || !r.done
  | .poll | .refund _ => true

def StepOk (w : World) : Act → Prop
  | .submit _ | .begin _ => True
  | .run k env => ∀ taken ∈ takeJob k w.jobs, jobOk w taken.1.1 env taken.1.2 = true

instance (w : World) (act : Act) : Decidable (StepOk w act) :=
  match act with
  | .submit _ | .begin _ => isTrue trivial
  | .run k env => inferInstanceAs
      (Decidable (∀ taken ∈ takeJob k w.jobs, jobOk w taken.1.1 env taken.1.2 = true))

/-! ## What an item does to its copy -/

theorem applyItem_spec (t : Midjourney) (item : MidjourneyDto) :
    (applyItem t item).1.id = t.id ∧ (applyItem t item).1.ticket = t.ticket ∧
      ((applyItem t item).2 → (applyItem t item).1.done) ∧
      ((applyItem t item).1.failed → t.quota ≠ 0 → (applyItem t item).2) := by
  refine ⟨rfl, rfl, fun hback => ?_, fun hfail hquo => ?_⟩
  · simp only [applyItem, Bool.and_eq_true] at hback
    simp only [applyItem, Midjourney.done, hback.1, if_true, decide_true]
  -- a task at 100% with FAILURE was failing, or has become so by its fail reason
  simp only [Midjourney.failed, Midjourney.done, applyItem, Bool.and_eq_true,
    decide_eq_true_eq] at hfail ⊢
  obtain ⟨hdone, hstat⟩ := hfail
  refine ⟨?_, hquo⟩
  split at hdone
  · assumption
  · simp [of_decide_eq_true hdone, of_decide_eq_true hstat]

/-! ## Steps -/

section

variable {w : World} {i k : ℕ}

theorem World.paid_addJobs (w : World) (i : ℕ) (jobs : List Job) (id : Int) :
    (w.addJobs i jobs).paid id = w.paid id + jobs.countP (fun job => job.pays = some id) := by
  simp only [paid, addJobs, countP_append, countP_map, ← add_assoc]
  rfl

theorem World.paid_addJobs_of_none {jobs} (h : ∀ job ∈ jobs, job.pays = none)
    (id : Int) : (w.addJobs i jobs).paid id = w.paid id := by
  rw [paid_addJobs, countP_eq_zero.mpr, add_zero]
  intro job hjob
  simp [h job hjob]

theorem World.paid_takeJob (h : takeJob k w.jobs = some ((i, job), rest)) (id : Int) :
    w.paid id = { w with jobs := rest }.paid id + if job.pays = some id then 1 else 0 := by
  simp only [paid, countP_takeJob h, decide_eq_true_eq, add_assoc]

theorem Sound.quiet (h : Sound w) (htasks : w'.tasks = w.tasks)
    (hcops : ∀ c ∈ w'.copies, c ∈ w.copies ∨ w.ticketOf c.task.id = some c.task.ticket)
    (hjobs : ∀ p ∈ w'.jobs, p ∈ w.jobs ∨ p.2.pays = none)
    (hrfs : ∀ e ∈ w'.refunds, w.ticketOf e.task = some (e.userId, e.quota))
    (hpaid : ∀ id, w'.paid id = w.paid id) (hpan : w'.panics = w.panics) : Sound w' := by
  have htask? : w'.task? = w.task? := by
    funext id
    simp only [task?, htasks]
  have htkt : w'.ticketOf = w.ticketOf := by
    funext id
    simp only [ticketOf, htask?]
  refine ⟨htasks ▸ h.ids, fun c hc => ?_, fun p hp t ht => ?_, fun e he => ?_, ?_,
    fun id r hr => ?_, hpan.trans h.panics⟩
  · rw [htkt]
    exact (hcops c hc).elim (h.copies c) id
  · rw [htkt]
    rcases hjobs p hp with hold | hnone
    · exact h.jobs p hold t ht
    · rw [ht] at hnone
      cases hnone
  · rw [htkt]
    exact hrfs e he
  · have htable : w'.table = w.table := by
      simp only [table, htask?, funext hpaid]
    rw [htable]
    exact h.once
  · rw [htask?] at hr
    rw [hpaid]
    exact h.failed id r hr

/-- A job that is no refund is taken out and adds jobs that are none. -/
theorem Sound.run_addJobs (h : Sound w) (htake : takeJob k w.jobs = some ((i, job), rest))
    (hjob : job.pays = none) {jobs} (hjobs : ∀ job ∈ jobs, job.pays = none) :
    Sound (addJobs { w with jobs := rest } i jobs) := by
  refine h.quiet rfl (fun c hc => .inl hc) (fun p hp => ?_) h.refunds (fun id => ?_) rfl
  · rcases mem_append.mp hp with hold | hnew
    · exact .inl (mem_of_mem_rest htake hold)
    · obtain ⟨job', hjob', rfl⟩ := mem_map.mp hnew
      exact .inr (hjobs job' hjob')
  · rw [paid_addJobs_of_none hjobs, paid_takeJob htake, hjob]
    rfl

theorem Sound.run_nothing (h : Sound w) (htake : takeJob k w.jobs = some ((i, job), rest))
    (hjob : job.pays = none) : Sound { w with jobs := rest } := by
  refine h.quiet rfl (fun c hc => .inl hc) (fun p hp => .inl (mem_of_mem_rest htake hp))
    h.refunds (fun id => ?_) rfl
  rw [paid_takeJob htake, hjob]
  rfl

theorem pollJobs_pays (tasks : List Midjourney) : ∀ job ∈ pollJobs tasks, job.pays = none := by
  intro job hjob
  rcases mem_append.mp hjob with hnull | hchan
  · split at hnull
    · cases hnull
    · rw [mem_singleton.mp hnull]
      rfl
  · obtain ⟨c, _, rfl⟩ := mem_map.mp hchan
    rfl

variable (h : Sound w)
include h

theorem Sound.ids_nodup : (w.tasks.map Midjourney.id).Nodup := by
  rw [h.ids]
  exact nodup_range.map fun a b hab => by simpa using hab

theorem Sound.run_poll (htake : takeJob k w.jobs = some ((i, .poll), rest)) :
    Sound (poll i { w with jobs := rest }) := by
  refine h.quiet rfl (fun c hc => ?_) (fun p hp => ?_) h.refunds (fun id => ?_) rfl
  · rcases mem_append.mp hc with hnew | hold
    · obtain ⟨t, ht, rfl⟩ := mem_map.mp hnew
      have hrow : t ∈ w.tasks :=
        (mem_filter.mp (mem_filter.mp (mem_reverse.mp ht)).1).1
      refine .inr ?_
      rw [ticketOf, task?, find?_of_mem h.ids_nodup hrow]
      rfl
    · exact .inl (mem_filter.mp hold).1
  · rcases mem_append.mp hp with hold | hnew
    · exact .inl (mem_of_mem_rest htake hold)
    · obtain ⟨job, hjob, rfl⟩ := mem_map.mp hnew
      exact .inr (pollJobs_pays _ job hjob)
  · rw [poll, paid_addJobs_of_none (pollJobs_pays _), paid_takeJob htake]
    rfl

theorem Sound.run_channel {channelId mjIds}
    (htake : takeJob k w.jobs = some ((i, .channel channelId mjIds), rest))
    (hok : env.channel) :
    Sound (channel i env { w with jobs := rest } channelId mjIds) := by
  simp only [channel, hok, Bool.not_true, Bool.false_eq_true, if_false]
  split
  · exact h.run_nothing htake rfl
  refine h.run_addJobs htake rfl fun job hjob => ?_
  obtain ⟨item, _, rfl⟩ := mem_map.mp hjob
  rfl

theorem Sound.run_refund (htake : takeJob k w.jobs = some ((i, .refund t), rest)) :
    Sound (refund { w with jobs := rest } t) := by
  refine h.quiet rfl (fun c hc => .inl hc) (fun p hp => .inl (mem_of_mem_rest htake hp))
    (fun e he => ?_) (fun id => ?_) rfl
  · rcases mem_append.mp he with hold | hnew
    · exact h.refunds e hold
    · rw [mem_singleton.mp hnew]
      exact h.jobs _ (mem_of_takeJob htake) t rfl
  · rw [paid_takeJob htake]
    simp only [refund, paid, countP_append, countP_singleton, Job.pays,
      some.injEq, decide_eq_true_eq]
    omega

/-- A won swap: the row was not done, and is refunded if it has failed. -/
theorem Sound.run_won (htake : takeJob k w.jobs = some ((i, job), rest)) (hjob : job.pays = none)
    (htkt : w.ticketOf t.id = some t.ticket)
    (hopen : ∀ r, w.task? t.id = some r → r.done = false) (hdone : returns = true → t.done = true)
    (hback : t.failed = true → t.quota ≠ 0 → returns = true) :
    Sound (addJobs (saveTask (setCopy { w with jobs := rest } i mjId t) t) i
      (if returns then [.refund t] else [])) := by
  generalize hw' : addJobs (saveTask (setCopy { w with jobs := rest } i mjId t) t)
    i (if returns then [.refund t] else []) = w'
  have htasks : w'.tasks = saveRow Midjourney.id t w.tasks := by
    rw [← hw']
    rfl
  have htask? : ∀ id, w'.task? id = (w.task? id).map fun r => if t.id = id then t else r := by
    intro id
    rw [task?, htasks]
    exact find?_saveRow t id w.tasks
  have htkts : ∀ id, w'.ticketOf id = w.ticketOf id := by
    intro id
    rw [ticketOf, task?, htasks]
    exact map_find?_saveRow Midjourney.ticket htkt id
  have hpaid : ∀ id, w'.paid id = w.paid id + if t.id = id ∧ returns = true then 1 else 0 := by
    intro id
    rw [← hw', paid_addJobs, paid_takeJob htake, hjob]
    cases returns <;>
      simp [paid, saveTask, setCopy, Job.pays, countP_singleton]
  refine ⟨?_, fun c hc => ?_, fun p hp t' ht' => ?_, fun e he => ?_, h.once.step fun id => ?_,
    fun id r hr hfail hquo => ?_, ?_⟩
  · rw [htasks, map_key_saveRow, length_saveRow]
    exact h.ids
  · rw [htkts]
    rw [← hw'] at hc
    rcases mem_saveRow.mp hc with ⟨hold, _⟩ | ⟨hnew, _⟩
    · exact h.copies c hold
    · rw [hnew]
      exact htkt
  · rw [htkts]
    rw [← hw'] at hp
    rcases mem_append.mp hp with hold | hnew
    · exact h.jobs p (mem_of_mem_rest htake hold) t' ht'
    obtain ⟨job', hjob', rfl⟩ := mem_map.mp hnew
    split at hjob'
    · rw [mem_singleton.mp hjob'] at ht'
      cases ht'
      exact htkt
    · cases hjob'
  · rw [htkts]
    rw [← hw'] at he
    exact h.refunds e he
  · -- the row is won if it is refunded, every other row is kept
    by_cases hid : t.id = id ∧ returns = true
    · obtain ⟨rfl, hret⟩ := hid
      obtain ⟨r, hr, _⟩ := map_eq_some_iff.mp htkt
      refine .inr ⟨fun progress hprog => ?_, ?_, ?_⟩
      · have hrow : (w.task? t.id).map (·.progress) = some progress := hprog
        rw [hr] at hrow
        cases hrow
        exact hopen r hr
      · show w'.paid t.id ≤ w.paid t.id + 1
        rw [hpaid, if_pos ⟨rfl, hret⟩]
      refine ⟨t.progress, ?_, hdone hret⟩
      show (w'.task? t.id).map (·.progress) = _
      rw [htask?, hr]
      simp
    refine .inl ⟨?_, fun progress hprog hfin => ?_⟩
    · show w'.paid id ≤ w.paid id
      rw [hpaid, if_neg hid]
      exact le_refl _
    obtain ⟨r, hr, rfl⟩ := map_eq_some_iff.mp hprog
    show (w'.task? id).map (·.progress) = _
    rw [htask?, hr]
    by_cases hsame : t.id = id
    · subst hsame
      have := hopen r hr
      rw [Midjourney.done] at this
      rw [Final, this] at hfin
      cases hfin
    · simp [hsame]
  · rw [htask?] at hr
    obtain ⟨r₀, hr₀, heq⟩ := map_eq_some_iff.mp hr
    rw [hpaid]
    by_cases hsame : t.id = id
    · rw [if_pos hsame] at heq
      subst heq
      rw [if_pos ⟨hsame, hback hfail hquo⟩]
      exact le_add_left 1 _
    · rw [if_neg hsame] at heq
      subst heq
      exact le_add_right_of_le (h.failed id r₀ hr₀ hfail hquo)
  · rw [← hw']
    exact h.panics

theorem Sound.run_item {item} (htake : takeJob k w.jobs = some ((i, .item item), rest))
    (hok : jobOk w i env (.item item)) :
    Sound (World.item i env { w with jobs := rest } item) := by
  cases hcopy : w.copy? i item.mjId with
  | none => simp [jobOk, hcopy] at hok
  | some t =>
  have hcopy' : copy? { w with jobs := rest } i item.mjId = some t := hcopy
  have htkt : w.ticketOf t.id = some t.ticket := by
    obtain ⟨c, hc, rfl⟩ := map_eq_some_iff.mp hcopy
    exact h.copies c (mem_of_find?_eq_some hc)
  simp only [World.item, hcopy']
  generalize timeoutItem env.now t item = item'
  split
  · exact h.run_nothing htake rfl
  obtain ⟨hid, htkt', hdone, hback⟩ := applyItem_spec t item'
  have hquo : (applyItem t item').1.quota = t.quota := congrArg Prod.snd htkt'
  generalize applyItem t item' = applied at hid htkt' hdone hback hquo
  obtain ⟨t', returns⟩ := applied
  simp only at hid htkt' hdone hback hquo
  have htkt'' : w.ticketOf t'.id = some t'.ticket := by
    rw [hid, htkt']
    exact htkt
  simp only [updateWithStatus]
  split
  · rename_i heq
    split at heq <;> cases heq
    -- the swap is lost: only the copy has changed
    refine h.quiet rfl (fun c hc => ?_) (fun p hp => .inl (mem_of_mem_rest htake hp))
      h.refunds (fun id => ?_) rfl
    · rcases mem_saveRow.mp hc with ⟨hold, _⟩ | ⟨hnew, _⟩
      · exact .inl hold
      · rw [hnew]
        exact .inr htkt''
    · rw [paid_takeJob htake]
      rfl
  rename_i heq
  split at heq <;> cases heq
  rename_i hwon
  refine h.run_won htake rfl htkt'' (fun r hr => ?_) hdone (hquo ▸ hback)
  have hrow : w.task? t.id = some r := hid ▸ hr
  have hstat : (w.task? t'.id).map (·.status) = some t.status := hwon
  rw [hr] at hstat
  have hcond : r.status ≠ t.status ∨ r.done = false := by simpa [jobOk, hcopy, hrow] using hok
  exact hcond.resolve_left fun hne => hne (some.inj hstat)

theorem Sound.submit (t : Midjourney) : Sound (w.submit t) := by
  simp only [World.submit]
  split
  · exact h
  rename_i hfail
  generalize hnew : ({ t with id := w.tasks.length + 1 } : Midjourney) = new
  have hopen : new.failed = false := by
    rw [← hnew]
    exact Bool.eq_false_iff.mpr hfail
  have htask? : ∀ id, World.task? { w with tasks := w.tasks ++ [new] } id =
      (w.task? id).or (if new.id = id then some new else none) :=
    find?_append_row w.tasks new
  have htkts : ∀ id x, w.ticketOf id = some x →
      World.ticketOf { w with tasks := w.tasks ++ [new] } id = some x := by
    intro id x hx
    obtain ⟨r, hr, rfl⟩ := map_eq_some_iff.mp hx
    rw [World.ticketOf, htask?, hr]
    rfl
  refine ⟨?_, fun c hc => htkts _ _ (h.copies c hc),
    fun p hp t' ht' => htkts _ _ (h.jobs p hp t' ht'),
    fun e he => htkts _ _ (h.refunds e he), h.once.step fun id => .inl ⟨le_refl _, ?_⟩,
    fun id r hr hr' hquo => ?_, h.panics⟩
  · simp only [map_append, h.ids, length_append, length_singleton, range_succ,
      map_cons, map_nil, ← hnew]
  · intro progress hprog _
    obtain ⟨r, hr, rfl⟩ := map_eq_some_iff.mp hprog
    show (World.task? { w with tasks := w.tasks ++ [new] } id).map (·.progress) = _
    rw [htask?, hr]
    rfl
  rw [htask?] at hr
  rcases or_eq_some_iff.mp hr with hold | ⟨_, hrow⟩
  · exact h.failed id r hold hr' hquo
  split at hrow
  · cases hrow
    rw [hopen] at hr'
    cases hr'
  · cases hrow

theorem Sound.step {act} (hok : StepOk w act) : Sound (w.step act) := by
  cases act with
  | submit t => exact h.submit t
  | «begin» i =>
    refine h.quiet rfl (fun c hc => .inl hc) (fun p hp => ?_) h.refunds (fun id => ?_) rfl
    · rcases mem_append.mp hp with hold | hnew
      · exact .inl hold
      · rw [mem_singleton.mp hnew]
        exact .inr rfl
    · exact paid_addJobs_of_none (by simp [Job.pays]) id
  | run k env =>
    simp only [World.step]
    cases htake : takeJob k w.jobs with
    | none => exact h
    | some taken =>
    obtain ⟨⟨i, job⟩, rest⟩ := taken
    have hjob : jobOk w i env job := hok _ htake
    cases job with
    | poll => exact h.run_poll htake
    | failNull => cases hjob
    | channel => exact h.run_channel htake hjob
    | item => exact h.run_item htake hjob
    | refund => exact h.run_refund htake

end

theorem sound_start : Sound {} where
  ids := rfl
  copies := fun _ hc => absurd hc not_mem_nil
  jobs := fun _ hp => absurd hp not_mem_nil
  refunds := fun _ he => absurd he not_mem_nil
  once := ⟨fun _ => zero_le 1, fun _ h => absurd h (lt_irrefl 0)⟩
  failed := fun _ _ hr => by cases hr
  panics := rfl

def World.refunded (w : World) (id : Int) : ℕ := w.refunds.countP (fun e => e.task = id)

/-- No refund of the task is under way. -/
def World.Idle (w : World) (id : Int) : Prop := w.jobs.countP (fun p => p.2.pays = some id) = 0

instance (id : Int) : Decidable (World.Idle w id) := inferInstanceAs (Decidable (_ = _))

/-- **Midjourney failures are refunded once.** In every run of pollers whose
jobs meet `jobOk`, no poller panics, no task is refunded twice, a refund pays
the quota of the task to its user, and a billed task that has ended as a
failure is refunded exactly once when nothing is under way for it. -/
theorem midjourney_refunded_once (acts : List Act) (h : Along step StepOk {} acts) :
    (exec step {} acts).panics = 0 ∧
    (∀ id, (exec step {} acts).refunded id ≤ 1) ∧
    (∀ e ∈ (exec step {} acts).refunds,
      (exec step {} acts).ticketOf e.task = some (e.userId, e.quota)) ∧
    ∀ id t, (exec step {} acts).task? id = some t → t.failed = true → t.quota ≠ 0 →
      (exec step {} acts).Idle id → (exec step {} acts).refunded id = 1 := by
  have hsound : Sound (exec step {} acts) :=
    Along.invariant Sound (fun _ _ hw hok => hw.step hok) sound_start h
  generalize exec step {} acts = w at hsound
  have hle : ∀ id, w.refunded id ≤ 1 := fun id =>
    le_trans (le_add_right _ _) (hsound.once.le_one id)
  refine ⟨hsound.panics, hle, hsound.refunds, fun id t ht hfailed hquota hidle => ?_⟩
  have hpaid : 1 ≤ w.refunded id + 0 := hidle ▸ hsound.failed id t ht hfailed hquota
  exact le_antisymm (hle id) hpaid

/-- A task of user 7 that was paid for with 500 quota. -/
def sampleTask : Midjourney where
  userId := 7
  mjId := "m1"
  submitTime := 1000
  channelId := 3
  quota := 500

/-- The upstream answer for the sample. -/
def answer (status progress failReason : String) : Env where
  now := 2000
  answer := some [{ mjId := "m1", status, progress := progress
                    failReason, submitTime := 1000 }]

/-- Two pollers have read the task; the second loses the swap. -/
def sampleRun : List Act :=
  [.submit sampleTask, .begin 0, .begin 1, .run 0 {}, .run 0 {},
    .run 0 (answer "FAILURE" "100%" "banned prompt"),
    .run 0 (answer "FAILURE" "100%" "banned prompt"),
    .run 0 { now := 2000 }, .run 0 { now := 2000 }, .run 0 {}]

theorem midjourney_refunded_once_sample : (exec step {} sampleRun).refunded 1 = 1 := by
  obtain ⟨t, hrow, hfailed⟩ : ∃ t, (exec step {} sampleRun).task? 1 = some t ∧
      (t.failed = true ∧ t.quota ≠ 0) := ⟨_, rfl, by decide +kernel⟩
  exact (midjourney_refunded_once sampleRun (by decide +kernel)).2.2.2 1 t hrow hfailed.1 hfailed.2
    (by decide +kernel)

/-- **Failures that are not refunded, refunds that are made twice, a panic.**
The channel of a billed task is gone: it ends as a failure without a refund.
Two pollers have read a task without a status, and the answer has a fail
reason and no status either: both win the swap and refund. An item with an id
that was not asked for is a nil pointer. -/
theorem midjourney_refunds_differ :
    (let w := exec step {} [.submit sampleTask, .begin 0, .run 0 {}, .run 0 { channel := false }]
    (w.task? 1).map (·.failed) = some true ∧ w.refunded 1 = 0 ∧ w.jobs.length = 0) ∧
    (exec step {}
      [.submit sampleTask, .begin 0, .begin 1, .run 0 {}, .run 0 {},
        .run 0 (answer "" "50%" "banned prompt"), .run 0 (answer "" "50%" "banned prompt"),
        .run 0 { now := 2000 }, .run 0 { now := 2000 }, .run 0 {}, .run 0 {}]).refunded 1 = 2 ∧
    (exec step {}
      [.submit sampleTask, .begin 0, .run 0 {}, .run 0 { answer := some [{ mjId := "m2" }] },
        .run 0 {}]).panics = 1 := by
  decide +kernel

end HermesToken.Tasks.Mj
