import HermesToken.Lib.Once
import HermesToken.Tasks.Polling

/-!
# Video tasks are billed once

`updateVideoSingleTask` and the sweeper finish a task with a compare-and-swap
on its status, and bill it only if they have won. A run of pollers and
sweepers is a run of the abstract `PaidTable`, whose payments are the entries
of the ledger and the billing jobs that are still to be done.

The swap does not protect a poller from ITSELF: a copy that the poller has
already finished is billed again without a write. Two tasks of a platform with
one upstream id are enough for that.
-/

namespace HermesToken.Tasks

open Lib World TaskStatus List Option Nat

variable {platform : TaskPlatform} {info : TaskInfo} {taskId : String} {w' : World}
  {w : World}

def Job.bills : Job → Option Int
  | .refund t => some t.id
  | .settle _ _ t _ => some t.id
  | _ => none

namespace World

/-- How often a task was or is going to be billed. -/
def billed (w : World) (id : Int) : ℕ :=
  w.ledger.countP (fun e => e.task = id) + w.pending Job.bills id

def paidTable (w : World) : PaidTable Int TaskStatus := ⟨w.statusOf, w.billed⟩

@[simp] theorem paidTable_paid (w : World) (id : Int) : w.paidTable.paid id = w.billed id := rfl

variable {i : ℕ}

/-! ## Statuses and bills after the operations -/

theorem statusOf_saveTask (w : World) (t : Task) (id : Int) :
    (w.saveTask t).statusOf id =
      (w.statusOf id).map fun status => if t.id = id then t.status else status := by
  simp only [statusOf, task?, saveTask, find?_saveRow, Option.map_map]
  congr 1
  funext r
  simp only [Function.comp_apply]
  split <;> rfl

theorem billed_addJobs (w : World) (i : ℕ) (jobs : List Job) (id : Int) :
    (w.addJobs i jobs).billed id = w.billed id + jobs.countP (fun j => j.bills = some id) := by
  simp only [billed, pending_addJobs, add_assoc]
  rfl

theorem billed_addJobs_of_none {jobs} (h : ∀ job ∈ jobs, job.bills = none) (id : Int) :
    (w.addJobs i jobs).billed id = w.billed id :=
  congrArg (w.ledger.countP (fun e => e.task = id) + ·) (pending_addJobs_of_none Job.bills h id)

theorem billed_takeJob (h : takeJob k w.jobs = some ((i, job), rest)) (id : Int) :
    w.billed id = { w with jobs := rest }.billed id + if job.bills = some id then 1 else 0 := by
  simp only [billed, pending_takeJob Job.bills h, add_assoc]

theorem updateWithStatus_cases (w : World) (t : Task) (fromStatus : TaskStatus) :
    w.updateWithStatus t fromStatus = (w, false) ∨
      (w.statusOf t.id = some fromStatus ∧
        w.updateWithStatus t fromStatus = (w.saveTask t, true)) := by
  simp only [updateWithStatus]
  split
  · rename_i h
    exact .inr ⟨h, rfl⟩
  · exact .inl rfl

end World

/-! ## An unfinished copy -/

theorem applyStatus_id (h : applyStatus serverAddress now t info = some t') :
    t'.id = t.id ∧ t'.ticket = t.ticket ∧ t'.status = .ofString info.status := by
  simp only [applyStatus] at h
  split at h <;> cases h <;> exact ⟨rfl, rfl, rfl⟩

/-- What a call makes of an unfinished copy: it bills only behind a guarded
write to a finished status, and an unguarded write does not finish the task. -/
theorem updateVideo_cases (serverAddress : String) (now : Int) (b : VideoBody)
    (h : t.status.finished = false) :
    let u := updateVideo serverAddress now t b
    u.task.id = t.id ∧ u.task.ticket = t.ticket ∧
      ((u.guarded ∧ u.write ∧ u.task.status.finished) ∨
        (u.guarded = false ∧ u.billing = .keep ∧
          (u.write → u.task.status.finished = false))) := by
  simp only [updateVideo]
  split
  · exact ⟨rfl, rfl, .inr ⟨rfl, rfl, nofun⟩⟩
  · exact ⟨rfl, rfl, .inr ⟨rfl, rfl, nofun⟩⟩
  rename_i info _
  split
  · exact ⟨rfl, rfl, .inr ⟨rfl, rfl, nofun⟩⟩
  rename_i t' happly
  obtain ⟨hid, htkt, hstat⟩ := applyStatus_id happly
  cases hdone : t'.status.finished with
  | true =>
    have hne : t.status ≠ t'.status := by
      intro heq
      rw [heq, hdone] at h
      cases h
    simp only [hne, ne_eq, not_false_eq_true, decide_true, Bool.and_self, if_true]
    exact ⟨hid, htkt, .inl ⟨trivial, trivial, hdone⟩⟩
  | false =>
    have hkeep : billingOf t info = .keep := by
      rw [hstat] at hdone
      simp only [billingOf]
      split
      · rename_i hs
        rw [hs] at hdone
        cases hdone
      · rename_i hs
        rw [hs] at hdone
        cases hdone
      · rfl
    simp only [Bool.false_and, Bool.false_eq_true, if_false]
    exact ⟨hid, htkt, .inr ⟨trivial, hkeep, fun _ => hdone⟩⟩

theorem updateVideo_guarded (h : (updateVideo serverAddress now t b).guarded) :
    ((updateVideo serverAddress now t b).task.status = .failure ∧
      (updateVideo serverAddress now t b).billing = if t.quota ≠ 0 then .refund else .keep) ∨
    ((updateVideo serverAddress now t b).task.status = .success ∧
      ∃ info, (updateVideo serverAddress now t b).billing = .settle info) := by
  simp only [updateVideo] at h ⊢
  split at h
  · cases h
  · cases h
  rename_i info _
  split at h
  · cases h
  rename_i t' happly
  have hstat := (applyStatus_id happly).2.2
  split at h
  · rename_i hdone
    simp only [if_pos hdone]
    have hfin := (Bool.and_eq_true_iff.mp hdone).1
    cases hs : t'.status with
    | failure =>
      rw [hs] at hstat
      exact .inl ⟨rfl, by simp only [billingOf, ← hstat]⟩
    | success =>
      rw [hs] at hstat
      exact .inr ⟨rfl, info, by simp only [billingOf, ← hstat]⟩
    | _ =>
      rw [hs] at hfin
      cases hfin
  · cases h

/-- **A poll of a video task** leaves the table alone, or it writes a row that
is not finished, and then bills it if it is. -/
theorem videoTask_cases (settings : Settings) (i : ℕ) (env : Env)
    (hcopy : ∀ t, w.copy? i platform taskId = some t → t.status.finished = false) :
    videoTask settings i env w platform taskId = w ∨
      ∃ (t : Task) (u : VideoUpdate), w.copy? i platform taskId = some t ∧ u.task.id = t.id ∧
        u.task.ticket = t.ticket ∧
        (videoTask settings i env w platform taskId = w.setCopy i platform taskId u.task ∨
          w.statusOf u.task.id = some t.status ∧
          videoTask settings i env w platform taskId =
            ((w.setCopy i platform taskId u.task).saveTask u.task).addJobs i
              (billingJobs platform taskId u.task u.billing) ∧
          (u.task.status = .failure ∧ u.billing = (if t.quota ≠ 0 then .refund else .keep) ∨
            u.task.status = .success ∧ (∃ info, u.billing = .settle info) ∨
            u.task.status.finished = false ∧ u.billing = .keep)) := by
  simp only [videoTask]
  split
  swap
  · exact .inl rfl
  rename_i t body hmem _
  obtain ⟨hid, htkt, hcs⟩ :=
    updateVideo_cases settings.serverAddress env.now body (hcopy t hmem)
  have hbill := @updateVideo_guarded settings.serverAddress env.now t body
  generalize updateVideo settings.serverAddress env.now t body = u at hid htkt hcs hbill ⊢
  refine .inr ⟨t, u, hmem, hid, htkt, ?_⟩
  have hnil : ∀ w : World, w.addJobs i [] = w := fun w => by simp [addJobs]
  by_cases hwrite : (u.write && !env.dbError)
  · rw [writeVideo, if_pos hwrite]
    rcases updateWithStatus_cases (w.setCopy i platform taskId u.task) u.task t.status with
      hlost | ⟨hrow, hwon⟩
    · left
      rcases hcs with ⟨hguard, -⟩ | ⟨hguard, hkeep, -⟩
      · simp [hlost, hguard]
      · simp [hlost, hguard, hkeep, billingJobs, hnil]
    refine .inr ⟨hrow, by simp [hwon], ?_⟩
    rcases hcs with ⟨hguard, -⟩ | ⟨-, hkeep, hopen⟩
    · rcases hbill hguard with hfail | hsucc
      · exact .inl hfail
      · exact .inr (.inl hsucc)
    · exact .inr (.inr ⟨hopen (Bool.and_eq_true_iff.mp hwrite).1, hkeep⟩)
  left
  rw [writeVideo, if_neg hwrite]
  rcases hcs with ⟨hguard, -⟩ | ⟨hguard, hkeep, -⟩
  · simp [hguard]
  · simp [hguard, hkeep, billingJobs, hnil]

/-! ## A step of the pollers and the sweeper -/

/-- The jobs of pollers that run `updateVideoSingleTask` and of the sweeper,
and the condition on a call of the former: its copy is not finished. -/
def videoOk (w : World) (i : ℕ) (env : Env) : Job → Bool
  | .sweep | .sweepTask _ | .poll | .refund _ | .settle _ _ _ _ => true
  | .video _ _ _ => env.channel
  | .videoTask platform taskId => (w.copy? i platform taskId).all (!·.status.finished)
  | .failNull _ | .suno _ _ | .sunoItem _ | .save _ => false

def VideoStep (w : World) : Act → Prop
  | .submit _ | .begin _ => True
  | .run k env => ∀ taken ∈ takeJob k w.jobs, videoOk w taken.1.1 env taken.1.2 = true

instance (w : World) (act : Act) : Decidable (VideoStep w act) :=
  match act with
  | .submit _ | .begin _ => isTrue trivial
  | .run k env => inferInstanceAs
      (Decidable (∀ taken ∈ takeJob k w.jobs, videoOk w taken.1.1 env taken.1.2 = true))

/-- What a sweeper has still to do are tasks that it has read unfinished. -/
def SweepsUnfinished (w : World) : Prop :=
  ∀ i t, (i, Job.sweepTask t) ∈ w.jobs → t.status.finished = false

open PaidTable in
theorem keeps_of_same (htasks : w'.tasks = w.tasks) (hbilled : ∀ id, w'.billed id ≤ w.billed id) :
    Step finished w.paidTable w'.paidTable := by
  intro id
  refine .inl ⟨hbilled id, fun s hs _ => ?_⟩
  simp only [paidTable, statusOf, task?, htasks] at hs ⊢
  exact hs

open PaidTable in
/-- A write that wins against an unfinished row, and what is billed for it. -/
theorem step_saveTask
    (hrow : w.statusOf t.id = some fromStatus) (hfrom : fromStatus.finished = false)
    (htasks : w'.tasks = (w.saveTask t).tasks)
    (hbilled : ∀ id, w'.billed id ≤ w.billed id + if t.id = id ∧ t.status.finished then 1 else 0) :
    Step finished w.paidTable w'.paidTable := by
  intro id
  have hstat : w'.statusOf id =
      (w.statusOf id).map fun status => if t.id = id then t.status else status := by
    rw [← statusOf_saveTask]
    simp only [statusOf, task?, htasks]
  have hle := hbilled id
  by_cases hid : t.id = id
  · subst hid
    rw [hrow, map_some, if_pos rfl] at hstat
    cases hdone : t.status.finished with
    | true =>
      refine .inr ⟨fun s hs => ?_, ?_, t.status, hstat, hdone⟩
      · rw [show w.paidTable.status t.id = some fromStatus from hrow] at hs
        cases hs
        exact hfrom
      · simpa [hdone] using hle
    | false =>
      refine .inl ⟨by simpa [hdone] using hle, fun s hs hfinal => ?_⟩
      rw [show w.paidTable.status t.id = some fromStatus from hrow] at hs
      cases hs
      rw [hfrom] at hfinal
      cases hfinal
  · refine .inl ⟨by simpa [hid] using hle, fun s hs _ => ?_⟩
    show w'.statusOf id = some s
    rw [hstat, show w.statusOf id = some s from hs, map_some, if_neg hid]

theorem countP_entry_le (entry : Option BillingEntry) (id : Int) {t : Task}
    (h : ∀ e ∈ entry, e.task = t.id) :
    entry.toList.countP (fun e => e.task = id) ≤ if t.id = id then 1 else 0 := by
  cases entry with
  | none => exact zero_le _
  | some e =>
    have he := h e rfl
    simp only [toList_some, countP_singleton, he, decide_eq_true_eq]
    exact le_refl _

theorem refundTaskQuota_task : ∀ e ∈ refundTaskQuota env t, e.task = t.id ∧ e.kind = .refund := by
  intro e he
  simp only [refundTaskQuota, adjust, mem_def] at he
  split at he
  · cases he
  split at he
  · cases he
  · cases he
    exact ⟨rfl, rfl⟩

theorem settleTaskBilling_task :
    ∀ e ∈ (settleTaskBilling settings env adjusted t info).1, e.task = t.id ∧ e.kind = .settle := by
  have hrec : ∀ quota, ∀ e ∈ (recalculateTaskQuota env t quota).1,
      e.task = t.id ∧ e.kind = .settle := by
    intro quota e he
    simp only [recalculateTaskQuota, adjust] at he
    split at he
    · cases he
    cases hfund : env.fundingError with rw [hfund] at he
    | true =>
      cases he
    | false =>
      cases he
      exact ⟨rfl, rfl⟩
  intro e he
  simp only [settleTaskBilling] at he
  split at he
  · cases he
  split at he
  · exact hrec _ e he
  split at he
  · split at he
    · exact hrec _ e he
    · cases he
  · cases he

section

variable {settings : Settings} {w : World} {k i : ℕ} {env : Env} {job : Job}
  {rest : List (ℕ × Job)}

open PaidTable

theorem step_refund {t : Task} (htake : takeJob k w.jobs = some ((i, .refund t), rest)) :
    Step finished w.paidTable (refund env { w with jobs := rest } t).paidTable := by
  refine keeps_of_same rfl fun id => ?_
  rw [billed_takeJob htake id]
  have hle := countP_entry_le (refundTaskQuota env.billing t) id
    fun e he => (refundTaskQuota_task e he).1
  simp only [billed, pending, refund, countP_append, Job.bills, some.injEq] at hle ⊢
  omega

theorem step_settle (htake : takeJob k w.jobs = some ((i, .settle platform taskId t info), rest)) :
    Step finished w.paidTable
      (settle settings i env { w with jobs := rest } platform taskId t info).paidTable := by
  refine keeps_of_same rfl fun id => ?_
  rw [billed_takeJob htake id]
  have htask : ((settleTaskBilling settings.ratios env.billing env.adjusted t info).1.getD
      ⟨t.id, .settle, none, none⟩).task = t.id := by
    cases hentry : (settleTaskBilling settings.ratios env.billing env.adjusted t info).1 with
    | none => rfl
    | some e => exact (settleTaskBilling_task e hentry).1
  simp only [billed, pending, settle, setCopy, countP_append,
    countP_singleton, htask, Job.bills, some.injEq, decide_eq_true_eq]
  omega

theorem step_sweepTask (htake : takeJob k w.jobs = some ((i, .sweepTask t), rest))
    (ht : t.status.finished = false) :
    Step finished w.paidTable (sweepTask settings i env { w with jobs := rest } t).paidTable := by
  have hrest : ∀ id, w.billed id = { w with jobs := rest }.billed id :=
    fun id => billed_takeJob htake id
  simp only [sweepTask]
  split
  · exact keeps_of_same rfl fun id => (hrest id).ge
  rcases updateWithStatus_cases { w with jobs := rest } (timedOut settings env.now t)
    t.status with hlost | ⟨hrow, hwon⟩
  · rw [hlost]
    exact keeps_of_same rfl fun id => (hrest id).ge
  rw [hwon]
  have hrow' : w.statusOf (timedOut settings env.now t).id = some t.status := hrow
  simp only
  split
  · refine step_saveTask hrow' ht rfl fun id => ?_
    rw [billed_addJobs, hrest id]
    simp [Job.bills, timedOut, finished, billed, pending, saveTask, countP_singleton]
  · refine step_saveTask hrow' ht rfl fun id => ?_
    rw [hrest id]
    exact le_add_right _ _

theorem countP_billingJobs (platform : TaskPlatform) (taskId : String) (t : Task)
    (billing : Billing) (id : Int) :
    (billingJobs platform taskId t billing).countP (fun j => j.bills = some id) ≤
      if t.id = id then 1 else 0 := by
  cases billing <;> simp [billingJobs, Job.bills, countP_singleton]

theorem step_videoTask (htake : takeJob k w.jobs = some ((i, .videoTask platform taskId), rest))
    (hcopy : ∀ t, w.copy? i platform taskId = some t → t.status.finished = false) :
    Step finished w.paidTable
      (videoTask settings i env { w with jobs := rest } platform taskId).paidTable := by
  have hrest : ∀ id, w.billed id = { w with jobs := rest }.billed id :=
    fun id => billed_takeJob htake id
  rcases videoTask_cases (w := { w with jobs := rest }) settings i env hcopy with
    hsame | ⟨t, u, hmem, -, -, hsame | ⟨hrow, hsame, hbill⟩⟩ <;> rw [hsame]
  · exact keeps_of_same rfl fun id => (hrest id).ge
  · -- the copy is changed, the table is not
    exact keeps_of_same rfl fun id => (hrest id).ge
  have hrow' : w.statusOf u.task.id = some t.status := hrow
  refine step_saveTask hrow' (hcopy t hmem) rfl fun id => ?_
  rw [billed_addJobs, hrest id]
  have hle := countP_billingJobs platform taskId u.task u.billing id
  simp only [billed, pending, saveTask, setCopy] at hle ⊢
  rcases hbill with ⟨hstat, -⟩ | ⟨hstat, -⟩ | ⟨-, hkeep⟩
  · simp only [hstat, finished, and_true]
    omega
  · simp only [hstat, finished, and_true]
    omega
  · simp only [hkeep, billingJobs, countP_nil]
    omega

theorem step_addJobs (htasks : w'.tasks = w.tasks) (hbilled : ∀ id, w'.billed id ≤ w.billed id)
    {jobs} (hjobs : ∀ job ∈ jobs, job.bills = none) :
    Step finished w.paidTable (w'.addJobs i jobs).paidTable :=
  keeps_of_same htasks fun id => by
    rw [billed_addJobs_of_none hjobs]
    exact hbilled id

theorem step_submit (w : World) (t : Task) : Step finished w.paidTable (w.submit t).paidTable := by
  intro id
  simp only [submit]
  split
  · exact .inl (Keeps.refl _ _)
  refine .inl ⟨le_refl _, fun status hs _ => ?_⟩
  -- the new row comes after the others
  obtain ⟨r, hr, hstat⟩ := map_eq_some_iff.mp hs
  show (find? _ (w.tasks ++ _)).map _ = _
  rw [find?_append, show w.tasks.find? (·.id = id) = some r from hr]
  exact congrArg some hstat

/-- **The step lemma**: a step of the pollers and the sweeper is a step of the
abstract table. -/
theorem step_paidTable {act} (hswe : SweepsUnfinished w) (hstep : VideoStep w act) :
    Step finished w.paidTable (w.step settings act).paidTable := by
  cases act with
  | submit t => exact step_submit w t
  | «begin» i =>
    exact step_addJobs rfl (fun _ => le_refl _) (by simp [Job.bills])
  | run k env =>
  simp only [step]
  cases htake : takeJob k w.jobs with
  | none => exact fun id => .inl (Keeps.refl _ _)
  | some taken =>
  obtain ⟨⟨i, job⟩, rest⟩ := taken
  have hok : videoOk w i env job = true := hstep _ htake
  have hrest : ∀ id, { w with jobs := rest }.billed id ≤ w.billed id := fun id => by
    rw [billed_takeJob htake id]
    exact le_add_right _ _
  cases job with
  | sweep =>
    simp only [runJob, World.sweep]
    split
    · exact keeps_of_same rfl hrest
    refine step_addJobs (by rfl) hrest fun job hjob => ?_
    obtain ⟨t, _, rfl⟩ := mem_map.mp hjob
    rfl
  | sweepTask t => exact step_sweepTask htake (hswe i t (mem_of_takeJob htake))
  | poll =>
    refine step_addJobs (by rfl) hrest fun job hjob => ?_
    obtain ⟨_, rfl⟩ | ⟨_, _, rfl⟩ | ⟨_, _, _, rfl⟩ := pollJobs_planned hjob <;> rfl
  | video platform channelId taskIds =>
    have hchan : env.channel = true := hok
    simp only [runJob, World.video, hchan, Bool.not_true, Bool.false_eq_true, if_false]
    split
    · exact keeps_of_same rfl hrest
    split
    · exact keeps_of_same rfl hrest
    refine step_addJobs (by rfl) hrest fun job hjob => ?_
    obtain ⟨taskId, _, rfl⟩ := mem_map.mp hjob
    rfl
  | videoTask platform taskId =>
    refine step_videoTask htake fun t ht => ?_
    simp only [videoOk, ht, all_some, Bool.not_eq_true'] at hok
    exact hok
  | refund t => exact step_refund htake
  | settle platform taskId t info => exact step_settle htake
  | failNull ids => cases hok
  | suno channelId taskIds => cases hok
  | sunoItem item => cases hok
  | save t => cases hok

/-- Only a sweep gives a sweeper work, and it reads unfinished tasks. -/
theorem sweepsUnfinished_step (h : SweepsUnfinished w) :
    SweepsUnfinished (w.step settings act) := by
  intro j t hmem
  cases act with
  | submit =>
    simp only [step, World.submit] at hmem
    split at hmem <;> exact h j t hmem
  | «begin» i =>
    rcases mem_addJobs.mp hmem with hold | ⟨_, hnew⟩
    · exact h j t hold
    · simp at hnew
  | run k =>
    simp only [step] at hmem
    cases htake : takeJob k w.jobs with
    | none =>
      rw [htake] at hmem
      exact h j t hmem
    | some taken =>
    obtain ⟨⟨i, job⟩, rest⟩ := taken
    rw [htake] at hmem
    rcases mem_jobs_runJob hmem with hold | ⟨_, hspawn⟩
    · exact h j t (mem_of_mem_rest htake hold)
    cases hspawn with
    | sweepTask _ ht => exact ht
    | planned hplan =>
      rcases pollJobs_planned hplan with ⟨_, h⟩ | ⟨_, _, h⟩ | ⟨_, _, _, h⟩ <;> cases h
    | billing _ _ hbill =>
      generalize (updateVideo _ _ _ _).billing = billing at hbill
      cases billing <;> simp [billingJobs] at hbill

end

/-- How often the quota of a task was returned. -/
def World.refunds (w : World) (id : Int) : ℕ :=
  w.ledger.countP fun e => e.task = id && e.kind = .refund

def World.settlements (w : World) (id : Int) : ℕ :=
  w.ledger.countP fun e => e.task = id && e.kind = .settle

theorem World.refunds_add_settlements (w : World) (id : Int) :
    w.refunds id + w.settlements id = w.ledger.countP fun e => e.task = id := by
  simp only [refunds, settlements]
  induction w.ledger with
  | nil => rfl
  | cons e _ ih =>
    simp only [countP_cons, ← ih]
    cases e.kind <;> by_cases he : e.task = id <;> simp [he] <;> omega

/-- **Video tasks are billed once.** For any number of pollers and sweepers,
every sequence of answers and every interleaving in which no poller is given a
copy that it has finished itself: a task is refunded or settled once at most,
and a finished task keeps its status. -/
theorem videoTask_billed_once (settings : Settings) (acts later : List Act)
    (h : Along (World.step settings) VideoStep {} (acts ++ later)) :
    (∀ id, (exec (World.step settings) {} acts).refunds id +
      (exec (World.step settings) {} acts).settlements id ≤ 1) ∧
    ∀ id status, (exec (World.step settings) {} acts).statusOf id = some status →
      status.finished = true →
      (exec (World.step settings) {} (acts ++ later)).statusOf id = some status := by
  obtain ⟨hacts, hlater⟩ := along_append.mp h
  have hreached : SweepsUnfinished (exec (World.step settings) {} acts) ∧
      PaidTable.Once TaskStatus.finished (exec (World.step settings) {} acts).paidTable :=
    Along.invariant (fun w => SweepsUnfinished w ∧ PaidTable.Once TaskStatus.finished w.paidTable)
      (fun w act hw hok => ⟨sweepsUnfinished_step hw.1, hw.2.step (step_paidTable hw.1 hok)⟩)
      ⟨fun _ _ hmem => absurd hmem not_mem_nil, fun _ => zero_le _,
        fun _ hpos => absurd hpos (lt_irrefl 0)⟩ hacts
  obtain ⟨hsweeps, honce⟩ := hreached
  refine ⟨fun id => ?_, fun id status hstatus hfinal => ?_⟩
  · rw [World.refunds_add_settlements]
    exact le_trans (le_add_right _ _) (honce.le_one id)
  rw [exec_append]
  exact (Along.invariant
    (fun w => SweepsUnfinished w ∧ w.statusOf id = some status)
    (fun w act hw hok => ⟨sweepsUnfinished_step hw.1,
      (step_paidTable hw.1 hok).status_final hw.2 hfinal⟩) ⟨hsweeps, hstatus⟩ hlater).2

/-! ## One task, and two tasks with one upstream id -/

def sampleSettings : Settings where
  ratios := {
    modelRatio := fun _ => none
    groupRatio := fun _ => 1
    groupGroupRatio := fun _ _ => none
    userGroup := fun _ => "" }

/-- A video task that was paid for with 500 quota. -/
def sampleTask (taskID upstreamTaskID : String) : Task where
  taskID := taskID
  platform := .other "35"
  userId := 7
  channelId := 3
  quota := 500
  submitTime := 1800000000
  privateData := { upstreamTaskID }

/-- The upstream says that the task has failed. -/
def failedAnswer : Env where
  now := 1800000100
  video := some { parsed := .ok { status := "FAILURE", reason := "no capacity" } }

/-- Two pollers have read the task; the second loses the swap. -/
def sampleRun : List Act :=
  [.submit (sampleTask "task_a" "u1"), .begin 0, .begin 1,
    .run 1 { now := 1800000100 }, .run 2 { now := 1800000100 },
    .run 2 {}, .run 2 {},
    .run 2 failedAnswer, .run 2 failedAnswer, .run 2 {}]

theorem videoTask_billed_once_sample :
    (∀ id, (exec (World.step sampleSettings) {} sampleRun).refunds id +
      (exec (World.step sampleSettings) {} sampleRun).settlements id ≤ 1) ∧
    ∀ id status, (exec (World.step sampleSettings) {} sampleRun).statusOf id = some status →
      status.finished = true →
      (exec (World.step sampleSettings) {} (sampleRun ++ [.run 0 {}])).statusOf id = some status :=
  videoTask_billed_once sampleSettings sampleRun [.run 0 {}] (by decide +kernel)

example : (exec (World.step sampleSettings) {} sampleRun).refunds 1 = 1 := by decide +kernel

/-- **A task is refunded twice.** Two tasks of one platform have the upstream
id "u1". One poller has one copy for both, asks twice, and refunds task 2 each
time: the second time the copy is FAILURE already and no write is needed. -/
theorem videoTask_refunded_twice :
    (exec (World.step sampleSettings) {}
      [.submit (sampleTask "task_a" "u1"), .submit (sampleTask "task_b" "u1"), .begin 0,
        .run 0 { now := 1800000100 }, .run 0 { now := 1800000100 }, .run 0 {},
        .run 0 failedAnswer, .run 1 {}, .run 0 failedAnswer, .run 0 {}]).refunds 2 = 2 := by
  decide +kernel

end HermesToken.Tasks
