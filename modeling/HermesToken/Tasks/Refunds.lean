import HermesToken.Tasks.BilledOnce

/-!
# Failed tasks are refunded

FAILURE is written in six places. The sweeper and `updateVideoSingleTask`
write it with a compare-and-swap and refund after it. `updateSunoTasks` refunds
FIRST and then saves its copy over whatever the row has become. The bulk
updates of `TaskPollingLoop`, `updateSunoTasks` and `updateVideoTasks` write it
to every row they are given and refund nothing.

Refunds and failures are balanced by what is under way: for a task that is not
FAILURE, the refunds made or due are as many as the saves of FAILURE that are
due; for a billed task that is FAILURE there is one more.
-/

namespace HermesToken.Tasks

open Lib World List Option

variable {t : Task} {platform : TaskPlatform} {status : TaskStatus}
  {job : Job}

def Job.refunds : Job → Option Int
  | .refund t => some t.id
  | _ => none

/-- The task that a job is going to save as FAILURE after its refund. -/
def Job.savesFailure : Job → Option Int
  | .save t => if t.status = .failure ∧ t.quota ≠ 0 then some t.id else none
  | _ => none

def World.ticketOf (w : World) (id : Int) : Option (Int × FundingSource) :=
  (w.task? id).map (·.ticket)

/-- The refunds of a task that were made or are due. -/
def World.refundsDue (w : World) (id : Int) : ℕ := w.refunds id + w.pending Job.refunds id

def World.savesDue (w : World) (id : Int) : ℕ := w.pending Job.savesFailure id

/-- The balance of a row: `refunds` made or due, `saves` of FAILURE due. -/
def Balanced (row : Option Task) (refunds saves : ℕ) : Prop :=
  match row with
  | some r =>
    if r.status = .failure then
      saves ≤ refunds ∧ refunds ≤ saves + 1 ∧
        (r.quota ≠ 0 → r.isLegacy = false → refunds = saves + 1)
    else refunds = saves
  | none => refunds = saves

def JobOk (w : World) : Job → Prop
  | .sweepTask t => t.status.finished = false ∧ w.ticketOf t.id = some t.ticket
  | .save t => w.ticketOf t.id = some t.ticket
  | .refund t => w.ticketOf t.id = some t.ticket ∧ t.quota ≠ 0
  | .settle _ _ t _ => t.status.finished = true
  | _ => True

/-- **The invariant.** Rows are numbered, every copy that is in use agrees with
its row about the money, every refund paid what the row says, and refunds and
failures are balanced. -/
structure Sound (w : World) : Prop where
  ids : w.tasks.map Task.id = (List.range w.tasks.length).map fun n : ℕ => (n : Int) + 1
  jobs : ∀ p ∈ w.jobs, JobOk w p.2
  copies : ∀ c ∈ w.memory, c.task.status.finished = false →
    w.ticketOf c.task.id = some c.task.ticket
  entries : ∀ e ∈ w.ledger, e.kind = .refund →
    ∃ quota source, w.ticketOf e.task = some (quota, source) ∧ e.funding = some (source, -quota)
  balance : ∀ id, Balanced (w.task? id) (w.refundsDue id) (w.savesDue id)

/-! ## The condition -/

/-- When a job keeps the balance: no bulk failure is written, the Suno answer
is about a task that was asked for and is not finished, its fail reasons come
with FAILURE only, what it saves has not been finished by someone else, a
failure is saved, and a refund is paid. -/
def refundOk (w : World) (i : ℕ) (env : Env) : Job → Bool
  | .failNull _ => env.dbError
  | .suno _ _ | .video _ _ _ => env.channel
  | .sunoItem item => match w.copy? i .suno item.taskID with
    | none => false
    | some t => !t.status.finished && !env.billing.fundingError &&
        (item.failReason = "" || item.status = "FAILURE")
  | .save t =>
    if env.dbError then t.status ≠ .failure
    else (w.statusOf t.id).all (!·.finished)
  | .videoTask platform taskId => (w.copy? i platform taskId).all (!·.status.finished)
  | .refund _ => !env.billing.fundingError
  | .sweep | .sweepTask _ | .poll | .settle _ _ _ _ => true

def RefundStep (w : World) : Act → Prop
  | .submit _ | .begin _ => True
  | .run k env => ∀ taken ∈ takeJob k w.jobs, refundOk w taken.1.1 env taken.1.2 = true

instance (w : World) (act : Act) : Decidable (RefundStep w act) :=
  match act with
  | .submit _ | .begin _ => isTrue trivial
  | .run k env => inferInstanceAs
      (Decidable (∀ taken ∈ takeJob k w.jobs, refundOk w taken.1.1 env taken.1.2 = true))

/-! ## Rows and tickets -/

namespace World

variable {w w' : World}

theorem task?_saveTask (w : World) (t : Task) (id : Int) :
    (w.saveTask t).task? id = (w.task? id).map fun r => if t.id = id then t else r :=
  find?_saveRow t id w.tasks

/-- No ticket of `w` is lost or changed. -/
def KeepsTickets (w w' : World) : Prop :=
  ∀ id x, w.ticketOf id = some x → w'.ticketOf id = some x

theorem keepsTickets_of_tasks (h : w'.tasks = w.tasks) : w.KeepsTickets w' := by
  intro id x hx
  simp only [ticketOf, task?, h] at hx ⊢
  exact hx

theorem keepsTickets_saveTask (h : w.ticketOf t.id = some t.ticket) :
    w.KeepsTickets (w.saveTask t) := by
  intro id x hx
  exact (map_find?_saveRow Task.ticket h id).trans hx

end World

variable {w w' : World}

theorem JobOk.mono (htkts : w.KeepsTickets w') (h : JobOk w job) : JobOk w' job := by
  cases job with
  | sweepTask => exact ⟨h.1, htkts _ _ h.2⟩
  | save => exact htkts _ _ h
  | refund => exact ⟨htkts _ _ h.1, h.2⟩
  | settle => exact h
  | _ => trivial

theorem Sound.task?_of_mem (h : Sound w) (ht : t ∈ w.tasks) : w.task? t.id = some t := by
  have hnodup : (w.tasks.map Task.id).Nodup := by
    rw [h.ids]
    exact nodup_range.map fun a b hab => by simpa using hab
  exact find?_of_mem hnodup ht

/-- The parts of the invariant apart from the balance, after a change that
keeps the tickets. -/
theorem Sound.of (h : Sound w) (htkts : w.KeepsTickets w')
    (hids : w'.tasks.map Task.id = (range w'.tasks.length).map fun n : ℕ => (n : Int) + 1)
    (hjobs : ∀ p ∈ w'.jobs, p ∈ w.jobs ∨ JobOk w' p.2) (hcops : ∀ c ∈ w'.memory, c ∈ w.memory ∨
      (c.task.status.finished = false → w'.ticketOf c.task.id = some c.task.ticket))
    (hentry : ∀ e ∈ w'.ledger, e ∈ w.ledger ∨ (e.kind = .refund →
      ∃ quota source, w'.ticketOf e.task = some (quota, source) ∧
        e.funding = some (source, -quota)))
    (hbal : ∀ id, Balanced (w'.task? id) (w'.refundsDue id) (w'.savesDue id)) : Sound w' where
  ids := hids
  jobs := fun p hp => (hjobs p hp).elim (fun hold => (h.jobs p hold).mono htkts) id
  copies := fun c hc hopen => (hcops c hc).elim
    (fun hold => htkts _ _ (h.copies c hold hopen)) (fun hnew => hnew hopen)
  entries := fun e he hkind => (hentry e he).elim
    (fun hold => by
      obtain ⟨quota, source, htkt, hfund⟩ := h.entries e hold hkind
      exact ⟨quota, source, htkts _ _ htkt, hfund⟩)
    (fun hnew => hnew hkind)
  balance := hbal

/-! ## New jobs -/

theorem World.copy?_mem (h : w.copy? i platform upstreamID = some t) :
    ∃ c ∈ w.memory, c.task = t := by
  obtain ⟨c, hc, rfl⟩ := map_eq_some_iff.mp h
  exact ⟨c, mem_of_find?_eq_some hc, rfl⟩

theorem Sound.ticketOf_copy (h : Sound w) (hcopy : w.copy? i platform upstreamID = some t)
    (hopen : t.status.finished = false) : w.ticketOf t.id = some t.ticket := by
  obtain ⟨c, hc, rfl⟩ := copy?_mem hcopy
  exact h.copies c hc hopen

theorem pollJobs_ok (w : World) {tasks} (h : job ∈ pollJobs tasks) :
    JobOk w job ∧ job.refunds = none ∧ job.savesFailure = none := by
  obtain ⟨_, rfl⟩ | ⟨_, _, rfl⟩ | ⟨_, _, _, rfl⟩ := pollJobs_planned h <;> exact ⟨trivial, rfl, rfl⟩

theorem updateVideo_refund (h : (updateVideo serverAddress now t b).billing = .refund) :
    t.quota ≠ 0 ∧ (updateVideo serverAddress now t b).task.status = .failure := by
  simp only [updateVideo] at h ⊢
  split at h
  · cases h
  · cases h
  rename_i info _
  split at h
  · cases h
  rename_i happly
  have hstat := (applyStatus_id happly).2.2
  have hbill : billingOf t info = .refund := by
    split at h <;> exact h
  simp only [billingOf] at hbill
  split at hbill
  · cases hbill
  · rename_i hfail
    split at hbill
    · rename_i hquo
      refine ⟨hquo, ?_⟩
      split <;> exact hstat.trans hfail
    · cases hbill
  · cases hbill

theorem spawned_ok {settings env i job'} (h : Sound w)
    {rest} (hjob : JobOk w job) (hok : refundOk w i env job)
    (hspawn : Spawned settings env { w with jobs := rest } i job job') : JobOk w job' := by
  cases hspawn with
  | sweepTask ht hopen =>
    refine ⟨hopen, ?_⟩
    rw [ticketOf, h.task?_of_mem ht]
    rfl
  | timedOut hquo => exact ⟨hjob.2, hquo⟩
  | planned hplan => exact (pollJobs_ok w hplan).1
  | sunoItem => trivial
  | save hcopy =>
    rename_i t item
    have hcopy' : w.copy? i .suno item.taskID = some t := hcopy
    simp only [refundOk, hcopy', Bool.and_eq_true, Bool.not_eq_true'] at hok
    show w.ticketOf t.id = some t.ticket
    exact h.ticketOf_copy hcopy' hok.1.1
  | videoTask => trivial
  | billing hcopy _ hbill =>
    rename_i platform taskId t body _
    have hcopy' : w.copy? i platform taskId = some t := hcopy
    have hopen : t.status.finished = false := by
      simpa [refundOk, hcopy'] using hok
    obtain ⟨hid, htkt, hcs⟩ := updateVideo_cases settings.serverAddress env.now body hopen
    cases hbilling : (updateVideo settings.serverAddress env.now t body).billing with
    | keep =>
      rw [hbilling] at hbill
      cases hbill
    | refund =>
      rw [hbilling] at hbill
      rw [mem_singleton.mp hbill]
      refine ⟨?_, ?_⟩
      · rw [hid, htkt]
        exact h.ticketOf_copy hcopy' hopen
      have hquo : (updateVideo settings.serverAddress env.now t body).task.quota = t.quota :=
        congrArg Prod.fst htkt
      rw [hquo]
      exact (updateVideo_refund hbilling).1
    | settle =>
      rw [hbilling] at hbill hcs
      rw [mem_singleton.mp hbill]
      rcases hcs with ⟨_, _, hdone⟩ | ⟨_, hkeep, _⟩
      · exact hdone
      · cases hkeep

/-! ## The balance -/

section

variable {k i : ℕ} {job : Job} {rest : List (ℕ × Job)}

section

variable (h : takeJob k w.jobs = some ((i, job), rest))
include h

theorem refundsDue_takeJob (id : Int) :
    w.refundsDue id =
      { w with jobs := rest }.refundsDue id + if job.refunds = some id then 1 else 0 := by
  simp only [refundsDue, pending_takeJob Job.refunds h, Nat.add_assoc]
  rfl

theorem savesDue_takeJob (id : Int) :
    w.savesDue id =
      { w with jobs := rest }.savesDue id + if job.savesFailure = some id then 1 else 0 :=
  pending_takeJob Job.savesFailure h id

theorem due_takeJob_of_none (hrfs : job.refunds = none) (hsaves : job.savesFailure = none)
    (id : Int) :
    { w with jobs := rest }.refundsDue id = w.refundsDue id ∧
      { w with jobs := rest }.savesDue id = w.savesDue id := by
  constructor
  · rw [refundsDue_takeJob h, hrfs]
    rfl
  · rw [savesDue_takeJob h, hsaves]
    rfl

end

theorem refundsDue_addJobs (w : World) (i : ℕ) (jobs : List Job) (id : Int) :
    (w.addJobs i jobs).refundsDue id =
      w.refundsDue id + jobs.countP (fun job => job.refunds = some id) := by
  simp only [refundsDue, pending_addJobs, Nat.add_assoc]
  rfl

theorem savesDue_addJobs (w : World) (i : ℕ) (jobs : List Job) (id : Int) :
    (w.addJobs i jobs).savesDue id =
      w.savesDue id + jobs.countP (fun job => job.savesFailure = some id) :=
  pending_addJobs Job.savesFailure w i jobs id

theorem due_addJobs_of_none {jobs}
    (h : ∀ job ∈ jobs, job.refunds = none ∧ job.savesFailure = none) (id : Int) :
    (w.addJobs i jobs).refundsDue id = w.refundsDue id ∧
      (w.addJobs i jobs).savesDue id = w.savesDue id := by
  refine ⟨?_, pending_addJobs_of_none Job.savesFailure (fun job hjob => (h job hjob).2) id⟩
  exact congrArg (w.refunds id + ·)
    (pending_addJobs_of_none Job.refunds (fun job hjob => (h job hjob).1) id)

end

/-- A task that is not finished has no refund but those of saves that are due. -/
theorem Sound.balance_open (h : Sound w) {id} (hrow : w.statusOf id = some status)
    (hopen : status.finished = false) : w.refundsDue id = w.savesDue id := by
  obtain ⟨r, hr, rfl⟩ := map_eq_some_iff.mp hrow
  have hbal := h.balance id
  rw [hr] at hbal
  have hne : r.status ≠ .failure := by
    intro heq
    rw [heq] at hopen
    cases hopen
  simpa only [Balanced, if_neg hne] using hbal

theorem Sound.balanced_saveTask (h : Sound w) (hrow : w.statusOf t.id = some status)
    {refunds saves : Int → ℕ}
    (hother : ∀ id, t.id ≠ id → refunds id = w.refundsDue id ∧ saves id = w.savesDue id)
    (hself : Balanced (some t) (refunds t.id) (saves t.id)) (id : Int) :
    Balanced ((w.saveTask t).task? id) (refunds id) (saves id) := by
  rw [task?_saveTask]
  by_cases hid : t.id = id
  · subst hid
    obtain ⟨r, hr, _⟩ := map_eq_some_iff.mp hrow
    simpa only [hr, map_some, if_true] using hself
  · obtain ⟨hrfs, hsaves⟩ := hother id hid
    rw [hrfs, hsaves]
    simpa only [if_neg hid, Option.map_id'] using h.balance id

/-- The row of a write that wins, with its refund if it is a failure. -/
theorem balanced_of_won {refunds saves paid} (hopen : refunds = saves)
    (hfail : t.status = .failure → paid ≤ 1 ∧
      (t.quota ≠ 0 → t.isLegacy = false → paid = 1)) (hother : t.status ≠ .failure → paid = 0) :
    Balanced (some t) (refunds + paid) saves := by
  simp only [Balanced]
  split
  · rename_i hstat
    obtain ⟨_, hone⟩ := hfail hstat
    refine ⟨by omega, by omega, fun hquo hleg => ?_⟩
    have := hone hquo hleg
    omega
  · rename_i hstat
    have := hother hstat
    omega

/-! ## A step -/

section

variable {settings : Settings} {env : Env} {k i : ℕ} {job : Job} {rest : List (ℕ × Job)}

section

variable (h : Sound w) (htake : takeJob k w.jobs = some ((i, job), rest))
  (hok : refundOk w i env job = true) (hw' : runJob settings i env { w with jobs := rest } job = w')
include h htake hok hw'

/-- A job is done: its new jobs are in order, the rest is to be shown. -/
theorem Sound.run (htkts : w.KeepsTickets w')
    (hids : w'.tasks.map Task.id = (range w'.tasks.length).map fun n : ℕ => (n : Int) + 1)
    (hcops : ∀ c ∈ w'.memory, c ∈ w.memory ∨
      (c.task.status.finished = false → w'.ticketOf c.task.id = some c.task.ticket))
    (hentry : ∀ e ∈ w'.ledger, e ∈ w.ledger ∨ (e.kind = .refund →
      ∃ quota source, w'.ticketOf e.task = some (quota, source) ∧
        e.funding = some (source, -quota)))
    (hbal : ∀ id, Balanced (w'.task? id) (w'.refundsDue id) (w'.savesDue id)) : Sound w' := by
  refine h.of htkts hids (fun p hp => ?_) hcops hentry hbal
  rw [← hw'] at hp
  rcases mem_jobs_runJob hp with hold | ⟨_, hspawn⟩
  · exact .inl (mem_of_mem_rest htake hold)
  · exact .inr ((spawned_ok h (h.jobs _ (mem_of_takeJob htake)) hok hspawn).mono htkts)

/-- A job that leaves the table and the ledger, and neither refunds nor saves
a failure. -/
theorem Sound.run_quiet (htasks : w'.tasks = w.tasks) (hcops : ∀ c ∈ w'.memory, c ∈ w.memory ∨
      (c.task.status.finished = false → w.ticketOf c.task.id = some c.task.ticket))
    (hledger : w'.ledger = w.ledger)
    (hdue : ∀ id, w'.refundsDue id = w.refundsDue id ∧ w'.savesDue id = w.savesDue id) :
    Sound w' := by
  have htkts := keepsTickets_of_tasks htasks
  refine h.run htake hok hw' htkts ?_ (fun c hc => ?_) (fun e he => ?_) (fun id => ?_)
  · rw [htasks]
    exact h.ids
  · exact (hcops c hc).imp id fun hnew hopen => htkts _ _ (hnew hopen)
  · exact .inl (hledger ▸ he)
  · rw [(hdue id).1, (hdue id).2]
    simpa only [task?, htasks] using h.balance id

end

theorem Sound.ids_saveTask (h : Sound w) (t : Task) :
    (w.saveTask t).tasks.map Task.id =
      (range (w.saveTask t).tasks.length).map fun n : ℕ => (n : Int) + 1 := by
  simp only [saveTask, map_key_saveRow, length_saveRow]
  exact h.ids

/-- A job that wins a write to an unfinished row, with its refund if that is a
failure. -/
theorem Sound.run_won (h : Sound w) (htake : takeJob k w.jobs = some ((i, job), rest))
    (hok : refundOk w i env job)
    (hw' : runJob settings i env { w with jobs := rest } job = w')
    (hrow : w.statusOf t.id = some status) (hopen : status.finished = false)
    (htkt : w.ticketOf t.id = some t.ticket) (htasks : w'.tasks = (w.saveTask t).tasks)
    (hcops : ∀ c ∈ w'.memory, c ∈ w.memory ∨
      (c.task.status.finished = false → w.ticketOf c.task.id = some c.task.ticket))
    (hledger : w'.ledger = w.ledger) (paid : ℕ)
    (hdue : ∀ id, w'.refundsDue id = w.refundsDue id + (if t.id = id then paid else 0) ∧
      w'.savesDue id = w.savesDue id) (hfail : t.status = .failure → paid ≤ 1 ∧
      (t.quota ≠ 0 → t.isLegacy = false → paid = 1)) (hother : t.status ≠ .failure → paid = 0) :
    Sound w' := by
  have htkts : w.KeepsTickets w' := by
    intro id x hx
    rw [ticketOf, task?, htasks]
    exact keepsTickets_saveTask htkt id x hx
  refine h.run htake hok hw' htkts ?_ (fun c hc => ?_) (fun e he => .inl (hledger ▸ he))
    (fun id => ?_)
  · rw [htasks]
    exact h.ids_saveTask t
  · exact (hcops c hc).imp id fun hnew hc => htkts _ _ (hnew hc)
  rw [task?, htasks]
  refine h.balanced_saveTask hrow (fun id hid => ?_) ?_ id
  · rw [(hdue id).1, if_neg hid]
    exact ⟨rfl, (hdue id).2⟩
  · rw [(hdue t.id).1, if_pos rfl, (hdue t.id).2]
    exact balanced_of_won (h.balance_open hrow hopen) hfail hother

theorem Sound.run_sweepTask (h : Sound w)
    (htake : takeJob k w.jobs = some ((i, .sweepTask t), rest)) :
    Sound (runJob settings i env { w with jobs := rest } (.sweepTask t)) := by
  have hdue := due_takeJob_of_none htake rfl rfl
  obtain ⟨hopen, htkt⟩ : JobOk w (.sweepTask t) := h.jobs _ (mem_of_takeJob htake)
  generalize hw' : runJob settings i env { w with jobs := rest } (.sweepTask t) = w'
  have hw := hw'
  simp only [runJob, sweepTask] at hw
  split at hw
  · subst hw
    exact h.run_quiet htake rfl hw' rfl (fun c hc => .inl hc) rfl hdue
  rcases updateWithStatus_cases { w with jobs := rest } (timedOut settings env.now t)
    t.status with hlost | ⟨hrow, hwon⟩
  · rw [hlost] at hw
    subst hw
    exact h.run_quiet htake rfl hw' rfl (fun c hc => .inl hc) rfl hdue
  rw [hwon] at hw
  simp only at hw
  have hrow' : w.statusOf (timedOut settings env.now t).id = some t.status := hrow
  -- the refund is due if the task is billed and not of the old system
  split at hw <;> subst hw
  · refine h.run_won htake rfl hw' hrow' hopen htkt rfl (fun c hc => .inl hc) rfl 1
      (fun id => ⟨?_, ?_⟩) (fun _ => ⟨le_refl 1, fun _ _ => rfl⟩) (absurd rfl)
    · rw [refundsDue_addJobs, ← (hdue id).1]
      simp [Job.refunds, refundsDue, saveTask, refunds, pending, countP_singleton]
    · rw [savesDue_addJobs, ← (hdue id).2]
      rfl
  rename_i hskip
  refine h.run_won htake rfl hw' hrow' hopen htkt rfl (fun c hc => .inl hc) rfl 0
    (fun id => ⟨?_, (hdue id).2⟩) (fun _ => ⟨Nat.zero_le 1, fun hquo hleg => ?_⟩)
    (absurd rfl)
  · rw [ite_self, Nat.add_zero]
    exact (hdue id).1
  have hquo' : t.quota ≠ 0 := hquo
  have hleg' : t.isLegacy = false := hleg
  simp [hquo', hleg'] at hskip

theorem mem_setCopy (h : c ∈ (w.setCopy i platform upstreamID t).memory) :
    c ∈ w.memory ∨ c.task = t := by
  rcases mem_saveRow.mp h with ⟨hold, _⟩ | ⟨rfl, _⟩
  · exact .inl hold
  · exact .inr rfl

theorem Sound.run_videoTask (h : Sound w)
    (htake : takeJob k w.jobs = some ((i, .videoTask platform taskId), rest))
    (hok : refundOk w i env (.videoTask platform taskId)) :
    Sound (runJob settings i env { w with jobs := rest } (.videoTask platform taskId)) := by
  have hdue := due_takeJob_of_none htake rfl rfl
  have hopen : ∀ t, w.copy? i platform taskId = some t → t.status.finished = false := by
    intro t hcopy
    simpa [refundOk, hcopy] using hok
  have hcs := videoTask_cases (w := { w with jobs := rest }) settings i env hopen
  generalize hw' : runJob settings i env { w with jobs := rest } (.videoTask platform taskId) = w'
  simp only [show videoTask settings i env { w with jobs := rest } platform taskId = w'
    from hw'] at hcs
  rcases hcs with rfl | ⟨t, u, hcopy, hid, htkt, hcs⟩
  · exact h.run_quiet htake hok hw' rfl (fun c hc => .inl hc) rfl hdue
  have htkt' : w.ticketOf u.task.id = some u.task.ticket := by
    rw [hid, htkt]
    exact h.ticketOf_copy hcopy (hopen t hcopy)
  have hcops : ∀ c ∈ (setCopy { w with jobs := rest } i platform taskId u.task).memory,
      c ∈ w.memory ∨ (c.task.status.finished = false →
        w.ticketOf c.task.id = some c.task.ticket) := by
    intro c hc
    rcases mem_setCopy hc with hold | heq
    · exact .inl hold
    · exact .inr fun _ => heq ▸ htkt'
  rcases hcs with rfl | ⟨hrow, rfl, hbill⟩
  · exact h.run_quiet htake hok hw' rfl hcops rfl hdue
  -- a failure is refunded if it is billed, a success is settled
  refine h.run_won htake hok hw' hrow (hopen t hcopy) htkt' rfl hcops rfl
    (if u.billing = .refund then 1 else 0) (fun id => ⟨?_, ?_⟩) (fun hfail => ?_) fun hother => ?_
  · rw [refundsDue_addJobs, ← (hdue id).1]
    cases u.billing <;> simp [billingJobs, Job.refunds, refundsDue, saveTask,
      setCopy, refunds, pending, countP_singleton]
  · rw [savesDue_addJobs, ← (hdue id).2]
    cases u.billing <;> rfl
  · rcases hbill with ⟨-, hbill⟩ | ⟨hsucc, -⟩ | ⟨hlive, -⟩
    · have hquo : u.task.quota = t.quota := congrArg Prod.fst htkt
      by_cases hzero : t.quota = 0
      · simp [hbill, hzero, hquo]
      · simp [hbill, hzero]
    · cases hsucc.symm.trans hfail
    · rw [hfail] at hlive
      cases hlive
  rcases hbill with ⟨hfail, -⟩ | ⟨-, info, hbill⟩ | ⟨-, hbill⟩
  · exact absurd hfail hother
  · rw [hbill]
    rfl
  · rw [hbill]
    rfl

theorem applySunoItem_spec (t : Task) (item : SunoDataResponse) :
    (applySunoItem t item).1.id = t.id ∧ (applySunoItem t item).1.ticket = t.ticket ∧
      ((applySunoItem t item).1.status = .failure → (applySunoItem t item).2) ∧
      ((applySunoItem t item).2 → item.failReason = "" ∨ item.status = "FAILURE" →
        (applySunoItem t item).1.status = .failure) := by
  refine ⟨rfl, rfl, fun h => ?_, fun h hwhy => ?_⟩
  · simp only [applySunoItem] at h ⊢
    simp [h]
  rcases hwhy with hwhy | hstat
  · simpa [applySunoItem, hwhy] using h
  · simp [applySunoItem, hstat, TaskStatus.ofString]

theorem Balanced.add {row refunds saves} (h : Balanced row refunds saves)
    (n : ℕ) : Balanced row (refunds + n) (saves + n) := by
  cases row with
  | none => exact congrArg (· + n) h
  | some r =>
  simp only [Balanced] at h ⊢
  split
  · rename_i hfail
    rw [if_pos hfail] at h
    refine ⟨by omega, by omega, fun hquo hleg => ?_⟩
    have := h.2.2 hquo hleg
    omega
  · rename_i hfail
    rw [if_neg hfail] at h
    omega

theorem refundTaskQuota_funding {env e} (h : e ∈ refundTaskQuota env t) :
    e.task = t.id ∧ e.funding = some (fundingSource t, -t.quota) := by
  simp only [refundTaskQuota, adjust, mem_def] at h
  split at h
  · cases h
  split at h
  · cases h
  · cases h
    exact ⟨rfl, rfl⟩

theorem countP_refund {env} (hfund : env.fundingError = false) (t : Task) (id : Int) :
    ((refundTaskQuota env t).toList.countP fun e => e.task = id && e.kind = .refund) =
      if t.id = id ∧ t.quota ≠ 0 then 1 else 0 := by
  by_cases hquo : t.quota = 0
  · simp [refundTaskQuota, hquo]
  · by_cases hid : t.id = id <;>
      simp [refundTaskQuota, adjust, hfund, hquo, hid]

theorem countP_sunoRefund {env failed} (id : Int)
    (hfund : env.fundingError = false) (hfail : failed = true ↔ t.status = .failure) :
    ((if failed then refundTaskQuota env t else none).toList.countP
      fun e => e.task = id && e.kind = .refund) =
      if t.id = id ∧ t.status = .failure ∧ t.quota ≠ 0 then 1 else 0 := by
  by_cases hstat : t.status = .failure
  · rw [if_pos (hfail.mpr hstat), countP_refund hfund]
    simp [hstat]
  · rw [if_neg fun h => hstat (hfail.mp h)]
    simp [hstat]

theorem countP_save (t : Task) (id : Int) :
    ([Job.save t].countP fun job => job.savesFailure = some id) =
      if t.id = id ∧ t.status = .failure ∧ t.quota ≠ 0 then 1 else 0 := by
  by_cases hstat : t.status = .failure ∧ t.quota ≠ 0
  · simp [Job.savesFailure, hstat, countP_singleton]
  · rw [if_neg fun h => hstat h.2]
    simp [Job.savesFailure, hstat]

variable (h : Sound w)
include h

/-- The refund of an item comes with a save of FAILURE that is due. -/
theorem Sound.run_sunoItem {item} (htake : takeJob k w.jobs = some ((i, .sunoItem item), rest))
    (hok : refundOk w i env (.sunoItem item)) :
    Sound (runJob settings i env { w with jobs := rest } (.sunoItem item)) := by
  have hdue := due_takeJob_of_none htake rfl rfl
  generalize hw' : runJob settings i env { w with jobs := rest } (.sunoItem item) = w'
  have hw := hw'
  simp only [runJob, sunoItem] at hw
  cases hcopy : w.copy? i .suno item.taskID with
  | none => simp [refundOk, hcopy] at hok
  | some t =>
  have hconds := hok
  simp only [refundOk, hcopy, Bool.and_eq_true, Bool.not_eq_true', Bool.or_eq_true,
    decide_eq_true_eq] at hconds
  obtain ⟨⟨hopen, hfund⟩, hwhy⟩ := hconds
  rw [show copy? { w with jobs := rest } i .suno item.taskID = some t from hcopy] at hw
  simp only at hw
  split at hw
  · subst hw
    exact h.run_quiet htake hok hw' rfl (fun c hc => .inl hc) rfl hdue
  obtain ⟨hid, htkt, hfail, hstat⟩ := applySunoItem_spec t item
  generalize applySunoItem t item = applied at hw hid htkt hfail hstat
  obtain ⟨t', failed⟩ := applied
  simp only at hw hid htkt hfail hstat
  have htkt' : w.ticketOf t'.id = some t'.ticket := by
    rw [hid, htkt]
    exact h.ticketOf_copy hcopy hopen
  -- a failure is both refunded and to be saved, any other item is neither
  have hboth : failed ↔ t'.status = .failure :=
    ⟨fun hf => hstat hf hwhy, hfail⟩
  subst hw
  refine h.run htake hok hw' (keepsTickets_of_tasks rfl) h.ids (fun c hc => ?_)
    (fun e he => ?_) (fun id => ?_)
  · rcases mem_setCopy hc with hold | heq
    · exact .inl hold
    · exact .inr fun _ => heq ▸ htkt'
  · rcases mem_append.mp he with hold | hnew
    · exact .inl hold
    refine .inr fun _ => ⟨t'.quota, fundingSource t', ?_⟩
    split at hnew
    · obtain ⟨htask, hpaid⟩ := refundTaskQuota_funding (mem_toList.mp hnew)
      exact ⟨htask ▸ htkt', hpaid⟩
    · cases hnew
  have hbal := (h.balance id).add (if t'.id = id ∧ t'.status = .failure ∧ t'.quota ≠ 0
    then 1 else 0)
  rw [← (hdue id).1, ← (hdue id).2] at hbal
  have hrfs := countP_sunoRefund id hfund hboth
  have hnone : ([Job.save t'].countP fun job => job.refunds = some id) = 0 := rfl
  rw [refundsDue_addJobs, savesDue_addJobs, countP_save, hnone]
  simp only [refundsDue, refunds, pending, setCopy, countP_append, hrfs, Nat.add_zero] at hbal ⊢
  rw [Nat.add_right_comm]
  exact hbal

theorem Sound.run_save (htake : takeJob k w.jobs = some ((i, .save t), rest))
    (hok : refundOk w i env (.save t)) :
    Sound (runJob settings i env { w with jobs := rest } (.save t)) := by
  have htkt : w.ticketOf t.id = some t.ticket := h.jobs _ (mem_of_takeJob htake)
  have hrfs : ∀ id, { w with jobs := rest }.refundsDue id = w.refundsDue id :=
    fun id => (refundsDue_takeJob htake id).symm
  have hsaves := savesDue_takeJob htake
  generalize hw' : runJob settings i env { w with jobs := rest } (.save t) = w'
  have hw := hw'
  simp only [runJob, save] at hw
  cases hdb : env.dbError with
  | true =>
    simp only [hdb, if_true] at hw
    subst hw
    have hstat : t.status ≠ .failure := by simpa [refundOk, hdb] using hok
    refine h.run_quiet htake hok hw' rfl (fun c hc => .inl hc) rfl fun id =>
      ⟨hrfs id, ?_⟩
    have hnone : (Job.save t).savesFailure = none := if_neg fun hf => hstat hf.1
    rw [hsaves id, hnone]
    rfl
  | false =>
    simp only [hdb, Bool.false_eq_true, if_false] at hw
    subst hw
    obtain ⟨r, hr, _⟩ := map_eq_some_iff.mp htkt
    have hrow : w.statusOf t.id = some r.status := congrArg _ hr
    have hopen : r.status.finished = false := by simpa [refundOk, hdb, hrow] using hok
    have hzero := h.balance_open hrow hopen
    have hcnt : ∀ id, w.savesDue id = { w with jobs := rest }.savesDue id +
        if t.id = id ∧ t.status = .failure ∧ t.quota ≠ 0 then 1 else 0 := by
      intro id
      rw [hsaves id, ← countP_save, countP_singleton]
      simp only [decide_eq_true_eq]
    refine h.run htake hok hw' (keepsTickets_saveTask htkt) (h.ids_saveTask t)
      (fun c hc => .inl hc) (fun e he => .inl he) (fun id => ?_)
    refine h.balanced_saveTask hrow (fun id hid => ⟨hrfs id, ?_⟩) ?_ id
    · rw [hcnt id, if_neg fun hsave => hid hsave.1]
      rfl
    rw [hrfs t.id, hzero, hcnt t.id]
    refine balanced_of_won rfl (fun hfail => ⟨?_, fun hquo _ => ?_⟩) fun hne => ?_
    · split <;> omega
    · rw [if_pos ⟨rfl, hfail, hquo⟩]
    · rw [if_neg fun hsave => hne hsave.2.1]

theorem Sound.run_refund (htake : takeJob k w.jobs = some ((i, .refund t), rest))
    (hok : refundOk w i env (.refund t)) :
    Sound (runJob settings i env { w with jobs := rest } (.refund t)) := by
  obtain ⟨htkt, hquo⟩ : JobOk w (.refund t) := h.jobs _ (mem_of_takeJob htake)
  have hfund : env.billing.fundingError = false := by simpa [refundOk] using hok
  refine h.run htake hok rfl (keepsTickets_of_tasks rfl) h.ids (fun c hc => .inl hc)
    (fun e he => ?_) (fun id => ?_)
  · rcases mem_append.mp he with hold | hnew
    · exact .inl hold
    · obtain ⟨htask, hpaid⟩ := refundTaskQuota_funding (mem_toList.mp hnew)
      exact .inr fun _ => ⟨t.quota, fundingSource t, htask ▸ htkt, hpaid⟩
  -- a refund that was due is made
  have hbal := h.balance id
  rw [refundsDue_takeJob htake id, savesDue_takeJob htake id] at hbal
  have hcnt := countP_refund hfund t id
  simp only [runJob, refund, refundsDue, refunds, pending,
    countP_append, hcnt, Job.refunds, Job.savesFailure, some.injEq, hquo, ne_eq,
    not_false_eq_true, and_true] at hbal ⊢
  rw [Nat.add_right_comm]
  exact hbal

theorem Sound.run_settle
    (htake : takeJob k w.jobs = some ((i, .settle platform taskId t info), rest)) :
    Sound (runJob settings i env { w with jobs := rest } (.settle platform taskId t info)) := by
  have hdue := due_takeJob_of_none htake rfl rfl
  have hdone : t.status.finished := h.jobs _ (mem_of_takeJob htake)
  have hkind : ((settleTaskBilling settings.ratios env.billing env.adjusted t info).1.getD
      ⟨t.id, .settle, none, none⟩).kind = .settle := by
    cases hentry : (settleTaskBilling settings.ratios env.billing env.adjusted t info).1 with
    | none => rfl
    | some e => exact (settleTaskBilling_task e hentry).2
  refine h.run htake rfl rfl (keepsTickets_of_tasks rfl) h.ids (fun c hc => ?_)
    (fun e he => ?_) (fun id => ?_)
  · rcases mem_setCopy hc with hold | heq
    · exact .inl hold
    refine .inr fun hopen => ?_
    rw [heq, show ({ t with quota := _ } : Task).status = t.status from rfl, hdone] at hopen
    cases hopen
  · rcases mem_append.mp he with hold | hnew
    · exact .inl hold
    have heq : e = (settleTaskBilling settings.ratios env.billing env.adjusted t info).1.getD
        ⟨t.id, .settle, none, none⟩ := mem_singleton.mp hnew
    refine .inr fun hrf => ?_
    rw [heq, hkind] at hrf
    cases hrf
  have hbal := h.balance id
  rw [← (hdue id).1, ← (hdue id).2] at hbal
  simp only [runJob, settle, setCopy, refundsDue, refunds,
    pending, countP_append, countP_singleton, hkind, reduceCtorEq,
    decide_false, Bool.and_false, Bool.false_eq_true, if_false, Nat.add_zero] at hbal ⊢
  exact hbal

theorem Sound.run_poll (htake : takeJob k w.jobs = some ((i, .poll), rest)) :
    Sound (runJob settings i env { w with jobs := rest } .poll) := by
  have hdue := due_takeJob_of_none htake rfl rfl
  refine h.run_quiet htake rfl rfl rfl (fun c hc => ?_) rfl fun id => ?_
  · rcases mem_append.mp hc with hnew | hold
    · -- a copy that was just read
      obtain ⟨t, ht, rfl⟩ := mem_map.mp hnew
      have hmem := (mem_filter.mp (mem_reverse.mp ht)).1
      split at hmem
      · cases hmem
      refine .inr fun _ => ?_
      have ht' : t ∈ w.tasks := (mem_filter.mp (mem_of_mem_take hmem)).1
      simp only [ticketOf, h.task?_of_mem ht', map_some]
    · exact .inl (mem_filter.mp hold).1
  · constructor
    · exact (due_addJobs_of_none (fun job hjob => (pollJobs_ok w hjob).2) id).1.trans (hdue id).1
    · exact (due_addJobs_of_none (fun job hjob => (pollJobs_ok w hjob).2) id).2.trans (hdue id).2

/-- A job that only adds jobs which neither refund nor save a failure. -/
theorem Sound.run_addJobs (htake : takeJob k w.jobs = some ((i, job), rest))
    (hok : refundOk w i env job) (hrfs : job.refunds = none)
    (hsaves : job.savesFailure = none) {jobs}
    (hw' : runJob settings i env { w with jobs := rest } job =
      addJobs { w with jobs := rest } i jobs)
    (hjobs : ∀ job ∈ jobs, job.refunds = none ∧ job.savesFailure = none) :
    Sound (addJobs { w with jobs := rest } i jobs) := by
  refine h.run_quiet htake hok hw' rfl (fun c hc => .inl hc) rfl fun id => ?_
  have hdue := due_takeJob_of_none htake hrfs hsaves id
  exact ⟨(due_addJobs_of_none hjobs id).1.trans hdue.1,
    (due_addJobs_of_none hjobs id).2.trans hdue.2⟩

theorem Sound.run_nothing (htake : takeJob k w.jobs = some ((i, job), rest))
    (hok : refundOk w i env job) (hrfs : job.refunds = none)
    (hsaves : job.savesFailure = none)
    (hw' : runJob settings i env { w with jobs := rest } job = { w with jobs := rest }) :
    Sound { w with jobs := rest } :=
  h.run_quiet htake hok hw' rfl (fun _ hc => .inl hc) rfl (due_takeJob_of_none htake hrfs hsaves)

theorem Sound.run_sweep (htake : takeJob k w.jobs = some ((i, .sweep), rest)) :
    Sound (runJob settings i env { w with jobs := rest } .sweep) := by
  generalize hw' : runJob settings i env { w with jobs := rest } .sweep = w'
  have hw := hw'
  simp only [runJob, sweep] at hw
  split at hw <;> subst hw
  · exact h.run_nothing htake rfl rfl rfl hw'
  refine h.run_addJobs htake rfl rfl rfl hw' fun job hjob => ?_
  obtain ⟨t, _, rfl⟩ := mem_map.mp hjob
  exact ⟨rfl, rfl⟩

theorem Sound.run_suno {taskIds channelId}
    (htake : takeJob k w.jobs = some ((i, .suno channelId taskIds), rest))
    (hok : refundOk w i env (.suno channelId taskIds)) :
    Sound (runJob settings i env { w with jobs := rest } (.suno channelId taskIds)) := by
  have hchan : env.channel := hok
  generalize hw' : runJob settings i env { w with jobs := rest } (.suno channelId taskIds) = w'
  have hw := hw'
  simp only [runJob, suno, hchan, Bool.not_true, Bool.false_eq_true, if_false] at hw
  split at hw
  · subst hw
    exact h.run_nothing htake hok rfl rfl hw'
  split at hw
  · subst hw
    exact h.run_nothing htake hok rfl rfl hw'
  split at hw <;> subst hw
  · exact h.run_nothing htake hok rfl rfl hw'
  refine h.run_addJobs htake hok rfl rfl hw' fun job hjob => ?_
  obtain ⟨item, _, rfl⟩ := mem_map.mp hjob
  exact ⟨rfl, rfl⟩

theorem Sound.run_video {taskIds channelId}
    (htake : takeJob k w.jobs = some ((i, .video platform channelId taskIds), rest))
    (hok : refundOk w i env (.video platform channelId taskIds)) :
    Sound (runJob settings i env { w with jobs := rest } (.video platform channelId taskIds)) := by
  have hchan : env.channel := hok
  generalize hw' : runJob settings i env { w with jobs := rest }
    (.video platform channelId taskIds) = w'
  have hw := hw'
  simp only [runJob, video, hchan, Bool.not_true, Bool.false_eq_true, if_false] at hw
  split at hw
  · subst hw
    exact h.run_nothing htake hok rfl rfl hw'
  split at hw <;> subst hw
  · exact h.run_nothing htake hok rfl rfl hw'
  refine h.run_addJobs htake hok rfl rfl hw' fun job hjob => ?_
  obtain ⟨taskId, _, rfl⟩ := mem_map.mp hjob
  exact ⟨rfl, rfl⟩

theorem Sound.run_failNull {ids} (htake : takeJob k w.jobs = some ((i, .failNull ids), rest))
    (hok : refundOk w i env (.failNull ids)) :
    Sound (runJob settings i env { w with jobs := rest } (.failNull ids)) := by
  have hdb : env.dbError := hok
  have hw' : runJob settings i env { w with jobs := rest } (.failNull ids) =
      { w with jobs := rest } := if_pos hdb
  rw [hw']
  exact h.run_nothing htake hok rfl rfl hw'

theorem Sound.submit (t : Task) : Sound (w.submit t) := by
  simp only [World.submit]
  split
  · exact h
  rename_i hopen
  generalize hnew : ({ t with id := w.tasks.length + 1 } : Task) = new
  have hstat : new.status ≠ .failure := by
    intro heq
    rw [← hnew] at heq
    rw [heq] at hopen
    exact hopen rfl
  have htask? : ∀ id, task? { w with tasks := w.tasks ++ [new] } id =
      (w.task? id).or (if new.id = id then some new else none) :=
    find?_append_row w.tasks new
  refine h.of (fun id x hx => ?_) ?_ (fun p hp => .inl hp) (fun c hc => .inl hc)
    (fun e he => .inl he) (fun id => ?_)
  · obtain ⟨r, hr, htkt⟩ := map_eq_some_iff.mp hx
    rw [ticketOf, htask?, hr]
    exact congrArg some htkt
  · simp only [map_append, h.ids, length_append, length_singleton, range_succ,
      map_cons, map_nil, ← hnew]
  -- the new row is not a failure, so its balance is that of no row
  have hbal := h.balance id
  rw [htask?]
  cases hrow : w.task? id with rw [hrow] at hbal
  | some =>
    exact hbal
  | none =>
    have hzero : w.refundsDue id = w.savesDue id := hbal
    rw [none_or]
    split
    · exact (if_neg hstat).mpr hzero
    · exact hzero

theorem Sound.step {act} (hok : RefundStep w act) : Sound (w.step settings act) := by
  cases act with
  | submit t => exact h.submit t
  | «begin» i =>
    have hnone : ∀ job ∈ [Job.sweep, Job.poll], job.refunds = none ∧ job.savesFailure = none := by
      simp [Job.refunds, Job.savesFailure]
    refine h.of (keepsTickets_of_tasks rfl) h.ids (fun p hp => ?_) (fun c hc => .inl hc)
      (fun e he => .inl he) (fun id => ?_)
    · rcases mem_addJobs.mp hp with hold | ⟨_, hnew⟩
      · exact .inl hold
      · refine .inr ?_
        rcases mem_pair.mp hnew with heq | heq <;> rw [heq] <;> trivial
    · simp only [World.step, due_addJobs_of_none hnone id]
      exact h.balance id
  | run k env =>
    simp only [World.step]
    cases htake : takeJob k w.jobs with
    | none => exact h
    | some taken =>
    obtain ⟨⟨i, job⟩, rest⟩ := taken
    have hjob : refundOk w i env job := hok _ htake
    cases job with
    | sweep => exact h.run_sweep htake
    | sweepTask => exact h.run_sweepTask htake
    | poll => exact h.run_poll htake
    | failNull => exact h.run_failNull htake hjob
    | suno => exact h.run_suno htake hjob
    | sunoItem => exact h.run_sunoItem htake hjob
    | save => exact h.run_save htake hjob
    | video => exact h.run_video htake hjob
    | videoTask => exact h.run_videoTask htake hjob
    | refund => exact h.run_refund htake hjob
    | settle => exact h.run_settle htake

end

theorem sound_start : Sound {} where
  ids := rfl
  jobs := fun _ hp => absurd hp not_mem_nil
  copies := fun _ hc => absurd hc not_mem_nil
  entries := fun _ he => absurd he not_mem_nil
  balance := fun _ => rfl

/-- No refund of the task, and no save of it as FAILURE, is under way. -/
def Idle (w : World) (id : Int) : Prop :=
  w.pending Job.refunds id = 0 ∧ w.pending Job.savesFailure id = 0

instance (id : Int) : Decidable (Idle w id) := inferInstanceAs (Decidable (_ ∧ _))

/-- **Failed tasks are refunded once.** In every run of pollers and sweepers
whose jobs meet `refundOk`, once nothing is under way for a task: a billed task
that is FAILURE and not of the old system was refunded exactly once, a task
that is not FAILURE was not refunded, no task was refunded twice, and a refund
was the quota of the task, paid to its source of funding. -/
theorem failedTask_refunded (settings : Settings) (acts : List Act)
    (h : Along (World.step settings) RefundStep {} acts) (id : Int) (t : Task)
    (hrow : (exec (World.step settings) {} acts).task? id = some t)
    (hidle : Idle (exec (World.step settings) {} acts) id) :
    (t.status = .failure → t.quota ≠ 0 → t.isLegacy = false →
      (exec (World.step settings) {} acts).refunds id = 1) ∧
    (t.status ≠ .failure → (exec (World.step settings) {} acts).refunds id = 0) ∧
    (exec (World.step settings) {} acts).refunds id ≤ 1 ∧
    ∀ e ∈ (exec (World.step settings) {} acts).ledger, e.task = id → e.kind = .refund →
      e.funding = some (fundingSource t, -t.quota) := by
  have hsound : Sound (exec (step settings) {} acts) :=
    Along.invariant Sound (fun _ _ hw hok => hw.step hok) sound_start h
  generalize exec (step settings) {} acts = w at hrow hidle hsound
  have hbalance := hsound.balance id
  rw [hrow, refundsDue, savesDue, hidle.1, hidle.2, Nat.add_zero] at hbalance
  simp only [Balanced] at hbalance
  have hpaid : ∀ e ∈ w.ledger, e.task = id → e.kind = .refund →
      e.funding = some (fundingSource t, -t.quota) := by
    intro e he htask hkind
    obtain ⟨quota, source, hticket, hfunding⟩ := hsound.entries e he hkind
    rw [htask, ticketOf, hrow] at hticket
    cases hticket
    exact hfunding
  split at hbalance
  · rename_i hfailure
    exact ⟨fun _ hquota hlegacy => hbalance.2.2 hquota hlegacy, fun hne => absurd hfailure hne,
      hbalance.2.1, hpaid⟩
  · rename_i hne
    exact ⟨fun hfailure => absurd hfailure hne, fun _ => hbalance, hbalance ▸ Nat.zero_le 1, hpaid⟩

/-- A Suno task that was paid for with 500 quota. -/
def sampleSong : Task := { sampleTask "task_s" "s1" with platform := .suno }

def sunoAnswer (status failReason : String) : Env where
  suno := .ok [{ taskID := "s1", status, failReason }]

/-- A song and a video, both of which fail upstream. -/
def sampleFailures : List Act :=
  [.submit sampleSong, .submit (sampleTask "task_a" "u1"), .begin 0,
    .run 0 { now := 1800000100 }, .run 0 {},
    .run 0 (sunoAnswer "FAILURE" "no capacity"), .run 1 {}, .run 0 {},
    .run 0 {}, .run 0 failedAnswer, .run 0 {}]

theorem failedTask_refunded_sample :
    (exec (World.step sampleSettings) {} sampleFailures).refunds 1 = 1 ∧
      (exec (World.step sampleSettings) {} sampleFailures).refunds 2 = 1 := by
  refine ⟨?_, ?_⟩
  · obtain ⟨t, hrow, hfailed⟩ : ∃ t, (exec (step sampleSettings) {} sampleFailures).task? 1 =
        some t ∧ (t.status = .failure ∧ t.quota ≠ 0 ∧ t.isLegacy = false) := by
      exact ⟨_, rfl, by decide +kernel⟩
    exact (failedTask_refunded sampleSettings sampleFailures (by decide +kernel) 1 t hrow
      (by decide +kernel)).1 hfailed.1 hfailed.2.1 hfailed.2.2
  obtain ⟨t, hrow, hfailed⟩ : ∃ t, (exec (step sampleSettings) {} sampleFailures).task? 2 =
      some t ∧ (t.status = .failure ∧ t.quota ≠ 0 ∧ t.isLegacy = false) := by
    exact ⟨_, rfl, by decide +kernel⟩
  exact (failedTask_refunded sampleSettings sampleFailures (by decide +kernel) 2 t hrow
    (by decide +kernel)).1 hfailed.1 hfailed.2.1 hfailed.2.2

/-- **Failures without a refund, refunds without a failure.** A billed video
whose channel is gone ends as FAILURE and is not refunded. A song whose answer
has a fail reason and IN_PROGRESS is refunded and stays IN_PROGRESS. A song
whose refund is followed by a failed save is refunded and stays open. -/
theorem failures_and_refunds_differ :
    (let w := exec (step sampleSettings) {}
      [.submit (sampleTask "task_a" "u1"), .begin 0, .run 0 { now := 1800000100 }, .run 0 {},
        .run 0 { channel := false }]
    w.statusOf 1 = some .failure ∧ w.refunds 1 = 0 ∧ w.jobs.length = 0) ∧
    (let w := exec (step sampleSettings) {}
      [.submit sampleSong, .begin 0, .run 0 { now := 1800000100 }, .run 0 {},
        .run 0 (sunoAnswer "IN_PROGRESS" "slow"), .run 0 {}, .run 0 {}]
    w.statusOf 1 = some .inProgress ∧ w.refunds 1 = 1 ∧ w.jobs.length = 0) ∧
    (let w := exec (step sampleSettings) {}
      [.submit sampleSong, .begin 0, .run 0 { now := 1800000100 }, .run 0 {},
        .run 0 (sunoAnswer "FAILURE" "no capacity"), .run 0 {}, .run 0 { dbError := true }]
    w.statusOf 1 = some .notStart ∧ w.refunds 1 = 1 ∧ w.jobs.length = 0) := by
  decide +kernel

end HermesToken.Tasks
