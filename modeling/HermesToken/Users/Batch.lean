import HermesToken.Lib.Counters
import HermesToken.Lib.Run

/-!
# The batch updater

`addNewRecord` and `batchUpdate` of `model/utils.go`. Deltas are collected in
one map for each kind of counter. A run of `batchUpdate` takes the maps out, one
after the other under their locks, and writes their entries with one UPDATE
each. Deltas can be added, and other runs can start, at any time in between.

An UPDATE that fails is only logged, and its delta is in no map any more. As
long as none fails, a column and what is pending for it, in the maps or taken
out by a run, add up to the first value of the column and all deltas.
-/

namespace HermesToken.Users

open Lib List Function

/-! ## The maps -/

inductive BatchUpdateType where
  | userQuota | tokenQuota | usedQuota | channelUsedQuota | requestCount
  deriving DecidableEq

namespace BatchUpdateType

def all : List BatchUpdateType :=
  [.userQuota, .tokenQuota, .usedQuota, .channelUsedQuota, .requestCount]

def index : BatchUpdateType → Nat
  | .userQuota => 0
  | .tokenQuota => 1
  | .usedQuota => 2
  | .channelUsedQuota => 3
  | .requestCount => 4

theorem index_of_get {t : BatchUpdateType} (h : all[i]? = some t) : t.index = i := by
  match i, h with
  | 0, h | 1, h | 2, h | 3, h | 4, h => cases h; rfl

theorem index_lt_of_get (h : all[i]? = none) (t : BatchUpdateType) : t.index < i := by
  have hlen : 5 ≤ i := by simpa [all] using h
  cases t <;> simp only [index] <;> omega

theorem index_inj {t t' : BatchUpdateType} (h : t.index = t'.index) : t = t' := by
  cases t <;> cases t' <;> first | rfl | cases h

end BatchUpdateType

abbrev Stores := BatchUpdateType → Counters Int

/-! ## The columns -/

structure UserCounters where
  (quota usedQuota requestCount : Int)

structure TokenCounters where
  (remainQuota usedQuota : Int)

/-- The rows by their ids. -/
structure Database where
  users : Int → Option UserCounters
  tokens : Int → Option TokenCounters
  channelUsedQuota : Int → Option Int

def updateRow {R : Type} (rows : Int → Option R) (id : Int) (f : R → R) (k : Int) : Option R :=
  if k = id then (rows k).map f else rows k

def increaseTokenQuota (id quota : Int) (db : Database) : Database := { db with
  tokens := updateRow db.tokens id fun token =>
    { remainQuota := token.remainQuota + quota, usedQuota := token.usedQuota - quota } }

def updateChannelUsedQuota (id quota : Int) (db : Database) : Database :=
  { db with channelUsedQuota := updateRow db.channelUsedQuota id (· + quota) }

def updateUserQuotaUsedQuotaAndRequestCount (id quota usedQuota requestCount : Int)
    (db : Database) : Database :=
  if quota = 0 ∧ usedQuota = 0 ∧ requestCount = 0 then db
  else
    { db with
      users := updateRow db.users id fun user =>
        { quota := user.quota + quota
          usedQuota := user.usedQuota + usedQuota
          requestCount := user.requestCount + requestCount } }

/-! ## A run of `batchUpdate` -/

/-- A call that is still to be made. -/
inductive Job where
  | token (id quota : Int)
  | channel (id quota : Int)
  | user (id quota usedQuota requestCount : Int)

def Job.exec : Job → Database → Database
  | .token id quota => increaseTokenQuota id quota
  | .channel id quota => updateChannelUsedQuota id quota
  | .user id quota usedQuota requestCount =>
    updateUserQuotaUsedQuotaAndRequestCount id quota usedQuota requestCount

/-- The users with an entry in one of the three maps. -/
def userIDs (stores : Stores) : List Int :=
  ((stores .userQuota).keys ++ (stores .usedQuota).keys ++ (stores .requestCount).keys).dedup

/-- The loops over the maps that were taken out. The order within a loop is that
of the iteration over a Go map, which can be any. -/
def jobs (stores : Stores) : List (List Job) :=
  [(stores .tokenQuota).entries.map fun e => .token e.1 e.2,
    (stores .channelUsedQuota).entries.map fun e => .channel e.1 e.2,
    (userIDs stores).map fun id => .user id ((stores .userQuota).value id)
      ((stores .usedQuota).value id) ((stores .requestCount).value id)]

inductive Phase where
  /-- The maps before `i` had no data. -/
  | checking (i : Nat)
  /-- The maps before `i` have been taken out. -/
  | swapping (i : Nat) (stores : Stores)
  | flushing (loops : List (List Job))
  | finished

/-- The maps, the database, the runs of `batchUpdate`, and all that was added. -/
structure Batcher where
  db : Database
  stores : Stores := fun _ => {}
  runs : List Phase := []
  added : List (BatchUpdateType × Int × Int) := []

inductive BatchAct where
  | add (type : BatchUpdateType) (id value : Int)
  | start
  /-- The next step of the run `p`. In a loop it takes the entry `pick` next, and
  `ok` says whether the UPDATE succeeds. -/
  | step (p pick : Nat) (ok : Bool)

def addNewRecord (type : BatchUpdateType) (id value : Int) (stores : Stores) : Stores :=
  fun t => if t = type then (stores t).add id value else stores t

/-- One step of a run: the maps, the database and the run after it. -/
def Phase.step (pick : Nat) (ok : Bool) (stores : Stores) (db : Database) :
    Phase → Stores × Database × Phase
  | .checking i => match BatchUpdateType.all[i]? with
    | none => (stores, db, .finished)
    | some t =>
      (stores, db, if (stores t).entries = [] then .checking (i + 1) else .swapping 0 fun _ => {})
  | .swapping i taken => match BatchUpdateType.all[i]? with
    | none => (stores, db, .flushing (jobs taken))
    | some t => (fun u => if u = t then {} else stores u, db,
        .swapping (i + 1) fun u => if u = t then stores u else taken u)
  | .flushing [] => (stores, db, .finished)
  | .flushing ([] :: loops) => (stores, db, .flushing loops)
  | .flushing ((job :: left) :: loops) => match (job :: left)[pick]? with
    | none => (stores, db, .flushing ((job :: left) :: loops))
    | some next => (stores, if ok then next.exec db else db,
        .flushing ((job :: left).eraseIdx pick :: loops))
  | .finished => (stores, db, .finished)

def Batcher.step (s : Batcher) : BatchAct → Batcher
  | .add type id value =>
    { s with
      stores := addNewRecord type id value s.stores
      added := s.added ++ [(type, id, value)] }
  | .start => { s with runs := s.runs ++ [.checking 0] }
  | .step p pick ok => match s.runs[p]? with
    | none => s
    | some phase =>
      let (stores, db, phase) := phase.step pick ok s.stores s.db
      { s with stores, db, runs := s.runs.set p phase }

/-! ## Counters and what is pending for them -/

inductive BatchedColumn where
  | userQuota | userUsedQuota | userRequestCount | tokenRemainQuota | tokenUsedQuota
  | channelUsedQuota

namespace BatchedColumn

/-- The map with the deltas of the column. -/
def type : BatchedColumn → BatchUpdateType
  | .userQuota => .userQuota
  | .userUsedQuota => .usedQuota
  | .userRequestCount => .requestCount
  | .tokenRemainQuota => .tokenQuota
  | .tokenUsedQuota => .tokenQuota
  | .channelUsedQuota => .channelUsedQuota

/-- What a token gets back is taken off its used quota. -/
def sign : BatchedColumn → Int
  | .tokenUsedQuota => -1
  | _ => 1

def read (db : Database) (id : Int) : BatchedColumn → Option Int
  | .userQuota => (db.users id).map (·.quota)
  | .userUsedQuota => (db.users id).map (·.usedQuota)
  | .userRequestCount => (db.users id).map (·.requestCount)
  | .tokenRemainQuota => (db.tokens id).map (·.remainQuota)
  | .tokenUsedQuota => (db.tokens id).map (·.usedQuota)
  | .channelUsedQuota => db.channelUsedQuota id

end BatchedColumn

/-- What a call adds to the counter of an id. -/
def Job.amount (type : BatchUpdateType) (id : Int) : Job → Int
  | .token k quota => if type = .tokenQuota ∧ k = id then quota else 0
  | .channel k quota => if type = .channelUsedQuota ∧ k = id then quota else 0
  | .user k quota usedQuota requestCount =>
    if k = id then
      match type with
      | .userQuota => quota
      | .usedQuota => usedQuota
      | .requestCount => requestCount
      | _ => 0
    else 0

/-- What a run has taken out and not written yet. -/
def Phase.pending (type : BatchUpdateType) (id : Int) : Phase → Int
  | .swapping i stores => if type.index < i then (stores type).value id else 0
  | .flushing loops => (loops.flatten.map (Job.amount type id)).sum
  | _ => 0

def Batcher.pending (s : Batcher) (type : BatchUpdateType) (id : Int) : Int :=
  (s.stores type).value id + (s.runs.map (Phase.pending type id)).sum

def Batcher.total (s : Batcher) (type : BatchUpdateType) (id : Int) : Int :=
  keyedSum (fun e => (e.1, e.2.1)) (·.2.2) (type, id) s.added

/-! ## Steps -/

theorem map_updateRow {R : Type} (rows : Int → Option R) (k id : Int) {f column} {d : Int}
    (hf : ∀ r, column (f r) = column r + d) :
    (updateRow rows k f id).map column =
      ((rows id).map column).map (· + if k = id then d else 0) := by
  unfold updateRow
  by_cases hk : id = k
  · subst hk
    simp [comp_def, hf]
  · simp [hk, Ne.symm hk, comp_def]

open Job

/-- **A call** moves each column by what it is for. -/
theorem Job.read_exec (job : Job) (db : Database) (id : Int) (column : BatchedColumn) :
    column.read (job.exec db) id =
      (column.read db id).map (· + column.sign * job.amount column.type id) := by
  have hsame : ∀ x : Option Int, x = x.map (· + column.sign * 0) := by simp
  cases job with
  | token k =>
    cases column with
    | tokenRemainQuota =>
      refine (map_updateRow db.tokens k id fun _ => rfl).trans ?_
      simp [BatchedColumn.sign, BatchedColumn.type, amount, BatchedColumn.read]
    | tokenUsedQuota =>
      refine (map_updateRow db.tokens k id fun _ => Int.sub_eq_add_neg).trans ?_
      simp only [BatchedColumn.sign, BatchedColumn.type, amount, BatchedColumn.read, true_and]
      split <;> simp
    | _ => exact hsame _
  | channel k =>
    cases column with
    | channelUsedQuota =>
      simp only [Job.exec, updateChannelUsedQuota, BatchedColumn.read, updateRow,
        BatchedColumn.sign, BatchedColumn.type, amount, true_and, Int.one_mul]
      by_cases hk : id = k
      · simp [hk]
      · simp [hk, Ne.symm hk]
    | _ => exact hsame _
  | user k quota usedQuota requestCount =>
    simp only [Job.exec, updateUserQuotaUsedQuotaAndRequestCount]
    split
    · rename_i hzero
      obtain ⟨rfl, rfl, rfl⟩ := hzero
      cases column <;> simp [BatchedColumn.type, amount]
    cases column with
    | userQuota | userUsedQuota | userRequestCount =>
      refine (map_updateRow db.users k id fun _ => rfl).trans ?_
      simp [BatchedColumn.sign, BatchedColumn.type, amount, BatchedColumn.read]
    | _ => simp [BatchedColumn.type, amount, BatchedColumn.read, comp_def]

/-- **The calls** are for what was taken out. -/
theorem sum_amount_jobs (stores : Stores) (type : BatchUpdateType) (id : Int) :
    ((jobs stores).flatten.map (amount type id)).sum = (stores type).value id := by
  have hnodup : (userIDs stores).Nodup := nodup_dedup _
  simp only [jobs, flatten_cons, flatten_nil, append_nil, map_append, sum_append, map_map]
  cases type with
  | tokenQuota =>
    rw [← (stores .tokenQuota).keyedSum_entries id]
    simp [amount, comp_def, keyedSum]
  | channelUsedQuota =>
    rw [← (stores .channelUsedQuota).keyedSum_entries id]
    simp [amount, comp_def, keyedSum]
  | userQuota =>
    rw [← (stores .userQuota).keyedSum_value hnodup (by simp +contextual [userIDs]) id]
    simp [amount, comp_def, keyedSum]
  | usedQuota =>
    rw [← (stores .usedQuota).keyedSum_value hnodup (by simp +contextual [userIDs]) id]
    simp [amount, comp_def, keyedSum]
  | requestCount =>
    rw [← (stores .requestCount).keyedSum_value hnodup (by simp +contextual [userIDs]) id]
    simp [amount, comp_def, keyedSum]

/-- What a step of a run writes is no longer pending. -/
def Writes (before after : Stores × Database × Phase) : Prop :=
  ∃ written : BatchUpdateType → Int → Int,
    (∀ type id, (after.1 type).value id + after.2.2.pending type id + written type id =
      (before.1 type).value id + before.2.2.pending type id) ∧
    ∀ id (column : BatchedColumn), column.read after.2.1 id =
      (column.read before.2.1 id).map (· + column.sign * written column.type id)

theorem Writes.nothing (h : ∀ type id, (stores' type).value id + phase'.pending type id =
      (stores type).value id + phase.pending type id) :
    Writes (stores, db, phase) (stores', db, phase') :=
  ⟨fun _ _ => 0, by simpa using h, by simp⟩

theorem Phase.step_writes (pick : Nat) (stores : Stores) (db : Database) (phase : Phase) :
    Writes (stores, db, phase) (phase.step pick true stores db) := by
  cases phase with
  | checking =>
    simp only [Phase.step]
    split
    · exact .nothing fun _ _ => rfl
    refine .nothing fun type id => ?_
    split
    · rfl
    · simp [Phase.pending]
  | swapping i taken =>
    simp only [Phase.step]
    split
    · rename_i hlast
      refine .nothing fun type id => ?_
      have hlt := BatchUpdateType.index_lt_of_get hlast type
      simp only [Phase.pending, sum_amount_jobs, if_pos hlt]
    rename_i t ht
    have hidx := BatchUpdateType.index_of_get ht
    refine .nothing fun type id => ?_
    by_cases htype : type = t
    · subst htype
      simp [Phase.pending, hidx]
    have hne : type.index ≠ i := fun h =>
      htype (BatchUpdateType.index_inj (h.trans hidx.symm))
    have hlt : type.index < i + 1 ↔ type.index < i := by omega
    simp [Phase.pending, htype, hlt]
  | flushing loops =>
    rcases loops with _ | ⟨_ | ⟨job, left⟩, loops⟩
    · exact .nothing fun _ _ => rfl
    · exact .nothing fun _ _ => rfl
    simp only [Phase.step]
    split
    · exact .nothing fun _ _ => rfl
    rename_i next hnext
    refine ⟨fun type id => next.amount type id, fun type id => ?_, fun id column =>
      next.read_exec db id column⟩
    obtain ⟨hlt, hget⟩ := List.getElem?_eq_some_iff.mp hnext
    have hsum := ((getElem_cons_eraseIdx_perm hlt).map (amount type id)).sum_eq
    rw [hget, map_cons, sum_cons] at hsum
    simp only [Phase.pending, flatten_cons, map_append, sum_append]
    omega
  | finished => exact .nothing fun _ _ => rfl

/-! ## Every run -/

/-- Each column and what is pending for it are its first value and all deltas. -/
def Batcher.Balanced (db₀ : Database) (s : Batcher) : Prop :=
  ∀ id (column : BatchedColumn) v₀, column.read db₀ id = some v₀ →
    ∃ v, column.read s.db id = some v ∧
      v + column.sign * s.pending column.type id = v₀ + column.sign * s.total column.type id

/-- No UPDATE of the step fails. -/
def BatchAct.Succeeds : BatchAct → Prop
  | .step _ _ ok => ok = true
  | _ => True

instance : DecidablePred BatchAct.Succeeds
  | .add .. => isTrue trivial
  | .start => isTrue trivial
  | .step _ _ ok => inferInstanceAs (Decidable (ok = true))

theorem Batcher.Balanced.step {s : Batcher} (h : s.Balanced db₀)
    {act : BatchAct} (hact : act.Succeeds) : (s.step act).Balanced db₀ := by
  intro id column v₀ hv₀
  obtain ⟨v, hv, hbal⟩ := h id column v₀ hv₀
  cases act with
  | add type k value =>
    refine ⟨v, hv, ?_⟩
    have hpend : (s.step (.add type k value)).pending column.type id =
        s.pending column.type id + if (type, k) = (column.type, id) then value else 0 := by
      simp only [Batcher.step, Batcher.pending, addNewRecord]
      by_cases htype : column.type = type
      · simp only [htype, if_true, Counters.value_add, Prod.mk.injEq, true_and]
        omega
      · simp [htype, Ne.symm htype]
    have htot : (s.step (.add type k value)).total column.type id =
        s.total column.type id + if (type, k) = (column.type, id) then value else 0 := by
      simp [Batcher.step, Batcher.total]
    rw [hpend, htot, Int.mul_add, Int.mul_add]
    omega
  | start =>
    refine ⟨v, hv, ?_⟩
    have hpend : (s.step .start).pending column.type id = s.pending column.type id := by
      simp [Batcher.step, Batcher.pending, Phase.pending]
    rw [hpend]
    exact hbal
  | step p pick ok =>
    obtain rfl : ok := hact
    simp only [Batcher.step]
    split
    · exact ⟨v, hv, hbal⟩
    rename_i phase hphase
    have hwrite := phase.step_writes pick s.stores s.db
    generalize phase.step pick true s.stores s.db = after at hwrite ⊢
    obtain ⟨stores', db', phase'⟩ := after
    obtain ⟨written, hmoved, hread⟩ := hwrite
    refine ⟨v + column.sign * written column.type id, ?_, ?_⟩
    · show column.read db' id = _
      rw [hread, hv]
      rfl
    -- what the run has written is off its account, and the other runs are as before
    have hruns := sum_map_set hphase (Phase.pending column.type id) phase'
    have hpend : (stores' column.type).value id + phase'.pending column.type id +
        written column.type id = (s.stores column.type).value id + phase.pending column.type id :=
      hmoved column.type id
    have hpre : s.pending column.type id = written column.type id +
        ((stores' column.type).value id +
          ((s.runs.set p phase').map (Phase.pending column.type id)).sum) := by
      unfold Batcher.pending
      omega
    rw [hpre, Int.mul_add, ← Int.add_assoc] at hbal
    exact hbal

/-- **Nothing is lost while no UPDATE fails.** -/
theorem batched_columns_balanced {db : Database} {acts : List BatchAct}
    (hacts : ∀ act ∈ acts, act.Succeeds) :
    (exec Batcher.step { db } acts).Balanced db := by
  refine Along.invariant (Batcher.Balanced db) (fun _ _ h hact => h.step hact) ?_
    (along_of_forall hacts)
  intro id column v hv
  exact ⟨v, hv, by simp [Batcher.pending, Batcher.total]⟩

/-! ## Runs -/

/-- User 1, token 5 and channel 7. -/
def batchDatabase : Database where
  users id := if id = 1 then some ⟨100, 0, 0⟩ else none
  tokens id := if id = 5 then some ⟨100, 0⟩ else none
  channelUsedQuota id := if id = 7 then some 0 else none

/-- A column, what is pending for it, and what was added. -/
def reading (acts : List BatchAct) (column : BatchedColumn) (id : Int) : Option Int × Int × Int :=
  let s := exec Batcher.step { db := batchDatabase } acts
  (column.read s.db id, s.pending column.type id, s.total column.type id)

/-- The check, the five maps, and two loops without entries. -/
def upToUserLoop (p : Nat) : List BatchAct := List.replicate 9 (.step p 0 true)

/-- A delta that comes after the maps were taken out stays pending. -/
theorem batched_columns_balanced_sample :
    let acts := [.add .userQuota 1 (-30), .start] ++ upToUserLoop 0 ++
      [.add .userQuota 1 (-5), .step 0 0 true]
    reading acts .userQuota 1 = (some 70, -5, -35) ∧
      (exec Batcher.step { db := batchDatabase } acts).Balanced batchDatabase :=
  ⟨by decide +kernel, batched_columns_balanced (by decide +kernel)⟩

/-- The UPDATE of the user fails: the 30 are neither in the column nor pending. -/
theorem failed_flush_loses_delta :
    reading ([.add .userQuota 1 (-30), .start] ++ upToUserLoop 0 ++ [.step 0 0 false])
      .userQuota 1 = (some 100, 0, -30) := by
  decide +kernel

end HermesToken.Users
