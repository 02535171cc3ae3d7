import HermesToken.Lib.KeyedSum
import HermesToken.Lib.Run

/-!
# The cached quota of a user

`IncreaseUserQuota`, `DecreaseUserQuota`, `GetUserQuota` and `GetUserCache` with
the batches of `model/utils.go`. A change goes to the database or to the batch,
and a goroutine adds it to the cached quota if there is one. A read that finds
none has the quota of the DATABASE cached, without what is batched.
-/

namespace HermesToken.Users

open Lib

/-- What is in flight. A write to the cached quota asks for the time to live
first; `asked` says that it has found one. -/
inductive QuotaTask where
  | cacheIncr (delta : Int) (asked : Bool)
  | setQuota (quota : Int) (asked : Bool)
  | setObj (quota : Int)
  | addNewRecord (delta : Int)
  | update (delta : Int)

namespace QuotaTask

/-- What is added to the database and its batch beyond what is to the cache. -/
def balance : QuotaTask → Int
  | .cacheIncr delta _ => -delta
  | .addNewRecord delta | .update delta => delta
  | _ => 0

def fill? : QuotaTask → Option Int
  | .setQuota quota _ | .setObj quota => some quota
  | _ => none

def hasAsked : QuotaTask → Bool
  | .cacheIncr _ asked | .setQuota _ asked => asked
  | _ => false

end QuotaTask

open QuotaTask (balance)

/-- One user's quota: the column, what is batched, and the cached field. -/
structure CachedQuota where
  quota : Int
  batched : Int := 0
  cached : Option Int := none
  tasks : List QuotaTask := []

/-- `change` is an increase or a decrease, written directly or batched, and
`run i ok` one statement of a task. It is not `ok` if the database fails or the
time to live is rounded to none. -/
inductive QuotaOp where
  | change (delta : Int) (direct : Bool)
  | getUserCache
  | getUserQuotaFromDB
  | batchUpdate
  | run (i : ℕ) (ok : Bool)
  | expire

namespace CachedQuota

def step (s : CachedQuota) : QuotaOp → CachedQuota
  | .change delta direct =>
    let write := if direct then .update delta else .addNewRecord delta
    { s with tasks := s.tasks ++ [.cacheIncr delta false, write] }
  | .getUserCache =>
    if s.cached.isSome then s else { s with tasks := s.tasks ++ [.setObj s.quota] }
  | .getUserQuotaFromDB => { s with tasks := s.tasks ++ [.setQuota s.quota false] }
  | .batchUpdate => { s with batched := 0, tasks := s.tasks ++ [.update s.batched] }
  | .run i ok =>
    let finished := { s with tasks := s.tasks.eraseIdx i }
    match s.tasks[i]? with
    | none => s
    | some (.cacheIncr delta false) =>
      if ok && s.cached.isSome then { s with tasks := s.tasks.set i (.cacheIncr delta true) }
      else finished
    | some (.cacheIncr delta true) =>
      { finished with cached := some (s.cached.getD 0 + delta) }
    | some (.setQuota quota false) =>
      if ok && s.cached.isSome then { s with tasks := s.tasks.set i (.setQuota quota true) }
      else finished
    | some (.setQuota quota true) | some (.setObj quota) =>
      { finished with cached := some quota }
    | some (.addNewRecord delta) => { finished with batched := s.batched + delta }
    | some (.update delta) =>
      if ok then { finished with quota := s.quota + delta } else finished
  | .expire => { s with cached := none }

/-- Statements are fine, a write that has asked still finds the key, and a
quota is cached that is still the user's, while nothing else is in flight or
batched. -/
def orderly (s : CachedQuota) : QuotaOp → Bool
  | .run i ok => ok && s.tasks[i]?.all fun task =>
    (!task.hasAsked || s.cached.isSome) &&
      task.fill?.all fun quota => s.tasks.length = 1 && s.batched = 0 && quota = s.quota
  | _ => true

/-- The cached quota is right up to what is in flight. -/
def Agrees (s : CachedQuota) : Prop :=
  ∀ c ∈ s.cached, c = s.quota + s.batched + (s.tasks.map balance).sum

variable {s : CachedQuota}

theorem Agrees.ask (h : s.Agrees) (hi : s.tasks[i]? = some task)
    (hsame : task'.balance = task.balance) :
    Agrees (if s.cached.isSome then { s with tasks := s.tasks.set i task' }
      else { s with tasks := s.tasks.eraseIdx i }) := by
  split
  · intro c hc
    have hset := sum_map_set hi balance task'
    have := h c hc
    dsimp only
    omega
  · rename_i hnone
    intro c hc
    exact (hnone (Option.isSome_of_mem hc)).elim

theorem Agrees.run (h : s.Agrees) (hok : s.orderly (.run i ok)) :
    (s.step (.run i ok)).Agrees := by
  cases hi : s.tasks[i]? with
  | none => simpa [CachedQuota.step, hi] using h
  | some task =>
  simp only [orderly, hi, Option.all_some, Bool.and_eq_true] at hok
  obtain ⟨rfl, hasked, hfill⟩ := hok
  obtain ⟨hlt, hget⟩ := List.getElem?_eq_some_iff.mp hi
  have hsum := ((List.getElem_cons_eraseIdx_perm hlt).map balance).sum_eq
  rw [List.map_cons, List.sum_cons, hget] at hsum
  -- nothing is left in flight after a quota was cached
  have hone : ∀ quota, task.fill? = some quota →
      (s.tasks.eraseIdx i).map balance = [] ∧ s.batched = 0 ∧ quota = s.quota := by
    intro quota hquota
    simp only [hquota, Option.all_some, Bool.and_eq_true, decide_eq_true_eq] at hfill
    refine ⟨?_, hfill.1.2, hfill.2⟩
    rw [List.map_eq_nil_iff, ← List.length_eq_zero_iff, List.length_eraseIdx_of_lt hlt]
    omega
  cases task with
  | cacheIncr delta asked =>
    simp only [CachedQuota.step, hi, Bool.true_and]
    cases asked with
    | false => exact h.ask hi rfl
    | true =>
      obtain ⟨c, hc⟩ := Option.isSome_iff_exists.mp hasked
      have := h c hc
      rintro _ ⟨⟩
      simp only [hc, Option.getD_some, balance] at hsum ⊢
      omega
  | setQuota quota asked =>
    simp only [CachedQuota.step, hi, Bool.true_and]
    cases asked with
    | false => exact h.ask hi rfl
    | true =>
      obtain ⟨hnil, hbat, rfl⟩ := hone quota rfl
      rintro _ ⟨⟩
      simp [hnil, hbat]
  | setObj quota =>
    simp only [CachedQuota.step, hi]
    obtain ⟨hnil, hbat, rfl⟩ := hone quota rfl
    rintro _ ⟨⟩
    simp [hnil, hbat]
  | addNewRecord delta =>
    rintro c hc
    simp only [CachedQuota.step, hi, balance] at hc hsum ⊢
    have := h c hc
    omega
  | update delta =>
    rintro c hc
    simp only [CachedQuota.step, hi, if_true, balance] at hc hsum ⊢
    have := h c hc
    omega

theorem Agrees.step (h : s.Agrees) (hok : s.orderly op) : (s.step op).Agrees := by
  cases op with
  | run => exact h.run hok
  | expire => simp [CachedQuota.step, Agrees]
  | getUserCache =>
    simp only [CachedQuota.step]
    split
    · exact h
    · simpa [Agrees, balance] using h
  | change _ direct => cases direct <;> simpa [CachedQuota.step, Agrees, balance] using h
  | getUserQuotaFromDB => simpa [CachedQuota.step, Agrees, balance] using h
  | batchUpdate =>
    intro c hc
    have := h c hc
    simp [CachedQuota.step, balance]
    omega

end CachedQuota

/-- **The cached quota is right when nothing is in flight**, along every orderly
run. -/
theorem cached_quota_balanced {quota : Int} {ops : List QuotaOp}
    (h : Along CachedQuota.step (fun s op => s.orderly op) { quota } ops)
    (hquiet : (exec CachedQuota.step { quota } ops).tasks = []) :
    let s := exec CachedQuota.step { quota } ops
    ∀ c ∈ s.cached, c = s.quota + s.batched := by
  intro s c hc
  have hagrees := h.invariant CachedQuota.Agrees (fun _ _ hs hok => hs.step hok)
    (by simp [CachedQuota.Agrees]) c hc
  rw [hquiet] at hagrees
  simpa using hagrees

/-- The quota is cached, and then 10 are added, in a batch. -/
theorem cached_quota_balanced_sample :
    let ops := [.getUserCache, .run 0 true, .change 10 false, .run 1 true, .run 0 true, .run 0 true]
    let s := exec CachedQuota.step { quota := 100 } ops
    s.cached = some 110 ∧ ∀ c ∈ s.cached, c = s.quota + s.batched :=
  ⟨by decide +kernel, cached_quota_balanced (by decide +kernel) (by decide +kernel)⟩

/-- 10 are added in a batch, and then the quota is cached. -/
theorem cached_quota_without_batch :
    let s := exec CachedQuota.step { quota := 100 }
      [.change 10 false, .run 0 true, .run 0 true, .getUserCache, .run 0 true]
    s.tasks.length = 0 ∧ (s.cached, s.quota, s.batched) = (some 100, 100, 10) := by
  decide +kernel

end HermesToken.Users
