import HermesToken.Lib.Run
import HermesToken.Lib.SlidingWindow

/-!
# The in-memory rate limiter

`InMemoryRateLimiter` of `common/rate-limit.go` and the endpoints that share
one: each keeps its own keys in it, and each sets its expiration when it is
installed. The limiter for models does so again with every request.

A key is deleted when its last request is older than the expiration, whoever
has set that last. So the limit of a key holds as long as no expiration is
shorter than the duration of the key. The limiter for models sets one of a few
minutes while the critical endpoints count over twenty.
-/

namespace HermesToken.Middleware

open Lib

/-! ## The limiter -/

/-- Times are Unix seconds, and so are durations. -/
structure InMemoryRateLimiter where
  store : String → Option (List Int) := fun _ => none
  (expirationDuration lastCleanup : Int := 0)

namespace InMemoryRateLimiter

variable (l : InMemoryRateLimiter)

def init (expirationDuration : Int) : InMemoryRateLimiter :=
  { l with expirationDuration }

/-- The last request of the queue is too old. -/
def expired (expirationDuration now : Int) (queue : List Int) : Bool :=
  match queue.getLast? with
  | none => true
  | some last => decide (expirationDuration < now - last)

def deleteExpiredItemsLocked (now : Int) : InMemoryRateLimiter :=
  if l.expirationDuration ≤ 0 then l
  else if 0 < l.lastCleanup ∧ now - l.lastCleanup < l.expirationDuration then l
  else
    { l with
      lastCleanup := now
      store := fun key => (l.store key).filter fun queue =>
        !expired l.expirationDuration now queue }

def put (key : String) (queue : List Int) : InMemoryRateLimiter :=
  { l with store := fun k => if k = key then some queue else l.store k }

/-- The queue after a request that is admitted. A panic, of `make` or of an
index, is a request that is not. -/
def nextQueue (maxRequestNum duration now : Int) : Option (List Int) → Option (List Int)
  | some queue =>
    if (queue.length : Int) < maxRequestNum then some (queue ++ [now])
    else match queue with
      | [] => none
      | oldest :: rest => if duration ≤ now - oldest then some (rest ++ [now]) else none
  | none => if maxRequestNum < 0 then none else some [now]

/-- The clock is read once for the cleanup and once for the request. -/
def request (key : String) (maxRequestNum duration cleanupNow now : Int) :
    Bool × InMemoryRateLimiter :=
  let l := l.deleteExpiredItemsLocked cleanupNow
  match nextQueue maxRequestNum duration now (l.store key) with
  | some queue => (true, l.put key queue)
  | none => (false, l)

end InMemoryRateLimiter

/-! ## Traffic -/

/-- A call of the limiter, which a mutex makes atomic. A request comes `wait`
seconds after the last one, and reads the clock again after `pause` seconds. -/
inductive LimiterCall where
  | init (expirationDuration : Int)
  | request (key : String) (maxRequestNum duration : Int) (wait pause : Nat)

/-- The limiter, its clock, and the requests it has admitted. -/
structure Traffic where
  limiter : InMemoryRateLimiter := {}
  clock : Int
  admitted : List (String × Int) := []

def Traffic.step (s : Traffic) : LimiterCall → Traffic
  | .init expirationDuration => { s with limiter := s.limiter.init expirationDuration }
  | .request key maxRequestNum duration wait pause =>
    let cleanupNow := s.clock + wait
    let now := cleanupNow + pause
    let (ok, limiter) := s.limiter.request key maxRequestNum duration cleanupNow now
    { limiter := limiter
      clock := now
      admitted := if ok then s.admitted ++ [(key, now)] else s.admitted }

def Traffic.times (s : Traffic) (key : String) : List Int :=
  (s.admitted.filter (·.1 = key)).map (·.2)

/-! ## The limit of a key -/

/-- The queue of a key, which is empty if the key is not there. -/
def InMemoryRateLimiter.queue (l : InMemoryRateLimiter) (key : String) : List Int :=
  (l.store key).getD []

/-- The call uses the key with the limits `m` and `d`. -/
def LimiterCall.Uses (key : String) (m d : Int) : LimiterCall → Prop
  | .init _ => True
  | .request k maxRequestNum duration _ _ => k = key → maxRequestNum = m ∧ duration = d

/-- A request finds an expiration that is not shorter than `d`. -/
def LimiterCall.KeepsLong (d : Int) (s : Traffic) : LimiterCall → Prop
  | .init _ => True
  | .request .. => s.limiter.expirationDuration ≤ 0 ∨ d ≤ s.limiter.expirationDuration + 1

section

variable {key : String} {m d : Int} {admitted : List Int} {l : InMemoryRateLimiter} {now : Int}

open InMemoryRateLimiter

/-- **A cleanup** forgets no request that still counts. -/
theorem window_deleteExpiredItemsLocked (h : SlidingWindow m d now admitted (l.queue key))
    (hlong : l.expirationDuration ≤ 0 ∨ d ≤ l.expirationDuration + 1) :
    SlidingWindow m d now admitted ((l.deleteExpiredItemsLocked now).queue key) := by
  unfold deleteExpiredItemsLocked
  split
  · exact h
  split
  · exact h
  rw [queue] at h ⊢
  cases hstore : l.store key with
  | none =>
    simpa [hstore] using h
  | some queue =>
  rw [hstore] at h
  by_cases hexp : expired l.expirationDuration now queue
  · have hforget := h.forget fun last hlast => by
      simp only [Option.getD_some] at hlast
      simp only [expired, hlast, decide_eq_true_eq] at hexp
      omega
    simpa [hstore, Option.filter, hexp] using hforget
  · simpa [hstore, Option.filter, hexp] using h

theorem window_nextQueue (hm : 1 ≤ m) {stored queue}
    (h : SlidingWindow m d now admitted (stored.getD []))
    (hnext : nextQueue m d now stored = some queue) :
    SlidingWindow m d now (admitted ++ [now]) queue := by
  unfold nextQueue at hnext
  cases stored with
  | none =>
    obtain ⟨-, hqueue⟩ := Option.ite_none_left_eq_some.mp hnext
    cases hqueue
    exact h.enter (Int.lt_of_lt_of_le Int.zero_lt_one hm)
  | some old =>
  dsimp only at hnext
  by_cases hroom : (old.length : Int) < m
  · rw [if_pos hroom] at hnext
    cases hnext
    exact h.enter hroom
  rw [if_neg hroom] at hnext
  cases old with
  | nil => cases hnext
  | cons =>
    obtain ⟨_, hqueue⟩ := Option.ite_none_right_eq_some.mp hnext
    cases hqueue
    exact h.slide (by omega)

theorem InMemoryRateLimiter.request_cases (l : InMemoryRateLimiter) (k : String)
    (maxRequestNum duration cleanupNow now : Int) :
    let l' := l.deleteExpiredItemsLocked cleanupNow
    l.request k maxRequestNum duration cleanupNow now = (false, l') ∨
      ∃ queue, nextQueue maxRequestNum duration now (l'.store k) = some queue ∧
        l.request k maxRequestNum duration cleanupNow now = (true, l'.put k queue) := by
  dsimp only [request]
  cases nextQueue maxRequestNum duration now ((l.deleteExpiredItemsLocked cleanupNow).store k) with
  | none => exact .inl rfl
  | some queue => exact .inr ⟨queue, rfl, rfl⟩

/-- **A request** adds its time to the admitted ones if it is for the key and
admitted. -/
theorem window_request {k maxRequestNum duration cleanupNow} (hm : 1 ≤ m)
    (huses : k = key → maxRequestNum = m ∧ duration = d) (hnow : cleanupNow ≤ now)
    (h : SlidingWindow m d cleanupNow admitted (l.queue key))
    (hlong : l.expirationDuration ≤ 0 ∨ d ≤ l.expirationDuration + 1) :
    SlidingWindow m d now
      (if (l.request k maxRequestNum duration cleanupNow now).1 ∧ k = key
        then admitted ++ [now] else admitted)
      ((l.request k maxRequestNum duration cleanupNow now).2.queue key) := by
  have hclean := (window_deleteExpiredItemsLocked h hlong).later hnow
  rcases l.request_cases k maxRequestNum duration cleanupNow now with href | ⟨queue, hnext, hok⟩
  · rw [href]
    simpa using hclean
  rw [hok]
  generalize l.deleteExpiredItemsLocked cleanupNow = l' at hclean hnext ⊢
  by_cases hk : k = key
  · obtain ⟨rfl, rfl⟩ := huses hk
    subst hk
    have hqueue : (l'.put k queue).queue k = queue := by simp [InMemoryRateLimiter.queue, put]
    rw [if_pos ⟨rfl, rfl⟩, hqueue]
    exact window_nextQueue hm hclean hnext
  · have hqueue : (l'.put k queue).queue key = l'.queue key := by
      simp [InMemoryRateLimiter.queue, put, Ne.symm hk]
    rw [if_neg fun hboth => hk hboth.2, hqueue]
    exact hclean

end

theorem Traffic.times_step (s : Traffic) (key : String) :
    (s.step (.request k maxRequestNum duration wait pause)).times key =
      if (s.limiter.request k maxRequestNum duration (s.clock + wait)
          (s.clock + wait + pause)).1 ∧ k = key
        then s.times key ++ [s.clock + wait + pause] else s.times key := by
  simp only [Traffic.step, Traffic.times]
  generalize s.limiter.request k maxRequestNum duration (s.clock + wait)
    (s.clock + wait + pause) = answer
  obtain ⟨ok, limiter⟩ := answer
  cases ok with
  | false => simp
  | true => by_cases hk : k = key <;> simp [hk]

/-- **A call** keeps the queue of the key a sliding window of its admitted
times. -/
theorem window_step {key : String} {m d : Int} {s : Traffic} (hm : 1 ≤ m) (call : LimiterCall)
    (h : SlidingWindow m d s.clock (s.times key) (s.limiter.queue key))
    (hcall : call.Uses key m d ∧ call.KeepsLong d s) :
    SlidingWindow m d (s.step call).clock ((s.step call).times key)
      ((s.step call).limiter.queue key) := by
  cases call with
  | init => exact h
  | request _ _ _ wait pause =>
    have hwait : s.clock ≤ s.clock + wait := by omega
    rw [s.times_step key]
    have hpause : s.clock + wait ≤ s.clock + wait + pause := by omega
    exact window_request hm hcall.1 hpause (h.later hwait) hcall.2

/-- **The limit of a key**: in every interval of `d` seconds at most `m` of its
requests are admitted, as long as requests find no shorter expiration. -/
theorem admits_at_most {key : String} {m d start : Int} {calls : List LimiterCall} (hm : 1 ≤ m)
    (hfixed : ∀ call ∈ calls, call.Uses key m d)
    (hlong : Along Traffic.step (fun s call => call.KeepsLong d s) { clock := start } calls)
    (t : Int) :
    (countIn d t ((exec Traffic.step { clock := start } calls).times key) : Int) ≤ m := by
  have hboth := along_and.mpr ⟨along_of_forall hfixed, hlong⟩
  have hwindow := Along.invariant
    (fun s : Traffic => SlidingWindow m d s.clock (s.times key) (s.limiter.queue key))
    (fun _ call h hok => window_step hm call h hok) (.start (by omega) start) hboth
  exact hwindow.bounded t

/-! ## No request is refused below the limit -/

section

variable {m d now : Int}

open InMemoryRateLimiter List

/-- A refused request finds a queue that is full, of times that count. -/
theorem full_of_nextQueue (hm : 1 ≤ m) (h : SlidingWindow m d now admitted (stored.getD []))
    (hnext : nextQueue m d now stored = none) : m ≤ countIn d (now - d + 1) admitted := by
  obtain ⟨oldest, rest, rfl, hfull, hrecent⟩ : ∃ oldest rest, stored = some (oldest :: rest) ∧
      m ≤ (oldest :: rest).length ∧ now < oldest + d := by
    rcases stored with _ | _ | ⟨oldest, rest⟩ <;> grind [nextQueue]
  obtain ⟨old, hsplit, -⟩ := h.split
  have hcount : countIn d (now - d + 1) (oldest :: rest) = (oldest :: rest).length := by
    refine countP_eq_length.mpr fun a ha => ?_
    have hpast := h.past a ha
    have hle : oldest ≤ a := by
      rcases mem_cons.mp ha with rfl | hrest
      · exact Int.le_refl _
      · exact (pairwise_cons.mp h.sorted).1 a hrest
    simp only [Bool.and_eq_true, decide_eq_true_eq]
    omega
  rw [hsplit, countIn_append, Option.getD_some, hcount]
  omega

end

/-- **The limiter is exact**: on the same terms a request of the key is admitted
just when fewer than `m` were in the last `d` seconds. -/
theorem admits_below_limit {key : String} {m d start : Int} {calls : List LimiterCall}
    (hm : 1 ≤ m) (hd : 1 ≤ d) (hfixed : ∀ call ∈ calls, call.Uses key m d) {wait pause : Nat}
    (hlong : Along Traffic.step (fun s call => call.KeepsLong d s) { clock := start }
      (calls ++ [.request key m d wait pause])) :
    let s := exec Traffic.step { clock := start } calls
    let now := s.clock + wait + pause
    (s.limiter.request key m d (s.clock + wait) now).1 ↔
      countIn d (now - d + 1) (s.times key) < m := by
  intro s now
  obtain ⟨hcalls, hlast, -⟩ := along_append.mp hlong
  have hwindow : SlidingWindow m d s.clock (s.times key) (s.limiter.queue key) :=
    Along.invariant (fun s => SlidingWindow m d s.clock (s.times key) (s.limiter.queue key))
      (fun _ call h hok => window_step hm call h hok) (.start (by omega) start)
      (along_and.mpr ⟨along_of_forall hfixed, hcalls⟩)
  have hwait : s.clock ≤ s.clock + wait := by omega
  have hpause : s.clock + wait ≤ now := by omega
  have hclean := (window_deleteExpiredItemsLocked (hwindow.later hwait) hlast).later hpause
  have hnow : countIn d (now - d + 1) [now] = 1 := by
    simp [countIn]
    omega
  dsimp only [InMemoryRateLimiter.request]
  cases hnext : InMemoryRateLimiter.nextQueue m d now
    ((s.limiter.deleteExpiredItemsLocked (s.clock + wait)).store key) with
  | some queue =>
    have hbound := (window_nextQueue hm hclean hnext).bounded (now - d + 1)
    rw [countIn_append, hnow] at hbound
    simp only [true_iff]
    omega
  | none =>
    have hfull := full_of_nextQueue hm hclean hnext
    simp only [Bool.false_eq_true, false_iff]
    omega

/-! ## Endpoints together -/

inductive Endpoint where
  | globalWeb | globalApi | critical | download | upload | search | emailVerification
  | modelTotal | modelCheck | modelSuccess

/-- The key of a client: its address, or its user. -/
def Endpoint.key (subject : String) : Endpoint → String
  | .globalWeb => "GW" ++ subject
  | .globalApi => "GA" ++ ":" ++ subject
  | .critical => "CT" ++ ":" ++ subject
  | .download => "DW" ++ subject
  | .upload => "UP" ++ subject
  | .search => "SR" ++ ":user:" ++ subject
  | .emailVerification => "EV" ++ ":" ++ subject
  | .modelTotal => "MRRL" ++ subject
  | .modelCheck => "MRRLS" ++ subject ++ "_check"
  | .modelSuccess => "MRRLS" ++ subject

/-- `RateLimitKeyExpirationDuration`, which the other endpoints set when they
are installed. -/
def rateLimitKeyExpirationDuration : Int := 20 * 60

/-- What `memoryRateLimitHandler` sets with every request. -/
def modelExpirationDuration (durationMinutes : Int) : Int := durationMinutes * 60

instance (key : String) (m d : Int) : ∀ call : LimiterCall, Decidable (call.Uses key m d)
  | .init _ => isTrue trivial
  | .request .. => inferInstanceAs (Decidable (_ → _))

instance (d : Int) (s : Traffic) : ∀ call : LimiterCall, Decidable (call.KeepsLong d s)
  | .init _ => isTrue trivial
  | .request .. => inferInstanceAs (Decidable (_ ∨ _))

def Endpoint.call (endpoint : Endpoint) (subject : String) (maxRequestNum duration : Int)
    (wait : Nat) : LimiterCall :=
  .request (endpoint.key subject) maxRequestNum duration wait 0

/-- `CriticalRateLimit`: 20 requests in 20 minutes. -/
def criticalRequest (wait : Nat) : LimiterCall := Endpoint.critical.call "ip:1.2.3.4" 20 1200 wait

def admittedTimes (endpoint : Endpoint) (subject : String) (calls : List LimiterCall) : List Int :=
  (exec Traffic.step { clock := 1000 } calls).times (endpoint.key subject)

/-- Models are limited over 20 minutes too. The 21st critical request is refused
until the first is 20 minutes back. -/
theorem admits_at_most_critical :
    let calls := .init rateLimitKeyExpirationDuration :: List.replicate 21 (criticalRequest 0) ++
      [.init (modelExpirationDuration 20), Endpoint.modelTotal.call "7" 5 1200 61,
        criticalRequest 0, criticalRequest 1139]
    admittedTimes .critical "ip:1.2.3.4" calls = List.replicate 20 1000 ++ [2200] ∧
      ∀ t, (countIn 1200 t (admittedTimes .critical "ip:1.2.3.4" calls) : Int) ≤ 20 := by
  refine ⟨by decide +kernel, fun t => ?_⟩
  exact admits_at_most (by decide) (by decide +kernel) (by decide +kernel) t

/-- Models are limited over one minute. A request for one, 61 seconds later, has
the critical key deleted, and a 21st critical request is admitted. A limit of 0
admits a request. -/
theorem shorter_expiration_exceeds_limit :
    countIn 1200 1000 (admittedTimes .critical "ip:1.2.3.4"
      (.init rateLimitKeyExpirationDuration :: List.replicate 20 (criticalRequest 0) ++
        [.init (modelExpirationDuration 1), Endpoint.modelTotal.call "7" 5 60 61,
          criticalRequest 0])) = 21 ∧
    countIn 60 1000 (admittedTimes .modelCheck "7"
      [.init (modelExpirationDuration 1), Endpoint.modelCheck.call "7" 0 60 0]) = 1 := by
  decide +kernel

/-- One request in a minute: the next is refused 59 seconds later. -/
theorem admits_below_limit_sample :
    let key := Endpoint.modelTotal.key "7"
    let s := exec Traffic.step { clock := 1000 } [.init 60, Endpoint.modelTotal.call "7" 1 60 0]
    let now := s.clock + (59 : ℕ) + (0 : ℕ)
    countIn 60 (now - 60 + 1) (s.times key) = 1 ∧
      ((s.limiter.request key 1 60 (s.clock + (59 : ℕ)) now).1 ↔
        countIn 60 (now - 60 + 1) (s.times key) < (1 : Int)) :=
  ⟨by decide +kernel, admits_below_limit (by decide) (by decide) (by decide) (by decide)⟩

end HermesToken.Middleware
