import HermesToken.Lib.Run
import Mathlib.Data.Int.Basic

/-!
# Two-factor verification

A verification of `Verify2FALogin` reads the row of the user, checks the lock in
its copy, evaluates the code, and saves the copy with the failures it counted.
`MaxFailAttempts` failures lock the user for `LockoutDuration` seconds.

Verifications that run at once all start from the row as it was, so none of them
sees the failures of the others. If each starts after the one before has saved,
no more than `MaxFailAttempts` wrong codes are evaluated between successful
verifications and ends of locks.
-/

namespace HermesToken.Users

open Lib List

/-! ## The row -/

def maxFailAttempts : Int := 5

/-- In seconds. -/
def lockoutDuration : Int := 300

structure TwoFA where
  isEnabled : Bool := true
  failedAttempts : Int := 0
  (lockedUntil lastUsedAt : Option Int := none)
  deriving DecidableEq

namespace TwoFA

variable (t : TwoFA) (now : Int)

def isLocked : Bool := t.lockedUntil.any fun unlockAt => decide (now < unlockAt)

def incrementFailedAttempts : TwoFA :=
  let t := { t with failedAttempts := t.failedAttempts + 1 }
  if maxFailAttempts ≤ t.failedAttempts then { t with lockedUntil := some (now + lockoutDuration) }
  else t

/-- The row after a code was right. -/
def used : TwoFA :=
  { t with failedAttempts := 0, lockedUntil := none, lastUsedAt := some now }

/-- What is saved after a code was evaluated. -/
def judged (correct : Bool) : TwoFA :=
  if correct then t.used now else t.incrementFailedAttempts now

end TwoFA

/-! ## A verification -/

/-- Where a verification stands, with its copy of the row. Whether the text of
the code is that of a TOTP code (`numeric`) or of a backup code (`wellFormed`)
is known from the start. -/
inductive Verification where
  | totp (numeric wellFormed : Bool) (copy : TwoFA)
  | totpJudged (wellFormed correct : Bool) (copy : TwoFA)
  | backup (wellFormed : Bool) (copy : TwoFA)
  | backupJudged (correct : Bool) (copy : TwoFA)
  | finished
  deriving DecidableEq

inductive VerificationEvent where
  | wrong | right | lockEnded
  deriving DecidableEq

/-- The row, the clock, the verifications, and what has happened. -/
structure TwoFactor where
  row : TwoFA := {}
  clock : Int := 0
  verifications : List Verification := []
  log : List VerificationEvent := []

inductive TwoFactorAct where
  /-- A verification reads the row. -/
  | start (numeric wellFormed : Bool)
  /-- The next step of the verification `p`. `correct` says what the code turns
  out to be, if it is evaluated. -/
  | step (p : Nat) (correct : Bool)
  | tick (seconds : Nat)

def judge (correct : Bool) : List VerificationEvent := if correct then [.right] else [.wrong]

/-- One step: the row, the verification and the events. -/
def Verification.step (correct : Bool) (row : TwoFA) (clock : Int) :
    Verification → TwoFA × Verification × List VerificationEvent
  -- `ValidateTOTPAndUpdateUsage`, if the code is numeric
  | .totp numeric wellFormed copy =>
    if numeric && !copy.isLocked clock then
      (row, .totpJudged wellFormed correct copy, judge correct)
    else (row, .backup wellFormed copy, [])
  | .totpJudged wellFormed correct copy =>
    let copy := copy.judged clock correct
    (copy, if correct then .finished else .backup wellFormed copy, [])
  -- `ValidateBackupCodeAndUpdateUsage`
  | .backup wellFormed copy =>
    if wellFormed && !copy.isLocked clock then (row, .backupJudged correct copy, judge correct)
    else (row, .finished, [])
  | .backupJudged correct copy => (copy.judged clock correct, .finished, [])
  | .finished => (row, .finished, [])

/-- The lock ends while time passes. -/
def TwoFA.lockEnds (t : TwoFA) (now : Int) (seconds : Nat) : List VerificationEvent :=
  if t.lockedUntil.any fun unlockAt => decide (now < unlockAt) && decide (unlockAt ≤ now + seconds)
  then [.lockEnded]
  else []

/-- The wrong codes in a row, `n` of them before these events. -/
def countWrongs (n : Nat) (events : List VerificationEvent) : Nat :=
  events.foldl (fun n e => if e = .wrong then n + 1 else 0) n

namespace TwoFactor

variable (s : TwoFactor)

def step : TwoFactorAct → TwoFactor
  | .start numeric wellFormed =>
    if s.row.isEnabled then
      { s with verifications := s.verifications ++ [.totp numeric wellFormed s.row] }
    else s
  | .step p correct => match s.verifications[p]? with
    | none => s
    | some v =>
      let (row, v, events) := v.step correct s.row s.clock
      { s with row, verifications := s.verifications.set p v, log := s.log ++ events }
  | .tick seconds =>
    { s with clock := s.clock + seconds, log := s.log ++ s.row.lockEnds s.clock seconds }

/-- The wrong codes since the last right one or end of a lock. -/
def wrongs : Nat := countWrongs 0 s.log

def Quiet : Prop := ∀ v ∈ s.verifications, v = .finished

end TwoFactor

/-- A verification starts when no other is under way. -/
def TwoFactorAct.Serial (s : TwoFactor) : TwoFactorAct → Prop
  | .start _ _ => s.Quiet
  | _ => True

section

variable (row : TwoFA) (clock : Int) (wrongs : Nat)

/-! ## One verification after the other -/

/-- The failures that are counted in the row are at least the wrong codes. Once
they are too many, the lock is on or there were no wrong codes since it ended. -/
def Counted : Prop :=
  wrongs ≤ row.failedAttempts ∧ (row.failedAttempts < maxFailAttempts ∨
    ∃ unlockAt, row.lockedUntil = some unlockAt ∧ (clock < unlockAt ∨ wrongs = 0))

/-- The last wrong code is not in the row yet. -/
def Uncounted : Prop :=
  row.isLocked clock = false ∧ wrongs ≤ row.failedAttempts + 1 ∧
    (row.failedAttempts < maxFailAttempts ∨ wrongs ≤ 1)

/-- What holds of the verification that is under way: its copy is the row. -/
def Verification.Holds : Verification → Prop
  | .totp _ _ copy | .backup _ copy => copy = row ∧ Counted row clock wrongs
  | .totpJudged _ correct copy | .backupJudged correct copy =>
    copy = row ∧ if correct then wrongs = 0 else Uncounted row clock wrongs
  | .finished => Counted row clock wrongs

end

section

variable {row : TwoFA} {clock : Int} {wrongs : Nat}

theorem Counted.unlocked (h : Counted row clock wrongs) (hlocked : row.isLocked clock = false) :
    row.failedAttempts < maxFailAttempts ∨ wrongs = 0 := by
  refine h.2.imp_right fun ⟨unlockAt, hlock, hcs⟩ => hcs.resolve_left fun hlt => ?_
  simp [TwoFA.isLocked, hlock, hlt] at hlocked

theorem Counted.wrong (h : Counted row clock wrongs)
    (hlock : row.isLocked clock = false) : Uncounted row clock (wrongs + 1) := by
  have hle := h.1
  rcases h.unlocked hlock with hfew | _
  · exact ⟨hlock, by omega, .inl hfew⟩
  · exact ⟨hlock, by omega, .inr (by omega)⟩

theorem Uncounted.saved (h : Uncounted row clock wrongs) :
    Counted (row.judged clock false) clock wrongs := by
  obtain ⟨-, hle, -⟩ := h
  simp only [TwoFA.judged, TwoFA.incrementFailedAttempts, Bool.false_eq_true, if_false]
  split
  · rename_i hmany
    refine ⟨hle, .inr ⟨_, rfl, .inl ?_⟩⟩
    unfold lockoutDuration
    omega
  · rename_i hfew
    exact ⟨hle, .inl (by simpa using hfew)⟩

theorem counted_used (row : TwoFA) (clock : Int) : Counted (row.judged clock true) clock 0 := by
  refine ⟨Int.le_refl 0, .inl ?_⟩
  show (0 : Int) < maxFailAttempts
  decide

theorem Uncounted.bound (h : Uncounted row clock wrongs) : (wrongs : Int) ≤ maxFailAttempts := by
  obtain ⟨-, _, _ | _⟩ := h
  · omega
  · unfold maxFailAttempts
    omega

theorem Counted.judge (h : Counted row clock wrongs) (hlock : row.isLocked clock = false)
    (correct : Bool) :
    (if correct then countWrongs wrongs (judge correct) = 0
      else Uncounted row clock (countWrongs wrongs (judge correct))) ∧
      (countWrongs wrongs (judge correct) : Int) ≤ maxFailAttempts := by
  cases correct with
  | true => exact ⟨rfl, Int.le_of_lt (by decide : (0 : Int) < maxFailAttempts)⟩
  | false =>
    have hcount := h.wrong hlock
    exact ⟨hcount, hcount.bound⟩

theorem counted_judged (h : if correct then wrongs = 0 else Uncounted row clock wrongs) :
    Counted (row.judged clock correct) clock wrongs := by
  cases correct with
  | true =>
    obtain rfl : wrongs = 0 := h
    exact counted_used row clock
  | false =>
    have hcount : Uncounted row clock wrongs := h
    exact hcount.saved

theorem Verification.Holds.step {v : Verification} (h : v.Holds row clock wrongs)
    (hbound : (wrongs : Int) ≤ maxFailAttempts) (correct : Bool) :
    (v.step correct row clock).2.1.Holds (v.step correct row clock).1 clock
        (countWrongs wrongs (v.step correct row clock).2.2) ∧
      (countWrongs wrongs (v.step correct row clock).2.2 : Int) ≤ maxFailAttempts := by
  cases v with
  | totp numeric wellFormed copy =>
    obtain ⟨rfl, hcount⟩ := h
    simp only [Verification.step]
    split
    · rename_i hopen
      have hlock : copy.isLocked clock = false := by
        simpa using (Bool.and_eq_true_iff.mp hopen).2
      exact ⟨⟨rfl, (hcount.judge hlock correct).1⟩, (hcount.judge hlock correct).2⟩
    · exact ⟨⟨rfl, hcount⟩, hbound⟩
  | totpJudged _ judged =>
    obtain ⟨rfl, hjudge⟩ := h
    have hcount := counted_judged hjudge
    cases judged with
    | true => exact ⟨hcount, hbound⟩
    | false => exact ⟨⟨rfl, hcount⟩, hbound⟩
  | backup wellFormed copy =>
    obtain ⟨rfl, hcount⟩ := h
    simp only [Verification.step]
    split
    · rename_i hopen
      have hlock : copy.isLocked clock = false := by
        simpa using (Bool.and_eq_true_iff.mp hopen).2
      exact ⟨⟨rfl, (hcount.judge hlock correct).1⟩, (hcount.judge hlock correct).2⟩
    · exact ⟨hcount, hbound⟩
  | backupJudged =>
    obtain ⟨rfl, hjudge⟩ := h
    exact ⟨counted_judged hjudge, hbound⟩
  | finished => exact ⟨h, hbound⟩

theorem countWrongs_lockEnds (row : TwoFA) (clock : Int) (wrongs seconds : Nat) :
    countWrongs wrongs (row.lockEnds clock seconds) = wrongs ∨
      countWrongs wrongs (row.lockEnds clock seconds) = 0 := by
  unfold TwoFA.lockEnds
  split
  · exact .inr rfl
  · exact .inl rfl

/-- Time passes. A lock that is on stays on or ends. -/
theorem Counted.tick (h : Counted row clock wrongs) (seconds : Nat) :
    Counted row (clock + seconds) (countWrongs wrongs (row.lockEnds clock seconds)) := by
  obtain ⟨hle, hlocks⟩ := h
  refine ⟨?_, hlocks.imp_right fun ⟨unlockAt, hlock, hcs⟩ => ⟨unlockAt, hlock, ?_⟩⟩
  · rcases countWrongs_lockEnds row clock wrongs seconds with hsame | hzero
    · rw [hsame]
      exact hle
    · rw [hzero]
      omega
  rcases hcs with hlt | rfl
  · by_cases hends : unlockAt ≤ clock + seconds
    · refine .inr ?_
      simp [TwoFA.lockEnds, hlock, hlt, hends, countWrongs]
    · exact .inl (by omega)
  · exact .inr ((countWrongs_lockEnds row clock 0 seconds).elim id id)

theorem Uncounted.tick (h : Uncounted row clock wrongs) (seconds : Nat) :
    Uncounted row (clock + seconds) (countWrongs wrongs (row.lockEnds clock seconds)) := by
  obtain ⟨hlocked, _, hfew⟩ := h
  have hle' : countWrongs wrongs (row.lockEnds clock seconds) ≤ wrongs := by
    rcases countWrongs_lockEnds row clock wrongs seconds with _ | _ <;> omega
  refine ⟨?_, by omega, hfew.imp_right fun hone => by omega⟩
  unfold TwoFA.isLocked at hlocked ⊢
  cases hlock : row.lockedUntil with
  | none => rfl
  | some =>
    simp only [hlock, Option.any_some, decide_eq_false_iff_not] at hlocked ⊢
    omega

theorem Verification.Holds.tick {v : Verification} (h : v.Holds row clock wrongs) (seconds : Nat) :
    v.Holds row (clock + seconds) (countWrongs wrongs (row.lockEnds clock seconds)) := by
  have hjudge : ∀ correct : Bool, (if correct then wrongs = 0 else Uncounted row clock wrongs) →
      if correct then countWrongs wrongs (row.lockEnds clock seconds) = 0
      else Uncounted row (clock + seconds) (countWrongs wrongs (row.lockEnds clock seconds)) := by
    intro correct h
    cases correct with
    | true =>
      obtain rfl : wrongs = 0 := h
      exact (countWrongs_lockEnds row clock 0 seconds).elim id id
    | false => exact Uncounted.tick h seconds
  cases v with
  | totp | backup => exact ⟨h.1, h.2.tick seconds⟩
  | totpJudged | backupJudged => exact ⟨h.1, hjudge _ h.2⟩
  | finished => exact Counted.tick h seconds

end

/-- At most one verification is under way, and it holds what it should. -/
structure SerialBooks (s : TwoFactor) : Prop where
  bound : (s.wrongs : Int) ≤ maxFailAttempts
  active : ∃ p : Nat,
    (∀ (q : Nat) v, s.verifications[q]? = some v → q ≠ p → v = Verification.finished) ∧
    ((s.verifications[p]?).getD Verification.finished).Holds s.row s.clock s.wrongs

theorem countWrongs_append :
    countWrongs n (events ++ events') = countWrongs (countWrongs n events) events' :=
  foldl_append

theorem SerialBooks.counted (h : SerialBooks s) (hquiet : s.Quiet) :
    Counted s.row s.clock s.wrongs := by
  obtain ⟨-, p, -, hheld⟩ := h
  cases hp : s.verifications[p]? with
  | none =>
    rw [hp] at hheld
    exact hheld
  | some v =>
    obtain rfl := hquiet v (mem_of_getElem? hp)
    rw [hp] at hheld
    exact hheld

theorem SerialBooks.step {s : TwoFactor} (h : SerialBooks s) {act : TwoFactorAct}
    (hact : act.Serial s) : SerialBooks (s.step act) := by
  have ⟨hbound, p, hoth, hheld⟩ := h
  cases act with
  | start =>
    simp only [TwoFactor.step]
    split
    swap
    · exact ⟨hbound, p, hoth, hheld⟩
    refine ⟨hbound, s.verifications.length, fun q v hq hne => ?_, ?_⟩
    · rw [getElem?_append] at hq
      split at hq
      · exact hact v (mem_of_getElem? hq)
      · rw [getElem?_singleton, if_neg (by omega)] at hq
        cases hq
    · simp only [getElem?_concat_length, Option.getD_some]
      exact ⟨rfl, h.counted hact⟩
  | step q correct =>
    simp only [TwoFactor.step]
    split
    · exact ⟨hbound, p, hoth, hheld⟩
    rename_i v hv
    by_cases hq : q = p
    · subst hq
      rw [hv] at hheld
      obtain ⟨hheld', hbound'⟩ := hheld.step hbound correct
      refine ⟨?_, q, fun r w hw hne => ?_, ?_⟩
      · show ((countWrongs 0 (s.log ++ _) : Nat) : Int) ≤ _
        rw [countWrongs_append]
        exact hbound'
      · rw [getElem?_set_ne (Ne.symm hne)] at hw
        exact hoth r w hw hne
      show Verification.Holds _ _ (countWrongs 0 (s.log ++ _)) _
      rw [countWrongs_append, List.getElem?_set_self (List.getElem?_eq_some_iff.mp hv).1]
      exact hheld'
    -- the others have finished and do nothing
    obtain rfl := hoth q v hv hq
    obtain ⟨hlt, hget⟩ := List.getElem?_eq_some_iff.mp hv
    have hsame : s.verifications.set q .finished = s.verifications := by
      rw [← hget]
      exact set_getElem_self hlt
    simp only [Verification.step, hsame, append_nil]
    exact ⟨hbound, p, hoth, hheld⟩
  | tick seconds =>
    refine ⟨?_, p, hoth, ?_⟩
    · show ((countWrongs 0 (s.log ++ _) : Nat) : Int) ≤ _
      rw [countWrongs_append]
      have := countWrongs_lockEnds s.row s.clock s.wrongs seconds
      unfold TwoFactor.wrongs at this hbound
      unfold maxFailAttempts at hbound ⊢
      omega
    · show Verification.Holds _ _ (countWrongs 0 (s.log ++ _)) _
      rw [countWrongs_append]
      exact hheld.tick seconds

/-- **The bound on wrong codes**, if no verification starts while another is
under way. With as many wrong codes as that, the user is locked. -/
theorem wrong_codes_bounded {start : Int} {acts : List TwoFactorAct}
    (hserial : Along TwoFactor.step (fun s act => act.Serial s) { clock := start } acts) :
    let s := exec TwoFactor.step { clock := start } acts
    (s.wrongs : Int) ≤ maxFailAttempts ∧
      (s.Quiet → (s.wrongs : Int) = maxFailAttempts → s.row.isLocked s.clock = true) := by
  intro s
  have hbooks : SerialBooks s := Along.invariant SerialBooks (fun _ _ h hact => h.step hact) ?_
    hserial
  · refine ⟨hbooks.bound, fun hquiet hmany => ?_⟩
    obtain ⟨_, hlocks⟩ := hbooks.counted hquiet
    have hpos : (0 : Int) < maxFailAttempts := by decide
    obtain ⟨unlockAt, hlock, hcases⟩ := hlocks.resolve_left (by omega)
    have hlt := hcases.resolve_right (by omega)
    simp [TwoFA.isLocked, hlock, hlt]
  · have hpos : (0 : Int) < maxFailAttempts := by decide
    exact ⟨Int.le_of_lt hpos, 0, fun q v hq => by simp at hq, Int.le_refl 0, .inl hpos⟩

/-! ## Runs -/

instance (s : TwoFactor) : Decidable s.Quiet :=
  inferInstanceAs (Decidable (∀ v ∈ s.verifications, v = .finished))

instance (s : TwoFactor) : ∀ act : TwoFactorAct, Decidable (act.Serial s)
  | .start _ _ => inferInstanceAs (Decidable s.Quiet)
  | .step _ _ => isTrue trivial
  | .tick _ => isTrue trivial

/-- The verification `p` with a wrong TOTP code, from its start to its end. -/
def wrongAttempt (p : Nat) : List TwoFactorAct :=
  .start true false :: List.replicate 3 (.step p false)

/-- Five wrong codes lock the user, a sixth is not evaluated, and the lock ends
after five minutes. -/
theorem wrong_codes_bounded_sample :
    let acts := (range 6).flatMap wrongAttempt
    (exec TwoFactor.step { clock := 0 } acts).wrongs = 5 ∧
      (exec TwoFactor.step { clock := 0 } (acts ++ [.tick 300])).wrongs = 0 ∧
      (exec TwoFactor.step { clock := 0 } acts).row.isLocked 0 = true := by
  refine ⟨by decide +kernel, by decide +kernel, ?_⟩
  exact (wrong_codes_bounded (by decide +kernel)).2 (by decide +kernel) (by decide +kernel)

/-- Six verifications read the row at once. All six wrong codes are evaluated, and
the row then says that there was one failure. -/
theorem concurrent_wrong_codes_exceed_bound :
    let acts := replicate 6 (.start true false) ++
      (range 6).map (TwoFactorAct.step · false) ++
      (range 6).map (TwoFactorAct.step · false)
    (exec TwoFactor.step { clock := 0 } acts).wrongs = 6 ∧
      (exec TwoFactor.step { clock := 0 } acts).row = { failedAttempts := 1 } := by
  decide +kernel

end HermesToken.Users
