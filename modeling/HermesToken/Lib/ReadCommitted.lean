import HermesToken.Lib.Run

/-!
# One row under read-committed transactions

Any number of transactions work on one row. Each READS the committed row
without a lock, decides from that copy what to WRITE, takes the row lock with
its write, and COMMITS. The lock is held to the end of the transaction, and an
uncommitted write is seen by nobody else.

A program says what an operation writes, given the row it read: a change of
the row (a whole-row save is a constant function, a column update is not) and
the effects that commit with it. Nothing in the protocol stops a transaction
from writing what it decided from an outdated copy. Where every write finds
the row as it was read (`Fresh`), the runs are those of a serial execution,
and `serial_rule` carries an invariant of the serial program to them.
-/

namespace HermesToken.Lib.ReadCommitted

variable {Op R E : Type*} {p : Nat}

/-- What a transaction writes. -/
structure Change (R E : Type*) where
  apply : R → R
  effects : List E

/-- What an operation writes after it read a row; `none` when it only reads. -/
abbrev Program (Op R E : Type*) := Op → R → Option (Change R E)

/-- Where a transaction stands. -/
inductive Proc (Op R E : Type*) where
  | idle
  | read (op : Op) (copy : R)
  | wrote (op : Op) (copy : R) (change : Change R E)

/-- The committed row and effects, the holder of the row lock, and the
transactions. -/
structure Sys (Op R E : Type*) where
  row : R
  log : List E
  lock : Option Nat
  procs : Nat → Proc Op R E

inductive Act (Op : Type*) where
  | read (p : Nat) (op : Op)
  | write (p : Nat)
  | commit (p : Nat)
  | abort (p : Nat)

/-- Nothing is running and nothing has been committed. -/
def Sys.start (row : R) : Sys Op R E :=
  { row, log := [], lock := none, procs := fun _ => .idle }

namespace Sys

variable (s : Sys Op R E)

def setProc (p : Nat) (proc : Proc Op R E) : Sys Op R E :=
  { s with procs := fun q => if q = p then proc else s.procs q }

/-- The transaction `p` takes the lock with its write. -/
def locked (p : Nat) (proc : Proc Op R E) : Sys Op R E :=
  { s.setProc p proc with lock := some p }

/-- The transaction `p` ends and gives the lock back. -/
def released (p : Nat) : Sys Op R E :=
  { s.setProc p .idle with lock := none }

/-- The change of `p` becomes visible. -/
def committed (p : Nat) (change : Change R E) : Sys Op R E := { s.released p with
  row := change.apply s.row
  log := s.log ++ change.effects }

variable (prog : Program Op R E)

/-- The write of a transaction that read `copy`. It waits for the lock. -/
def write (p : Nat) (op : Op) (copy : R) : Sys Op R E :=
  match s.lock, prog op copy with
  | none, some change => s.locked p (.wrote op copy change)
  | none, none => s.setProc p .idle
  | some _, _ => s

def step (s : Sys Op R E) : Act Op → Sys Op R E
  | .read p op => match s.procs p with
    | .idle => s.setProc p (.read op s.row)
    | _ => s
  | .write p => match s.procs p with
    | .read op copy => s.write prog p op copy
    | _ => s
  | .commit p => match s.procs p with
    | .wrote _ _ change => s.committed p change
    | _ => s
  | .abort p => match s.procs p with
    | .idle => s
    | .read _ _ => s.setProc p .idle
    | .wrote _ _ _ => s.released p

/-- A write finds the row as its transaction read it. -/
def Fresh (s : Sys Op R E) : Act Op → Prop
  | .write p => match s.procs p with
    | .read op copy => s.lock = none → (prog op copy).isSome = true → copy = s.row
    | _ => True
  | _ => True

instance [DecidableEq R] : ∀ (s : Sys Op R E) (act : Act Op), Decidable (s.Fresh prog act)
  | _, .read _ _ => isTrue trivial
  | s, .write p => match h : s.procs p with
    | .read op copy =>
      decidable_of_iff (s.lock = none → (prog op copy).isSome = true → copy = s.row)
        (by simp only [Fresh, h])
    | .idle => isTrue (by simp only [Fresh, h])
    | .wrote _ _ _ => isTrue (by simp only [Fresh, h])
  | _, .commit _ => isTrue trivial
  | _, .abort _ => isTrue trivial

/-! ## Fresh runs are serial -/

/-- The writer holds the lock, and what it wrote is what the program writes
for the row as it is now. -/
def Held (s : Sys Op R E) : Prop :=
  ∀ p op copy change, s.procs p = .wrote op copy change →
    s.lock = some p ∧ prog op s.row = some change

theorem held_start (row : R) : Held prog (Sys.start row : Sys Op R E) := by
  intro p op copy change h
  cases h

variable {prog} {s}

theorem Held.setProc (h : Held prog s)
    (hproc : ∀ op copy change, proc ≠ .wrote op copy change) : Held prog (s.setProc p proc) := by
  intro q op copy change hq
  simp only [Sys.setProc] at hq
  split at hq
  · exact absurd hq (hproc op copy change)
  · exact h q op copy change hq

theorem Held.only (h : Held prog s)
    (hlock : s.lock = some p) (hq : s.procs q = .wrote op copy change) : q = p := by
  have := (h q op copy change hq).1
  rw [hlock] at this
  exact (Option.some.inj this).symm

theorem Held.released (h : Held prog s) (hlock : s.lock = some p) {row log} :
    Held prog { s.released p with row, log } := by
  intro q op copy change hq
  simp only [Sys.released, Sys.setProc] at hq
  split at hq
  · cases hq
  · rename_i hne
    exact absurd (h.only hlock hq) hne

theorem Held.write (h : Held prog s)
    (hfrs : s.lock = none → (prog op copy).isSome → copy = s.row) :
    Held prog (s.write prog p op copy) := by
  simp only [Sys.write]
  split
  · rename_i hlock hprog
    have hcopy : copy = s.row := hfrs hlock (by simp [hprog])
    intro q op' copy' change' hq
    simp only [Sys.locked, Sys.setProc] at hq ⊢
    split at hq
    · rename_i hqp
      cases hq
      exact ⟨by rw [hqp], by rw [← hcopy]; exact hprog⟩
    · have := (h q op' copy' change' hq).1
      rw [hlock] at this
      cases this
  · exact h.setProc (by simp)
  · exact h

/-- **A fresh step is serial**: it commits what the program writes for the
committed row, or commits nothing. -/
theorem Held.step (h : Held prog s) {act} (hfrs : s.Fresh prog act) :
    Held prog (s.step prog act) ∧
      (((s.step prog act).row = s.row ∧ (s.step prog act).log = s.log) ∨
        ∃ op change, prog op s.row = some change ∧
          (s.step prog act).row = change.apply s.row ∧
          (s.step prog act).log = s.log ++ change.effects) := by
  cases act with simp only [Sys.step]
  | read p =>
    cases hp : s.procs p with
    | idle => exact ⟨h.setProc (by simp), .inl ⟨rfl, rfl⟩⟩
    | read | wrote => exact ⟨h, .inl ⟨rfl, rfl⟩⟩
  | write p =>
    cases hp : s.procs p with
    | idle => exact ⟨h, .inl ⟨rfl, rfl⟩⟩
    | read =>
      simp only [Fresh, hp] at hfrs
      refine ⟨h.write hfrs, .inl ?_⟩
      simp only [Sys.write]
      split <;> exact ⟨rfl, rfl⟩
    | wrote => exact ⟨h, .inl ⟨rfl, rfl⟩⟩
  | commit p =>
    cases hp : s.procs p with
    | idle | read => exact ⟨h, .inl ⟨rfl, rfl⟩⟩
    | wrote op copy change =>
      obtain ⟨hlock, hprog⟩ := h p op copy change hp
      exact ⟨h.released hlock, .inr ⟨op, change, hprog, rfl, rfl⟩⟩
  | abort p =>
    cases hp : s.procs p with
    | idle => exact ⟨h, .inl ⟨rfl, rfl⟩⟩
    | read => exact ⟨h.setProc (by simp), .inl ⟨rfl, rfl⟩⟩
    | wrote op copy change =>
      exact ⟨h.released (h p op copy change hp).1, .inl ⟨rfl, rfl⟩⟩

/-- **The serial rule**: what every serial execution of the program keeps
holds after every fresh run. -/
theorem serial_rule (inv : R → List E → Prop)
    (hserial : ∀ op row log change, prog op row = some change → inv row log →
      inv (change.apply row) (log ++ change.effects)) (hheld : Held prog s) (hs : inv s.row s.log)
    (h : Along (Sys.step prog) (Sys.Fresh prog) s acts) :
    Held prog (exec (Sys.step prog) s acts) ∧
      inv (exec (Sys.step prog) s acts).row (exec (Sys.step prog) s acts).log := by
  refine Along.invariant (fun s => Held prog s ∧ inv s.row s.log) ?_ ⟨hheld, hs⟩ h
  rintro s act ⟨hheld, hs⟩ hfrs
  obtain ⟨hheld', hsame | ⟨op, change, hprog, hrow, hlog⟩⟩ := hheld.step hfrs
  · rw [hsame.1, hsame.2]
    exact ⟨hheld', hs⟩
  · rw [hrow, hlog]
    exact ⟨hheld', hserial op s.row s.log change hprog hs⟩

end Sys

end HermesToken.Lib.ReadCommitted
