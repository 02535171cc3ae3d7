import HermesToken.Lib.Run
import HermesToken.Lib.Transaction

/-!
# Transactions under read-committed isolation

Any number of transactions run at once, statement by statement in any order.
A statement sees what is committed and what its own transaction has written.
A statement that writes takes the lock of its row and waits while another
transaction has it; locks are held to the end. What a transaction wrote
becomes visible with its COMMIT, and a transaction can end at any time without
one.

A SELECT takes no lock, so what a transaction has read may be outdated when it
commits. A COMMIT is fresh on some rows when every query about them would
still give the answer it gave. Two rules use this:

* a COMMIT that is fresh on everything does what the transaction would have
  done alone (`Tracks.commit`), and `serial_rule` carries an invariant of the
  programs run one after the other to the interleavings;
* `guarded_rule` asks for freshness on a few rows only. What can be said of a
  transaction then is said about every path of its program (`Every`).
-/

namespace HermesToken.Lib.Interleaving

variable {Op D K ε E α β : Type} {f : α → Tx D K ε β}

/-- The past of a transaction: its answers, each with the row it was about and
whether a database would still give it, and what it has written. -/
structure Trace (D K : Type) where
  answers : List (Option K × (D → Bool)) := []
  writes : D → D := id

namespace Trace

variable (t : Trace D K)

/-- A statement that got the answer `v`. -/
def extend {V : Type} [DecidableEq V] (about : Option K) (query : D → V) (write : V → D → D)
    (v : V) : Trace D K where
  answers := t.answers ++ [(about, fun db => decide (query (t.writes db) = v))]
  writes db := write v (t.writes db)

/-- The answers about the rows that are watched are those of this database. -/
def freshOn (watch : Option K → Bool) (db : D) : Bool :=
  t.answers.all fun answer => !watch answer.1 || answer.2 db

variable {t}

theorem freshOn_extend {V : Type} [DecidableEq V] {about query write} {v : V} {watch db} :
    (t.extend about query write v).freshOn watch db ↔
      t.freshOn watch db ∧ (watch about → query (t.writes db) = v) := by
  simp only [freshOn, extend, List.all_append, List.all_cons, List.all_nil, Bool.and_true,
    Bool.and_eq_true, Bool.or_eq_true, Bool.not_eq_true', decide_eq_true_eq]
  refine and_congr_right fun _ => ?_
  cases watch about <;> simp

end Trace

inductive Proc (Op D K ε E : Type) : Type 1 where
  | idle
  | running (op : Op) (past : Trace D K) (rest : Tx D K ε (List E))

/-- What is committed, with the effects of the transactions that did it, the
holders of the locks, and the transactions. -/
structure Sys (Op D K ε E : Type) : Type 1 where
  db : D
  log : List E
  holder : K → Option Nat
  procs : Nat → Proc Op D K ε E

inductive Act (Op : Type) where
  | start (p : Nat) (op : Op)
  | step (p : Nat)
  | abort (p : Nat)

/-- Nothing is running and nothing has been committed. -/
def Sys.start (db : D) : Sys Op D K ε E :=
  { db, log := [], holder := fun _ => none, procs := fun _ => .idle }

namespace Sys

variable (s : Sys Op D K ε E)

def setProc (p : Nat) (proc : Proc Op D K ε E) : Sys Op D K ε E :=
  { s with procs := fun q => if q = p then proc else s.procs q }

/-- The transaction ends and gives its locks back. -/
def ended (p : Nat) : Sys Op D K ε E :=
  { s.setProc p .idle with
    holder := fun k => if s.holder k = some p then none else s.holder k }

def committed (p : Nat) (effects : List E) (writes : D → D) : Sys Op D K ε E := { s.ended p with
  db := writes s.db
  log := s.log ++ effects }

/-- A COMMIT finds the answers about the watched rows as the transaction got
them. -/
def FreshOn (watch : Option K → Bool) (s : Sys Op D K ε E) : Act Op → Prop
  | .step p => match s.procs p with
    | .running _ past (.done _) => past.freshOn watch s.db = true
    | _ => True
  | _ => True

/-- A COMMIT finds every answer as the transaction got it. -/
abbrev Fresh (s : Sys Op D K ε E) : Act Op → Prop := s.FreshOn fun _ => true

instance (watch : Option K → Bool) :
    ∀ (s : Sys Op D K ε E) (act : Act Op), Decidable (s.FreshOn watch act)
  | _, .start _ _ => isTrue trivial
  | s, .step p => match h : s.procs p with
    | .idle => isTrue (by simp only [FreshOn, h])
    | .running _ _ (@Tx.stmt _ _ _ _ _ _ _ _ _ _ _) => isTrue (by simp only [FreshOn, h])
    | .running _ _ (.fail _) => isTrue (by simp only [FreshOn, h])
    | .running _ past (.done _) =>
      decidable_of_iff (past.freshOn watch s.db = true) (by simp only [FreshOn, h])
  | _, .abort _ => isTrue trivial

variable [DecidableEq K]

/-- The transaction `p` need not wait for the lock. -/
def free (p : Nat) (lock : Option K) : Bool :=
  lock.all fun k => s.holder k = none || s.holder k = some p

def locked (p : Nat) (lock : Option K) : Sys Op D K ε E :=
  { s with holder := fun k => if lock = some k then some p else s.holder k }

/-- The next statement of the transaction `p`, or its end. -/
def advance (p : Nat) (op : Op) (past : Trace D K) : Tx D K ε (List E) → Sys Op D K ε E
  | @Tx.stmt _ _ _ _ _ _ about lock query write next =>
    if s.free p lock then
      let answer := query (past.writes s.db)
      (s.locked p lock).setProc p
        (.running op (past.extend about query write answer) (next answer))
    else s
  | .done effects => s.committed p effects past.writes
  | .fail _ => s.ended p

variable (prog : Op → Tx D K ε (List E))

def step (s : Sys Op D K ε E) : Act Op → Sys Op D K ε E
  | .start p op => match s.procs p with
    | .idle => s.setProc p (.running op {} (prog op))
    | .running _ _ _ => s
  | .step p => match s.procs p with
    | .idle => s
    | .running op past rest => s.advance p op past rest
  | .abort p => match s.procs p with
    | .idle => s
    | .running _ _ _ => s.ended p

/-! ## What holds of every running transaction -/

/-- `holds` is true of every transaction that is running. -/
def All (holds : Op → Trace D K → Tx D K ε (List E) → Prop) (s : Sys Op D K ε E) : Prop :=
  ∀ p op past rest, s.procs p = .running op past rest → holds op past rest

omit [DecidableEq K] in
theorem all_start (holds : Op → Trace D K → Tx D K ε (List E) → Prop) (db : D) :
    All holds (Sys.start db : Sys Op D K ε E) := by
  intro p op past rest h
  cases h

variable {s}

omit [DecidableEq K] in
theorem All.setProc (h : All holds s)
    (hproc : ∀ op past rest, proc = .running op past rest → holds op past rest) :
    All holds (s.setProc p proc) := by
  intro q op past rest hq
  simp only [Sys.setProc] at hq
  split at hq
  · exact hproc op past rest hq
  · exact h q op past rest hq

omit [DecidableEq K] in
theorem All.ended (h : All holds s) (p : Nat) : All holds (s.ended p) := by
  have hidle : All holds (s.setProc p .idle) :=
    h.setProc fun _ _ _ hrun => by cases hrun
  exact hidle

/-- What is true of a program at its start and is kept by a statement is true
of every transaction, and a step commits one of them or nothing. -/
theorem All.step (h : All holds s) (hstart : ∀ op, holds op {} (prog op))
    (hstmt : ∀ op past {V : Type} [DecidableEq V] about lock (query : D → V) write next db,
      holds op past (.stmt about lock query write next) →
      holds op (past.extend about query write (query (past.writes db)))
        (next (query (past.writes db)))) (act : Act Op) :
    All holds (s.step prog act) ∧
      (((s.step prog act).db = s.db ∧ (s.step prog act).log = s.log) ∨
        ∃ p op past effects, act = .step p ∧ s.procs p = .running op past (.done effects) ∧
          holds op past (.done effects) ∧ (s.step prog act).db = past.writes s.db ∧
          (s.step prog act).log = s.log ++ effects) := by
  cases act with simp only [Sys.step]
  | start p op =>
    cases hp : s.procs p with
    | idle =>
      refine ⟨h.setProc fun op' past rest heq => ?_, .inl ⟨rfl, rfl⟩⟩
      cases heq
      exact hstart op
    | running => exact ⟨h, .inl ⟨rfl, rfl⟩⟩
  | step p =>
    cases hp : s.procs p with
    | idle => exact ⟨h, .inl ⟨rfl, rfl⟩⟩
    | running op past rest =>
    have hrest := h p op past rest hp
    cases rest with
    | stmt about lock query write next =>
      simp only [Sys.advance]
      split
      · refine ⟨All.setProc h fun op' past' rest' heq => ?_, .inl ⟨rfl, rfl⟩⟩
        cases heq
        exact hstmt op past about lock query write next s.db hrest
      · exact ⟨h, .inl ⟨rfl, rfl⟩⟩
    | done effects =>
      exact ⟨h.ended p, .inr ⟨p, op, past, effects, rfl, hp, hrest, rfl, rfl⟩⟩
    | fail => exact ⟨h.ended p, .inl ⟨rfl, rfl⟩⟩
  | abort p =>
    cases hp : s.procs p with
    | idle => exact ⟨h, .inl ⟨rfl, rfl⟩⟩
    | running => exact ⟨h.ended p, .inl ⟨rfl, rfl⟩⟩

/-! ## Fresh interleavings are serial -/

variable {prog}

/-- From any database that gives its answers, the transaction alone would have
come as far as it has. -/
def Tracks (prog : Op → Tx D K ε (List E)) (op : Op) (past : Trace D K)
    (rest : Tx D K ε (List E)) : Prop :=
  ∀ db, past.freshOn (fun _ => true) db = true →
    (prog op).run db = rest.run (past.writes db)

omit [DecidableEq K] in
theorem Tracks.stmt {op} {past : Trace D K} {V : Type} [DecidableEq V]
    {about lock query} {write : V → D → D} {next} (db : D)
    (h : Tracks prog op past (.stmt about lock query write next)) :
    Tracks prog op (past.extend about query write (query (past.writes db)))
      (next (query (past.writes db))) := by
  intro db' hfrs
  obtain ⟨hfrs, hans⟩ := Trace.freshOn_extend.mp hfrs
  rw [h db' hfrs, ← hans rfl]
  rfl

omit [DecidableEq K] in
/-- **A fresh COMMIT is serial**: it is what the program does alone. -/
theorem All.commit (h : All (Tracks prog) s) (hproc : s.procs p = .running op past (.done effects))
    (hfrs : s.Fresh (.step p)) : (prog op).run s.db = .ok (effects, past.writes s.db) := by
  simp only [Fresh, FreshOn, hproc] at hfrs
  exact h p op past (.done effects) hproc s.db hfrs

/-- **The serial rule**: what the programs keep when each runs alone holds
after every fresh interleaving. -/
theorem serial_rule (inv : D → List E → Prop)
    (hserial : ∀ op db log effects db', (prog op).run db = .ok (effects, db') → inv db log →
      inv db' (log ++ effects)) {db acts} (hdb : inv db [])
    (h : Along (Sys.step prog) Sys.Fresh (Sys.start db) acts) :
    All (Tracks prog) (exec (Sys.step prog) (Sys.start db) acts) ∧
      inv (exec (Sys.step prog) (Sys.start db) acts).db
        (exec (Sys.step prog) (Sys.start db) acts).log := by
  refine Along.invariant (fun s => All (Tracks prog) s ∧ inv s.db s.log) ?_ ⟨all_start _ db, hdb⟩ h
  rintro s act ⟨htrace, hs⟩ hfrs
  obtain ⟨htrace', hsame | ⟨p, op, past, effects, rfl, hproc, -, hdb', hlog⟩⟩ :=
    htrace.step prog (fun op db _ => rfl)
      (fun op past _ _ about lock query write next db h => h.stmt db) act
  · rw [hsame.1, hsame.2]
    exact ⟨htrace', hs⟩
  have hrun := htrace.commit hproc hfrs
  rw [hlog, hdb']
  exact ⟨htrace', hserial op s.db s.log effects _ hrun hs⟩

end Sys

/-! ## Interleavings that are fresh on some rows -/

/-- Whatever the databases are that its statements meet, the program ends with
a trace and a result that satisfy `post`, or not at all. -/
def Every (post : Trace D K → α → Prop) : Tx D K ε α → Trace D K → Prop
  | @Tx.stmt _ _ _ _ _ _ about _ query write next, t =>
    ∀ db, Every post (next (query (t.writes db)))
      (t.extend about query write (query (t.writes db)))
  | .done a, t => post t a
  | .fail _, _ => True

section

variable {post post' : Trace D K → α → Prop} {t : Trace D K}

theorem every_bind {x post} :
    Every post (x >>= f) t ↔ Every (fun t' a => Every post (f a) t') x t := by
  induction x generalizing t with
  | stmt _ _ _ _ _ ih => exact forall_congr' fun db => ih _
  | done | fail => exact Iff.rfl

/-- Checks lead on only if they succeed. -/
theorem every_lift {y : Except ε α} :
    Every post (liftM y : Tx D K ε α) t ↔ ∀ a, y = .ok a → post t a := by
  cases y with
  | ok a =>
    refine ⟨fun h b hb => ?_, fun h => h a rfl⟩
    cases hb
    exact h
  | error =>
    refine ⟨fun _ b hb => ?_, fun _ => trivial⟩
    cases hb

theorem every_lift_bind {y : Except ε α} {post} :
    Every post (liftM y >>= f) t ↔ ∀ a, y = .ok a → Every post (f a) t :=
  every_bind.trans every_lift

end

/-- **The guarded rule**: an invariant that every COMMIT keeps which is fresh
on the watched rows holds after every interleaving with such COMMITs. -/
theorem guarded_rule [DecidableEq K]
    (post : Op → Trace D K → List E → Prop) (hprog : ∀ op, Every (post op) (prog op) {})
    (watch : Option K → Bool) (inv : D → List E → Prop)
    (hcomm : ∀ op t effects db log, post op t effects → t.freshOn watch db →
      inv db log → inv (t.writes db) (log ++ effects)) (hdb : inv db [])
    (h : Along (Sys.step prog) (Sys.FreshOn watch) (Sys.start db) acts) :
    inv (exec (Sys.step prog) (Sys.start db) acts).db
      (exec (Sys.step prog) (Sys.start db) acts).log := by
  have hall := Along.invariant (fun s => Sys.All (fun op past rest => Every (post op) rest past) s
    ∧ inv s.db s.log) ?_ ⟨Sys.all_start _ db, hdb⟩ h
  · exact hall.2
  rintro s act ⟨hevery, hs⟩ hfrs
  obtain ⟨hevery', hsame | ⟨p, op, past, effects, rfl, hproc, hpost, hdb', hlog⟩⟩ :=
    hevery.step prog hprog (fun op past _ _ about lock query write next db h => h db) act
  · rw [hsame.1, hsame.2]
    exact ⟨hevery', hs⟩
  rw [hlog, hdb']
  simp only [Sys.FreshOn, hproc] at hfrs
  exact ⟨hevery', hcomm op past effects s.db s.log hpost hfrs hs⟩

end HermesToken.Lib.Interleaving
