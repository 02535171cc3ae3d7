import HermesToken.Lib.Guard

/-!
# Transactions as programs of statements

A transaction is a program of SQL statements. A statement queries what the
transaction sees, writes depending on the answer, and the program goes on with
the answer; at its end it commits with a result or fails with an error. One
constructor covers the kinds of statement: a SELECT writes nothing, an UPDATE
asks for nothing, a conditional UPDATE and an INSERT under a unique index do
both. A statement can name the row its answer is about, and the row it locks.

`run` executes the program alone. `HermesToken.Lib.Interleaving` executes many
of them at once, statement by statement.
-/

namespace HermesToken.Lib

variable {V : Type}

/-- Programs over the database `D` with rows `K` and errors `ε`. -/
inductive Tx (D K ε α : Type) : Type 1 where
  | stmt {V : Type} [DecidableEq V] (about lock : Option K) (query : D → V)
      (write : V → D → D) (next : V → Tx D K ε α)
  | done (a : α)
  | fail (e : ε)

namespace Tx

variable {D K ε α β : Type}

def bind : Tx D K ε α → (α → Tx D K ε β) → Tx D K ε β
  | @stmt _ _ _ _ _ _ about lock query write next, f =>
    stmt about lock query write fun v => (next v).bind f
  | .done a, f => f a
  | .fail e, _ => .fail e

instance : Monad (Tx D K ε) where
  pure := .done
  bind := Tx.bind

/-- Checks that need no statement. -/
def lift : Except ε α → Tx D K ε α
  | .ok a => .done a
  | .error e => .fail e

instance : MonadLift (Except ε) (Tx D K ε) where
  monadLift := lift

/-- A SELECT. It takes no lock, with or without `FOR UPDATE`. -/
def select {V : Type} [DecidableEq V] (query : D → V) : Tx D K ε V :=
  .stmt none none query (fun _ => id) .done

def read {V : Type} [DecidableEq V] (row : K) (query : D → V) : Tx D K ε V :=
  .stmt (some row) none query (fun _ => id) .done

/-- An UPDATE, or a save of a row. -/
def update (lock : K) (write : D → D) : Tx D K ε Unit :=
  .stmt none (some lock) (fun _ => ()) (fun _ => write) .done

/-- An INSERT under a key that the table assigns. It waits for nobody. -/
def insert (write : D → D) : Tx D K ε Unit :=
  .stmt none none (fun _ => ()) (fun _ => write) .done

/-- An INSERT that answers the key it gets. -/
def create {V : Type} [DecidableEq V] (key : D → V) (write : D → D) : Tx D K ε V :=
  .stmt none none key (fun _ => write) .done

/-- An UPDATE of the rows that meet a condition: whether there were any. -/
def updateWhere (lock : K) (cond : D → Bool) (write : D → D) : Tx D K ε Bool :=
  .stmt none (some lock) cond (fun met => if met then write else id) .done

/-- A statement that the database or a hook can refuse: an INSERT under a
unique index, a save of a row that is validated. -/
def attempt [DecidableEq ε] (lock : K) (write : D → Except ε D) : Tx D K ε Unit :=
  .stmt none (some lock) (fun db => match write db with | .ok _ => none | .error e => some e)
    (fun refused db => match refused with | none => (write db).toOption.getD db | some _ => db)
    fun refused => match refused with | none => .done () | some e => .fail e

/-- The program on its own. -/
def run : Tx D K ε α → D → Except ε (α × D)
  | @stmt _ _ _ _ _ _ _ _ query write next, db => (next (query db)).run (write (query db) db)
  | .done a, db => .ok (a, db)
  | .fail e, _ => .error e

section

variable {f : α → Tx D K ε β} {db : D}

theorem run_bind (x : Tx D K ε α) (f : α → Tx D K ε β) (db : D) :
    (x >>= f).run db = x.run db >>= fun r => (f r.1).run r.2 := by
  induction x generalizing db with
  | stmt _ _ query write _ ih => exact ih (query db) (write (query db) db)
  | done | fail => rfl

theorem run_bind_of_ok (h : x.run db = .ok (a, db')) (f : α → Tx D K ε β) :
    (x >>= f).run db = (f a).run db' := by
  rw [run_bind, h]
  rfl

theorem run_bind_of_error (h : x.run db = .error e) (f : α → Tx D K ε β) :
    (x >>= f).run db = .error e := by
  rw [run_bind, h]
  rfl

@[simp] theorem run_pure (a : α) (db : D) : (pure a : Tx D K ε α).run db = .ok (a, db) := rfl

@[simp] theorem run_fail (db : D) : (.fail e : Tx D K ε α).run db = .error e := rfl

@[simp] theorem run_lift (y : Except ε α) (db : D) :
    (liftM y : Tx D K ε α).run db = y.map fun a => (a, db) := by
  cases y <;> rfl

@[simp] theorem run_select [DecidableEq V] (query : D → V) (db : D) :
    (select query : Tx D K ε V).run db = .ok (query db, db) := rfl

@[simp] theorem run_update (lock : K) (write : D → D) (db : D) :
    (update lock write : Tx D K ε Unit).run db = .ok ((), write db) := rfl

@[simp] theorem run_insert (write : D → D) (db : D) :
    (insert write : Tx D K ε Unit).run db = .ok ((), write db) := rfl

@[simp] theorem run_updateWhere (lock : K) (cond : D → Bool) (write : D → D) (db : D) :
    (updateWhere lock cond write : Tx D K ε Bool).run db =
      .ok (cond db, if cond db then write db else db) := by
  unfold updateWhere
  simp only [run]
  cases cond db <;> rfl

@[simp] theorem run_attempt [DecidableEq ε] (lock : K) (write : D → Except ε D) (db : D) :
    (attempt lock write : Tx D K ε Unit).run db = (write db).map fun db' => ((), db') := by
  unfold attempt
  simp only [run]
  cases write db <;> rfl

/-! ## What a successful run has passed -/

@[simp] theorem run_bind_ok :
    (x >>= f).run db = .ok r ↔ ∃ a db₁, x.run db = .ok (a, db₁) ∧ (f a).run db₁ = .ok r := by
  rw [run_bind, seq_ok]
  constructor
  · rintro ⟨⟨a, db₁⟩, hx, hf⟩
    exact ⟨a, db₁, hx, hf⟩
  · rintro ⟨a, db₁, hx, hf⟩
    exact ⟨(a, db₁), hx, hf⟩

@[simp] theorem run_lift_bind_ok {y : Except ε α} :
    ((liftM y : Tx D K ε α) >>= f).run db = .ok r ↔ ∃ a, y = .ok a ∧ (f a).run db = .ok r := by
  cases y with
  | error =>
    constructor
    · intro h
      cases h
    · rintro ⟨a, h, -⟩
      cases h
  | ok a =>
    constructor
    · intro h
      exact ⟨a, rfl, h⟩
    · rintro ⟨a, ⟨⟩, h⟩
      exact h

@[simp] theorem run_select_bind [DecidableEq V] (query : D → V) (f : V → Tx D K ε β) :
    (select query >>= f).run db = (f (query db)).run db := rfl

@[simp] theorem run_read_bind [DecidableEq V] (row : K) (query : D → V) (f : V → Tx D K ε β) :
    (read row query >>= f).run db = (f (query db)).run db := rfl

@[simp] theorem run_update_bind {f : Unit → Tx D K ε β} :
    (update lock write >>= f).run db = (f ()).run (write db) := rfl

@[simp] theorem run_insert_bind {f : Unit → Tx D K ε β} :
    (insert write >>= f).run db = (f ()).run (write db) := rfl

@[simp] theorem run_create_bind [DecidableEq V] {f : V → Tx D K ε β} :
    (create key write >>= f).run db = (f (key db)).run (write db) := rfl

@[simp] theorem run_attempt_bind_ok [DecidableEq ε] {f : Unit → Tx D K ε β} :
    (attempt lock write >>= f).run db = .ok r ↔
      ∃ db₁, write db = .ok db₁ ∧ (f ()).run db₁ = .ok r := by
  rw [run_bind, run_attempt]
  cases write db with
  | error =>
    constructor
    · intro h
      cases h
    · rintro ⟨db₁, h, -⟩
      cases h
  | ok db₁ =>
    constructor
    · intro h
      exact ⟨db₁, rfl, h⟩
    · rintro ⟨db₂, ⟨⟩, h⟩
      exact h

end

/-! ## Errors -/

theorem run_bind_error {x : Tx D K ε α} {f : α → Tx D K ε β} (h : (x >>= f).run db = .error e) :
    x.run db = .error e ∨ ∃ a db₁, x.run db = .ok (a, db₁) ∧ (f a).run db₁ = .error e := by
  rw [run_bind] at h
  rcases seq_error h with hx | ⟨⟨a, db₁⟩, hx, hf⟩
  · exact .inl hx
  · exact .inr ⟨a, db₁, hx, hf⟩

/-! ## What every statement keeps to -/

/-- No statement of the program writes what `view` shows, and whatever the databases
are that its statements meet, an error of the program is an allowed one. -/
def Within {γ : Type*} (view : D → γ) (allowed : ε → Prop) : Tx D K ε α → Prop
  | @stmt _ _ _ _ _ _ _ _ query write next =>
    (∀ v db, view (write v db) = view db) ∧ ∀ db, (next (query db)).Within view allowed
  | .done _ => True
  | .fail e => allowed e

/-- What `view` shows is left alone. -/
abbrev Frames {γ : Type*} (view : D → γ) (x : Tx D K ε α) : Prop := x.Within view fun _ => True

abbrev Raises (allowed : ε → Prop) (x : Tx D K ε α) : Prop := x.Within (fun _ => ()) allowed

section

variable {γ : Type*} {view : D → γ} {allowed : ε → Prop} {x : Tx D K ε α} {f : α → Tx D K ε β}

theorem Within.bind (hx : x.Within view allowed) (hf : ∀ a, (f a).Within view allowed) :
    (x >>= f).Within view allowed := by
  induction x with
  | stmt _ _ _ _ _ ih => exact ⟨hx.1, fun db => ih _ (hx.2 db)⟩
  | done a => exact hf a
  | fail => exact hx

theorem Within.ite {p : Prop} [Decidable p] (hx : x.Within view allowed)
    (hy : y.Within view allowed) : (if p then x else y).Within view allowed := by
  split
  · exact hx
  · exact hy

theorem within_pure : (pure a : Tx D K ε α).Within view allowed := trivial

theorem within_fail (h : allowed e) : (.fail e : Tx D K ε α).Within view allowed := h

theorem within_select [DecidableEq V] :
    (select query : Tx D K ε V).Within view allowed := ⟨fun _ _ => rfl, fun _ => trivial⟩

theorem within_read [DecidableEq V] :
    (read row query : Tx D K ε V).Within view allowed := ⟨fun _ _ => rfl, fun _ => trivial⟩

theorem within_lift (h : ErrorsIn allowed y) : (liftM y : Tx D K ε α).Within view allowed := by
  cases y with
  | error e => exact h e rfl
  | ok => trivial

theorem frames_lift (y : Except ε α) : (liftM y : Tx D K ε α).Frames view :=
  within_lift fun _ _ => trivial

theorem within_require {p : Prop} [Decidable p] (h : ¬ p → allowed e) :
    (liftM (require p e : Except ε Unit) : Tx D K ε Unit).Within view allowed :=
  within_lift (errorsIn_require h)

theorem Within.require {p : Prop} [Decidable p] (h : allowed e) (hy : y.Within view allowed) :
    (liftM (Lib.require p e : Except ε Unit) >>= fun _ => y : Tx D K ε α).Within view allowed :=
  (within_require fun _ => h).bind fun _ => hy

theorem within_found (h : allowed e) : (liftM (found a e) : Tx D K ε α).Within view allowed :=
  within_lift (errorsIn_found h)

theorem within_update (h : ∀ db, view (write db) = view db) :
    (update lock write : Tx D K ε Unit).Within view allowed := ⟨fun _ => h, fun _ => trivial⟩

theorem within_insert (h : ∀ db, view (write db) = view db) :
    (insert write : Tx D K ε Unit).Within view allowed := ⟨fun _ => h, fun _ => trivial⟩

theorem within_create [DecidableEq V] (h : ∀ db, view (write db) = view db) :
    (create key write : Tx D K ε V).Within view allowed := ⟨fun _ => h, fun _ => trivial⟩

theorem within_updateWhere {lock cond write} (h : ∀ db, view (write db) = view db) :
    (updateWhere lock cond write : Tx D K ε Bool).Within view allowed := by
  refine ⟨fun met db => ?_, fun _ => trivial⟩
  cases met
  · rfl
  · exact h db

theorem within_attempt [DecidableEq ε] (h : ∀ db db', write db = .ok db' → view db' = view db)
    (he : ∀ db e, write db = .error e → allowed e) :
    (attempt lock write : Tx D K ε Unit).Within view allowed := by
  refine ⟨fun refused db => ?_, fun db => ?_⟩
  · cases refused with
    | some => rfl
    | none =>
      cases hwrite : write db with
      | error => simp [hwrite, Except.toOption]
      | ok db' =>
        simp only [hwrite, Except.toOption, Option.getD_some]
        exact h db db' hwrite
  · dsimp only
    cases hwrite : write db with
    | error e => exact he db e hwrite
    | ok => trivial

/-- **The frame rule** for a program that runs alone. -/
theorem Within.run (h : x.Within view allowed)
    (hrun : x.run db = .ok (a, db')) : view db' = view db := by
  induction x generalizing db with
  | stmt _ _ query _ _ ih =>
    rw [ih (query db) (h.2 db) hrun]
    exact h.1 (query db) db
  | done =>
    cases hrun
    rfl
  | fail => cases hrun

theorem Raises.run (h : x.Raises allowed) (hrun : x.run db = .error e) :
    allowed e := by
  induction x generalizing db with
  | stmt _ _ _ _ _ ih => exact ih _ (h.2 db) hrun
  | done => cases hrun
  | fail =>
    cases hrun
    exact h

end

-- it is proved by its rules; nothing may unfold a program to see it
attribute [irreducible] Within

end Tx

end HermesToken.Lib
