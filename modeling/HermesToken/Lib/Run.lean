import Mathlib.Data.List.Basic

/-!
# Runs of a step function

A system is a step function `step : σ → α → σ` over states and actions. A run
is a list of actions. Safety results are stated for the end state of EVERY
run, so they cover every state reached on the way.

`Along` is the notion of a run all of whose steps meet a condition in the
state they are taken in, and `Along.invariant` is the one induction that every
invariant of a development goes through.
-/

namespace HermesToken.Lib

variable {σ α : Type*} {s : σ} {acts : List α}

/-- The state after the actions `acts`, taken one after the other from `s`. -/
def exec (step : σ → α → σ) (s : σ) (acts : List α) : σ :=
  acts.foldl step s

section

variable (step : σ → α → σ) (s)

@[simp] theorem exec_nil : exec step s [] = s := rfl

@[simp] theorem exec_cons (a : α) (acts : List α) :
    exec step s (a :: acts) = exec step (step s a) acts := rfl

theorem exec_append (xs ys : List α) : exec step s (xs ++ ys) = exec step (exec step s xs) ys := by
  simp [exec, List.foldl_append]

end

/-- Every action of the run meets `ok` in the state it is taken in. -/
def Along (step : σ → α → σ) (ok : σ → α → Prop) : σ → List α → Prop
  | _, [] => True
  | s, a :: acts => ok s a ∧ Along step ok (step s a) acts

instance Along.decidable (step : σ → α → σ) (ok : σ → α → Prop)
    [hok : ∀ s a, Decidable (ok s a)] :
    ∀ s acts, Decidable (Along step ok s acts)
  | _, [] => isTrue trivial
  | s, a :: acts =>
      have : Decidable (Along step ok (step s a) acts) :=
        Along.decidable step ok (step s a) acts
      inferInstanceAs (Decidable (ok s a ∧ Along step ok (step s a) acts))

theorem along_append :
    Along step ok s (xs ++ ys) ↔ Along step ok s xs ∧ Along step ok (exec step s xs) ys := by
  induction xs generalizing s with
  | nil => simp [Along]
  | cons _ _ ih => simp [Along, ih, and_assoc]

theorem along_and :
    Along step (fun s a => ok s a ∧ ok' s a) s acts
      ↔ Along step ok s acts ∧ Along step ok' s acts := by
  induction acts generalizing s with
  | nil => simp [Along]
  | cons _ _ ih =>
    simp only [Along, ih]
    exact and_and_and_comm

theorem along_of_forall {ok : α → Prop} (h : ∀ a ∈ acts, ok a) :
    Along step (fun _ a => ok a) s acts := by
  induction acts generalizing s with
  | nil => trivial
  | cons a _ ih =>
    exact ⟨h a List.mem_cons_self, ih fun b hb => h b (List.mem_cons_of_mem _ hb)⟩

/-- **The run rule**: what every admitted step preserves holds at the end of
every admitted run. -/
theorem Along.invariant (inv : σ → Prop) (hstep : ∀ s a, inv s → ok s a → inv (step s a))
    (hs : inv s) (h : Along step ok s acts) : inv (exec step s acts) := by
  induction acts generalizing s with
  | nil => exact hs
  | cons a _ ih => exact ih (hstep s a hs h.1) h.2

/-- The run rule without a condition on the steps. -/
theorem exec_invariant (inv : σ → Prop) (hstep : ∀ s a, inv s → inv (step s a)) (hs : inv s)
    (acts : List α) : inv (exec step s acts) := by
  induction acts generalizing s with
  | nil => exact hs
  | cons a _ ih => exact ih (hstep s a hs)

/-! ## Endless runs -/

/-- The states of the endless run of the actions `acts`. -/
def stream (step : σ → α → σ) (s : σ) (acts : ℕ → α) : ℕ → σ
  | 0 => s
  | n + 1 => step (stream step s acts n) (acts n)

theorem stream_invariant (inv : σ → Prop) {acts : ℕ → α} (hs : inv s)
    (hstep : ∀ n, inv (stream step s acts n) → inv (step (stream step s acts n) (acts n))) :
    ∀ n, inv (stream step s acts n) := by
  intro n
  induction n with
  | zero => exact hs
  | succ n ih => exact hstep n ih

/-- **The progress rule**: from some point on a rank never grows, and again and
again it falls or the goal is there. Then the goal is reached. -/
theorem eventually_of_progress {run : ℕ → σ} (rank : σ → ℕ) (goal : σ → Prop) (start : ℕ)
    (hle : ∀ n, start ≤ n → rank (run (n + 1)) ≤ rank (run n))
    (hprog : ∀ n, start ≤ n → ∃ m, n ≤ m ∧ (goal (run m) ∨ rank (run (m + 1)) < rank (run m))) :
    ∃ n, start ≤ n ∧ goal (run n) := by
  have hmono : ∀ n, start ≤ n → ∀ k, rank (run (n + k)) ≤ rank (run n) := by
    intro n hn k
    induction k with
    | zero => exact Nat.le_refl _
    | succ k ih => exact Nat.le_trans (hle (n + k) (by omega)) ih
  -- induction on the rank that is left
  have hall : ∀ r n, start ≤ n → rank (run n) ≤ r → ∃ m, start ≤ m ∧ goal (run m) := by
    intro r
    induction r with
    | zero =>
      intro n hn hr
      obtain ⟨m, hm, hgoal | hlt⟩ := hprog n hn
      · exact ⟨m, by omega, hgoal⟩
      have := hmono n hn (m - n)
      rw [show n + (m - n) = m by omega] at this
      omega
    | succ _ ih =>
      intro n hn hr
      obtain ⟨m, hm, hgoal | hlt⟩ := hprog n hn
      · exact ⟨m, by omega, hgoal⟩
      have := hmono n hn (m - n)
      rw [show n + (m - n) = m by omega] at this
      exact ih (m + 1) (by omega) (by omega)
  exact hall (rank (run start)) start (Nat.le_refl _) (Nat.le_refl _)

end HermesToken.Lib
