import Mathlib.Data.Nat.Basic

/-!
# Paid at most once

Many workers may finish an entry of a table and whoever does is paid for it.
The abstract table has the status of each key and how often the key was paid
for, payments that are still due included. A step either keeps a key or WINS
it: a winning step finds the key unfinished and leaves it finished. As long as
only a winner is paid, nothing is paid twice.
-/

namespace HermesToken.Lib

structure PaidTable (K S : Type*) where
  status : K → Option S
  paid : K → ℕ

namespace PaidTable

variable {K S : Type*} (final : S → Bool)

/-- The key is not paid for, and keeps its status if that is final. -/
structure Keeps (v v' : PaidTable K S) (k : K) : Prop where
  paid : v'.paid k ≤ v.paid k
  status : ∀ s, v.status k = some s → final s = true → v'.status k = some s

/-- The key is finished by this step, and paid for once at most. -/
structure Wins (v v' : PaidTable K S) (k : K) : Prop where
  unfinished : ∀ s, v.status k = some s → final s = false
  paid : v'.paid k ≤ v.paid k + 1
  finished : ∃ s, v'.status k = some s ∧ final s = true

def Step (v v' : PaidTable K S) : Prop := ∀ k, Keeps final v v' k ∨ Wins final v v' k

/-- No key was paid for twice, and only finished ones were paid for. -/
structure Once (v : PaidTable K S) : Prop where
  le_one : ∀ k, v.paid k ≤ 1
  finished : ∀ k, 0 < v.paid k → ∃ s, v.status k = some s ∧ final s = true

variable {final}

theorem Keeps.refl (v : PaidTable K S) (k : K) : Keeps final v v k :=
  ⟨Nat.le_refl _, fun _ h _ => h⟩

theorem Once.step (h : Once final v) (hstep : Step final v v') : Once final v' := by
  constructor
  · intro k
    rcases hstep k with hkps | hwins
    · exact Nat.le_trans hkps.paid (h.le_one k)
    -- a key that can be won was never paid for
    have hzero : v.paid k = 0 := by
      by_contra hne
      obtain ⟨s, hs, hfin⟩ := h.finished k (Nat.pos_of_ne_zero hne)
      rw [hwins.unfinished s hs] at hfin
      cases hfin
    have hle := hwins.paid
    rwa [hzero] at hle
  intro k hpos
  rcases hstep k with hkps | hwins
  · obtain ⟨s, hs, hfin⟩ := h.finished k (Nat.lt_of_lt_of_le hpos hkps.paid)
    exact ⟨s, hkps.status s hs hfin, hfin⟩
  · exact hwins.finished

theorem Step.status_final (hstep : Step final v v') (hs : v.status k = some s)
    (hfin : final s) : v'.status k = some s := by
  rcases hstep k with hkps | hwins
  · exact hkps.status s hs hfin
  · rw [hwins.unfinished s hs] at hfin
    cases hfin

end PaidTable

end HermesToken.Lib
