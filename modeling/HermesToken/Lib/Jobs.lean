import Mathlib.Data.List.Perm.Basic

/-!
# Work that is left to do

Concurrent workers are modelled by ONE list of jobs: each entry is something
that some worker has still to do. A step takes any entry out, does it and puts
what follows from it into the list, so a run takes the jobs in any order, and
the order of each worker's own program is one of them.
-/

namespace HermesToken.Lib

variable {J : Type*} {jobs rest : List J} {job : J} {k : ℕ}

/-- The job at a position, and the jobs without it. -/
def takeJob (k : ℕ) (jobs : List J) : Option (J × List J) :=
  jobs[k]?.map fun job => (job, jobs.eraseIdx k)

variable (h : takeJob k jobs = some (job, rest))
include h

theorem takeJob_perm : (job :: rest).Perm jobs := by
  simp only [takeJob, Option.map_eq_some_iff, Prod.mk.injEq] at h
  obtain ⟨job', hget, rfl, rfl⟩ := h
  obtain ⟨hlt, rfl⟩ := List.getElem?_eq_some_iff.mp hget
  exact List.getElem_cons_eraseIdx_perm hlt

theorem countP_takeJob (p : J → Bool) : jobs.countP p = rest.countP p + if p job then 1 else 0 := by
  rw [← (takeJob_perm h).countP_eq, List.countP_cons]

theorem mem_of_takeJob : job ∈ jobs :=
  (takeJob_perm h).mem_iff.mp List.mem_cons_self

theorem mem_of_mem_rest (hmem : other ∈ rest) : other ∈ jobs :=
  (takeJob_perm h).mem_iff.mp (List.mem_cons_of_mem _ hmem)

end HermesToken.Lib
