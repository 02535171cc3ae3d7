import HermesToken.Lib.KeyedSum

/-!
# Maps of counters

A map from keys to numbers in which a key that is not there counts as zero.
Amounts are added under a key, and the entries are listed with every key once,
in no particular order.
-/

namespace HermesToken.Lib

variable {K : Type*} [DecidableEq K]

structure Counters (K : Type*) where
  entries : List (K × Int) := []
  nodup : (entries.map Prod.fst).Nodup := by simp

namespace Counters

def value (s : Counters K) (k : K) : Int :=
  ((s.entries.find? (·.1 = k)).map (·.2)).getD 0

def add (s : Counters K) (k : K) (v : Int) : Counters K :=
  match h : s.entries.find? (·.1 = k) with
  | none =>
    { entries := s.entries ++ [(k, v)]
      nodup := by
        rw [List.map_append]
        refine List.nodup_append.mpr ⟨s.nodup, List.nodup_singleton _, fun a ha b hb => ?_⟩
        obtain ⟨e, he, rfl⟩ := List.mem_map.mp ha
        rw [List.mem_singleton.mp hb]
        simpa using List.find?_eq_none.mp h e he }
  | some (_, old) =>
    { entries := saveRow Prod.fst (k, old + v) s.entries
      nodup := by
        rw [map_key_saveRow]
        exact s.nodup }

def keys (s : Counters K) : List K := s.entries.map Prod.fst

@[simp] theorem value_empty (k : K) : ({} : Counters K).value k = 0 := rfl

variable (s : Counters K)

theorem value_add (k j : K) (v : Int) :
    (s.add k v).value j = s.value j + if k = j then v else 0 := by
  unfold add
  split
  · rename_i h
    simp only [value, find?_append_row]
    by_cases hk : k = j
    · subst hk
      simp [h]
    · simp [hk]
  rename_i h
  simp only [value, find?_saveRow]
  by_cases hk : k = j
  · subst hk
    simp [h]
  · simp [hk]

theorem keyedSum_entries (k : K) : keyedSum Prod.fst Prod.snd k s.entries = s.value k := by
  obtain ⟨entries, hnodup⟩ := s
  unfold value
  induction entries with
  | nil => rfl
  | cons e entries ih =>
  obtain ⟨hnotin, hrest⟩ := List.nodup_cons.mp hnodup
  rw [keyedSum_cons]
  by_cases hk : e.1 = k
  · have hzero : keyedSum Prod.fst Prod.snd k entries = 0 := by
      refine keyedSum_eq_zero fun a ha hkey => hnotin ?_
      rw [hk, ← hkey]
      exact List.mem_map_of_mem ha
    rw [if_pos hk, hzero, List.find?_cons_of_pos (by simpa using hk)]
    simp
  · rw [if_neg hk, ih hrest, List.find?_cons_of_neg (by simpa using hk), Int.zero_add]

theorem value_of_not_mem (h : k ∉ s.keys) : s.value k = 0 := by
  rw [← keyedSum_entries]
  exact keyedSum_eq_zero fun e he hkey => h (hkey ▸ List.mem_map_of_mem he)

/-- A list that has every key with a value once gives each value once. -/
theorem keyedSum_value (hnodup : ks.Nodup) (hkeys : ∀ k ∈ s.keys, k ∈ ks) (k : K) :
    keyedSum (fun j => j) s.value k ks = s.value k := by
  have hmem : ∀ {l : List K}, l.Nodup →
      keyedSum (fun j => j) s.value k l = if k ∈ l then s.value k else 0 := by
    intro l hl
    induction l with
    | nil => rfl
    | cons j _ ih =>
    obtain ⟨hnotin, hrest⟩ := List.nodup_cons.mp hl
    rw [keyedSum_cons, ih hrest]
    by_cases hj : j = k
    · subst hj
      simp [hnotin]
    · simp [hj, Ne.symm hj]
  rw [hmem hnodup]
  split
  · rfl
  · rename_i hk
    exact (s.value_of_not_mem fun hmem => hk (hkeys k hmem)).symm

end Counters

end HermesToken.Lib
