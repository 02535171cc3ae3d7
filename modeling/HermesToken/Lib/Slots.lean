import HermesToken.Lib.KeyedSum

/-!
# Counters of slots in use

A counter per key says how many slots of the key are in use, and a list of
holders says who has taken one and not given it back. The counter is COUNTED
when it agrees with the holders, up to a part that other holders account for.
A holder's move either keeps its slot, if it has one, or gives it back; a
counter that is decremented is never brought below zero. A slot once given
back STAYS given back.
-/

namespace HermesToken.Lib

variable {H K : Type*} [DecidableEq K]

/-- How a holder is read. -/
structure SlotRule (H K : Type*) where
  key : H → K
  holds : H → Bool

/-- The slots of the key that the holders have. -/
def SlotRule.inUse (p : SlotRule H K) (k : K) (l : List H) : Int :=
  keyedSum p.key (fun h => if p.holds h then 1 else 0) k l

/-- One fewer, but not below zero. -/
def freed (n : Int) : Int := if n > 0 then n - 1 else n

/-- A slot of `k₀` is taken. -/
def Takes (k₀ : K) (c c' : K → Int) : Prop :=
  ∀ k, c' k = c k + if k₀ = k then 1 else 0

/-- A slot of `k₀` is given back. -/
def Frees (k₀ : K) (c c' : K → Int) : Prop :=
  ∀ k, c' k = if k₀ = k then freed (c k) else c k

/-- What a call of a holder of `k₀` does. -/
inductive SlotMove (k₀ : K) (holds holds' : Bool) (c c' : K → Int) : Prop
  | kept (same : holds' = holds) (counter : c' = c)
  | given (had : holds = true) (gave : holds' = false) (counter : Frees k₀ c c')

/-- The counter agrees with the holders and the rest. -/
def Counted (p : SlotRule H K) (c rest : K → Int) (l : List H) : Prop :=
  ∀ k, c k = p.inUse k l + rest k

/-- The holders of `l` are still there in `l'`, and none of them took a slot
again. -/
def SlotRule.Stays (p : SlotRule H K) (l l' : List H) : Prop :=
  ∀ (i : Nat) (h : H), l[i]? = some h →
    ∃ h', l'[i]? = some h' ∧ p.key h' = p.key h ∧ (p.holds h = false → p.holds h' = false)

variable {p : SlotRule H K} {c c' rest : K → Int} {l l' : List H} {h h' : H} {i : Nat}

theorem SlotRule.inUse_nonneg (p : SlotRule H K) (k : K) (l : List H) : 0 ≤ p.inUse k l := by
  refine keyedSum_nonneg fun h _ _ => ?_
  split <;> decide

/-- A slot that was given back is not taken again. -/
theorem SlotMove.given_stays (hmove : SlotMove k₀ holds holds' c c')
    (hgiven : holds = false) : holds' = false := by
  cases hmove with
  | kept same => exact same.trans hgiven
  | given had =>
    rw [hgiven] at had
    cases had

namespace SlotRule.Stays

omit [DecidableEq K] in
theorem refl (p : SlotRule H K) (l : List H) : p.Stays l l := fun _ h hi => ⟨h, hi, rfl, id⟩

omit [DecidableEq K] in
theorem trans (hfst : p.Stays l l') (hthen : p.Stays l' l'') : p.Stays l l'' := by
  intro i h hi
  obtain ⟨h₁, hi₁, hkey₁, hgiven₁⟩ := hfst i h hi
  obtain ⟨h₂, hi₂, hkey₂, hgiven₂⟩ := hthen i h₁ hi₁
  exact ⟨h₂, hi₂, hkey₂.trans hkey₁, fun hgiven => hgiven₂ (hgiven₁ hgiven)⟩

omit [DecidableEq K] in
theorem join (p : SlotRule H K) (l : List H) (h : H) : p.Stays l (l ++ [h]) := by
  intro j h₀ hj
  have hlt : j < l.length := (List.getElem?_eq_some_iff.mp hj).1
  exact ⟨h₀, (List.getElem?_append_left hlt).trans hj, rfl, id⟩

theorem move (hi : l[i]? = some h) (hkey : p.key h' = p.key h)
    (hmove : SlotMove (p.key h) (p.holds h) (p.holds h') c c') : p.Stays l (l.set i h') := by
  intro j h₀ hj
  by_cases hij : i = j
  · subst hij
    obtain rfl := Option.some.inj (hi.symm.trans hj)
    have hlt : i < l.length := (List.getElem?_eq_some_iff.mp hj).1
    exact ⟨h', List.getElem?_set_self hlt, hkey, hmove.given_stays⟩
  · exact ⟨h₀, (List.getElem?_set_ne hij).trans hj, rfl, id⟩

end SlotRule.Stays

theorem Counted.take (hc : Counted p c rest l) (hheld : p.holds h)
    (htakes : Takes (p.key h) c c') : Counted p c' rest (l ++ [h]) := by
  intro k
  rw [htakes k, hc k]
  simp only [SlotRule.inUse, keyedSum_append, keyedSum_cons, keyedSum_nil, hheld, if_true]
  omega

/-- **A move** of one holder keeps the counter counted. -/
theorem Counted.move (hc : Counted p c rest l) (hrest : ∀ k, 0 ≤ rest k) (hi : l[i]? = some h)
    (hkey : p.key h' = p.key h) (hmove : SlotMove (p.key h) (p.holds h) (p.holds h') c c') :
    Counted p c' rest (l.set i h') := by
  intro k
  have hset : p.inUse k (l.set i h') = p.inUse k l + if p.key h = k then
      (if p.holds h' then 1 else 0) - (if p.holds h then 1 else 0) else 0 :=
    keyedSum_set hi hkey
  cases hmove with
  | kept same counter =>
    rw [counter, hc k]
    simp only [hset, same, sub_self, ite_self, add_zero]
  | given had gave counter =>
  rw [counter k, hc k]
  by_cases hk : p.key h = k
  · -- the holder itself is counted, so there is something to give back
    have hin : 1 ≤ p.inUse k l := by
      have hle : (if p.holds h then 1 else 0) ≤ p.inUse k l :=
        le_keyedSum (fun h _ _ => by split <;> decide) (List.mem_of_getElem? hi) hk
      rwa [had] at hle
    have := hrest k
    rw [if_pos hk, freed, hset, if_pos hk, had, gave]
    simp only [Bool.false_eq_true, if_false, if_true]
    omega
  · rw [if_neg hk, hset, if_neg hk, add_zero]

/-- The rest can be counted by holders of its own. -/
theorem Counted.swap {H' : Type*} {p' : SlotRule H' K} {l'}
    (hc : Counted p c (fun k => p'.inUse k l') l) : Counted p' c (fun k => p.inUse k l) l' := by
  intro k
  rw [hc k, add_comm]

end HermesToken.Lib
