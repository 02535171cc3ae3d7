import Mathlib.Data.Finset.Card

/-!
# Chains of parents

Every node has at most one parent, `next`. The graph is acyclic when nobody is
their own ancestor. `trail` follows the parents as a loop does, with fuel, and
on an acyclic graph it comes to an end and meets no node twice.

A graph changes by one node at a time: `Acyclic.repoint` covers a node that is
cut off, a new one and one that gets another parent.
-/

namespace HermesToken.Lib

open Relation

variable {α : Type*} {fuel : Nat} {a b : α}

/-- `b` is the parent of `a`. -/
def HasParent (next : α → Option α) (a b : α) : Prop := next a = some b

/-- Following the parents never leads back. -/
def Acyclic (next : α → Option α) : Prop := ∀ a, ¬ TransGen (HasParent next) a a

/-- The nodes from `a` on, if the chain ends within the fuel. -/
def trail (next : α → Option α) : Nat → α → Option (List α)
  | 0, _ => none
  | fuel + 1, a => match next a with
    | none => some [a]
    | some b => (trail next fuel b).map (a :: ·)

variable {next next' : α → Option α}

/-! ## Changing one node -/

section

variable {x : α} (hrest : ∀ a b, a ≠ x → next' a = some b → next a = some b)

include hrest

/-- A path to `x` does not use the edge that leaves `x`. -/
theorem path_to_repointed (h : ReflTransGen (HasParent next') a x) :
    ReflTransGen (HasParent next) a x := by
  induction h using ReflTransGen.head_induction_on with
  | refl => exact .refl
  | @head u v hab _ ih =>
    by_cases hu : u = x
    · rw [hu]
    · exact .head (hrest u v hu hab) ih

/-- A path is one of the old graph, or it comes through `x`. -/
theorem path_through_repointed (h : TransGen (HasParent next') a b) :
    TransGen (HasParent next) a b ∨
      (ReflTransGen (HasParent next') a x ∧ TransGen (HasParent next') x b) := by
  induction h using TransGen.head_induction_on with
  | @single u hab =>
    by_cases hu : u = x
    · subst hu
      exact .inr ⟨.refl, .single hab⟩
    · exact .inl (.single (hrest u b hu hab))
  | @head u v hac hcb ih =>
    by_cases hu : u = x
    · subst hu
      exact .inr ⟨.refl, .head hac hcb⟩
    rcases ih with hold | ⟨htox, hfromx⟩
    · exact .inl (.head (hrest u v hu hac) hold)
    · exact .inr ⟨.head hac htox, hfromx⟩

/-- **One node gets another parent**: no cycle appears if the new parent does
not descend from the node. -/
theorem Acyclic.repoint (h : Acyclic next)
    (hnew : ∀ y, next' x = some y → ¬ ReflTransGen (HasParent next) y x) : Acyclic next' := by
  intro a hcycle
  have hx : TransGen (HasParent next') x x := by
    rcases path_through_repointed hrest hcycle with hold | ⟨htox, hfromx⟩
    · exact absurd hold (h a)
    · exact hfromx.trans_left htox
  obtain ⟨y, hxy, hyx⟩ := TransGen.head'_iff.mp hx
  exact hnew y hxy (path_to_repointed hrest hyx)

end

/-! ## Following the chain -/

theorem trail_succ_none (h : next a = none) : trail next (fuel + 1) a = some [a] := by
  simp only [trail, h]

theorem trail_succ_some (h : next a = some b) :
    trail next (fuel + 1) a = (trail next fuel b).map (a :: ·) := by
  simp only [trail, h]

theorem path_of_mem_trail (h : trail next fuel a = some nodes) (hb : b ∈ nodes) :
    ReflTransGen (HasParent next) a b := by
  induction fuel generalizing a nodes with
  | zero => cases h
  | succ fuel ih =>
  cases hnext : next a with
  | none =>
    rw [trail_succ_none hnext] at h
    cases h
    rw [List.mem_singleton.mp hb]
  | some c =>
    rw [trail_succ_some hnext] at h
    obtain ⟨rest, hrest, rfl⟩ := Option.map_eq_some_iff.mp h
    rcases List.mem_cons.mp hb with rfl | hb
    · exact .refl
    · exact .head hnext (ih hrest hb)

theorem mem_trail_of_path (h : trail next fuel a = some nodes)
    (hpath : ReflTransGen (HasParent next) a b) : b ∈ nodes := by
  induction hpath using ReflTransGen.head_induction_on generalizing fuel nodes with
  | refl =>
    cases fuel with
    | zero => cases h
    | succ =>
    cases hnext : next b with
    | none =>
      rw [trail_succ_none hnext] at h
      cases h
      exact List.mem_singleton.mpr rfl
    | some =>
      rw [trail_succ_some hnext] at h
      obtain ⟨rest, -, rfl⟩ := Option.map_eq_some_iff.mp h
      exact List.mem_cons_self
  | head hac _ ih =>
    cases fuel with
    | zero => cases h
    | succ =>
      rw [trail_succ_some hac] at h
      obtain ⟨rest, hrest, rfl⟩ := Option.map_eq_some_iff.mp h
      exact List.mem_cons_of_mem _ (ih hrest)

theorem Acyclic.nodup_trail (h : Acyclic next) (htrail : trail next fuel a = some nodes) :
    nodes.Nodup := by
  induction fuel generalizing a nodes with
  | zero => cases htrail
  | succ fuel ih =>
  cases hnext : next a with
  | none =>
    rw [trail_succ_none hnext] at htrail
    cases htrail
    exact List.nodup_singleton a
  | some b =>
    rw [trail_succ_some hnext] at htrail
    obtain ⟨rest, hrest, rfl⟩ := Option.map_eq_some_iff.mp htrail
    refine List.nodup_cons.mpr ⟨fun ha => ?_, ih hrest⟩
    exact h a (TransGen.head' hnext (path_of_mem_trail hrest ha))

/-- **The chain ends**: fuel for one more node than have a parent is enough. -/
theorem Acyclic.exists_trail [DecidableEq α] (h : Acyclic next) (nodes : Finset α)
    (hnodes : ∀ a b, next a = some b → a ∈ nodes) (hfuel : nodes.card < fuel) (a : α) :
    ∃ l, trail next fuel a = some l := by
  -- the induction is on the fuel, with the nodes that have been passed taken away
  suffices hall : ∀ fuel a (passed : Finset α), (∀ c ∈ passed, TransGen (HasParent next) c a) →
      (nodes \ passed).card < fuel → ∃ l, trail next fuel a = some l by
    refine hall fuel a ∅ (fun c hc => absurd hc (Finset.notMem_empty c)) ?_
    rw [Finset.sdiff_empty]
    exact hfuel
  intro fuel
  induction fuel with
  | zero =>
    intro a passed _ hcard
    exact absurd hcard (Nat.not_lt_zero _)
  | succ fuel ih =>
  intro a passed hpass hcard
  cases hnext : next a with
  | none => exact ⟨[a], trail_succ_none hnext⟩
  | some b =>
  have hfrs : a ∉ passed := fun ha => h a (hpass a ha)
  have hmem : a ∈ nodes \ passed := Finset.mem_sdiff.mpr ⟨hnodes a b hnext, hfrs⟩
  have hless : (nodes \ insert a passed).card < fuel := by
    rw [Finset.sdiff_insert, Finset.card_erase_of_mem hmem]
    have := Finset.card_pos.mpr ⟨a, hmem⟩
    omega
  obtain ⟨l, hl⟩ := ih b (insert a passed) (fun c hc => by
    rcases Finset.mem_insert.mp hc with rfl | hc
    · exact .single hnext
    · exact (hpass c hc).tail hnext) hless
  exact ⟨a :: l, by rw [trail_succ_some hnext, hl]; rfl⟩

end HermesToken.Lib
