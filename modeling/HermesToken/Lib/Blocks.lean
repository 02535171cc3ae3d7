import Mathlib.Data.Finset.Basic

/-!
# Streams of blocks

Events that open blocks under indices, add to open blocks and close them. A
block goes from fresh to opened to closed and never back; `Blocks.run` follows
a list of events and fails at the first one that breaks this order or does not
fit the kind of its block.
-/

namespace HermesToken.Lib

open List

variable {ι κ δ : Type*}

inductive BlockStatus (κ : Type*) where
  | fresh
  | opened (kind : κ)
  | closed

inductive BlockEvent (ι κ δ : Type*) where
  | start (index : ι) (kind : κ)
  | delta (index : ι) (delta : δ)
  | stop (index : ι)

/-- The status of the block under each index. -/
abbrev Blocks (ι κ : Type*) := ι → BlockStatus κ

namespace Blocks

variable [DecidableEq ι] (fits : κ → δ → Bool)

def empty : Blocks ι κ := fun _ => .fresh

/-- The blocks after an event, if it may come. -/
def step (b : Blocks ι κ) : BlockEvent ι κ δ → Option (Blocks ι κ)
  | .start i kind => match b i with
    | .fresh => some (Function.update b i (.opened kind))
    | _ => none
  | .delta i d => match b i with
    | .opened kind => if fits kind d then some b else none
    | _ => none
  | .stop i => match b i with
    | .opened _ => some (Function.update b i .closed)
    | _ => none

def run (b : Blocks ι κ) (events : List (BlockEvent ι κ δ)) : Option (Blocks ι κ) :=
  events.foldlM (step fits) b

section

variable {fits} {b b' : Blocks ι κ}

@[simp] theorem run_nil : run fits b [] = some b := rfl

theorem run_append (h : run fits b xs = some b') : run fits b (xs ++ ys) = run fits b' ys := by
  simp only [run, foldlM_append] at h ⊢
  rw [h]
  rfl

theorem run_start (h : b i = .fresh) (rest : List (BlockEvent ι κ δ)) :
    run fits b (.start i kind :: rest) = run fits (Function.update b i (.opened kind)) rest := by
  simp only [run, foldlM_cons, step, h]
  rfl

theorem run_delta (h : b i = .opened kind) (hfits : fits kind d)
    (rest : List (BlockEvent ι κ δ)) : run fits b (.delta i d :: rest) = run fits b rest := by
  simp only [run, foldlM_cons, step, h, hfits, if_true]
  rfl

theorem run_stops : ∀ {indices : List ι} {b : Blocks ι κ}, indices.Nodup →
    (∀ i ∈ indices, ∃ kind, b i = .opened kind) →
    ∃ b', run fits b (indices.map .stop) = some b' ∧ ∀ i ∉ indices, b' i = b i
  | [], b, _, _ => ⟨b, rfl, fun _ _ => rfl⟩
  | index :: rest, b, hnodup, hopen => by
    obtain ⟨hidx, hrest⟩ := nodup_cons.mp hnodup
    obtain ⟨kind, hkind⟩ := hopen index mem_cons_self
    have hother : ∀ {i}, i ≠ index → Function.update b index .closed i = b i :=
      fun hne => Function.update_of_ne hne ..
    obtain ⟨b', hrun, hsame⟩ := run_stops (b := Function.update b index .closed) hrest
      fun i hi => by
        rw [hother fun heq => hidx (heq ▸ hi)]
        exact hopen i (mem_cons_of_mem _ hi)
    refine ⟨b', ?_, fun i hi => ?_⟩
    · rw [← hrun, map_cons]
      simp only [run, foldlM_cons, step, hkind]
      rfl
    · obtain ⟨hne, hi⟩ := not_or.mp fun h => hi (mem_cons.mpr h)
      rw [hsame i hi, hother hne]

end

end Blocks

end HermesToken.Lib
