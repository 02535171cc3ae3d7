import Mathlib.Data.List.Basic

/-!
# Windows of a cursor

A reader that follows a growing sequence of blocks covers it with windows,
each beginning right after the one before. The windows are listed newest
first. They are disjoint, and together they hold every block between the
first and the last that was read.
-/

namespace HermesToken.Lib

open List

structure Window where
  (lo hi : Int)
  deriving DecidableEq

def Window.Holds (v : Window) (b : Int) : Prop := v.lo ≤ b ∧ b ≤ v.hi

instance : Decidable (Window.Holds v b) := inferInstanceAs (Decidable (_ ∧ _))

/-- No window is empty, and each begins right after the one before it. -/
def Tiled : List Window → Prop
  | [] => True
  | v :: older => v.lo ≤ v.hi ∧ (∀ u ∈ older.head?, v.lo = u.hi + 1) ∧ Tiled older

theorem Tiled.hi_le (h : Tiled (v :: windows)) : ∀ u ∈ windows, u.hi < v.lo := by
  induction windows generalizing v with
  | nil => simp
  | cons w _ ih =>
  obtain ⟨_, hnext, hrest⟩ := h
  have hw : v.lo = w.hi + 1 := hnext w rfl
  intro u hu
  rcases mem_cons.mp hu with rfl | hu
  · omega
  have := ih hrest u hu
  have := hrest.1
  omega

/-- The windows are disjoint: an older one ends before a newer one begins. -/
theorem Tiled.disjoint (h : Tiled windows) :
    windows.Pairwise fun newer older => older.hi < newer.lo := by
  induction windows with
  | nil => exact Pairwise.nil
  | cons _ _ ih => exact Pairwise.cons h.hi_le (ih h.2.2)

/-- A block between the first window and the last is in one of them. -/
theorem Tiled.covers (h : Tiled windows) (hfst : first ∈ windows.getLast?)
    (hlast : last ∈ windows.head?) (hlo : first.lo ≤ b) (hhi : b ≤ last.hi) :
    ∃ v ∈ windows, v.Holds b := by
  induction windows generalizing last with
  | nil => cases hlast
  | cons v older ih =>
  cases hlast
  by_cases hb : v.lo ≤ b
  · exact ⟨v, mem_cons_self, hb, hhi⟩
  cases older with
  | nil =>
    -- the only window is the first one, and the block is not below it
    cases hfst
    exact absurd hlo hb
  | cons w rest =>
    have hnext : v.lo = w.hi + 1 := h.2.1 w rfl
    obtain ⟨u, hu, hheld⟩ := ih h.2.2 hfst rfl (by omega)
    exact ⟨u, mem_cons_of_mem _ hu, hheld⟩

/-! ## What lies in a window -/

namespace Window

variable {α : Type*} (v : Window) (f : Int → List α)

/-- What `f` has at the positions of a window, from the first to the last. -/
def ascending : List α :=
  (List.range (v.hi - v.lo + 1).toNat).flatMap fun i : Nat => f (v.lo + i)

/-- What `f` has at the positions of a window, from the last to the first. -/
def descending : List α :=
  (List.range (v.hi - v.lo + 1).toNat).flatMap fun i : Nat => f (v.hi - i)

variable {v} {f}

theorem mem_ascending : x ∈ v.ascending f ↔ ∃ b, v.Holds b ∧ x ∈ f b := by
  simp only [ascending, mem_flatMap, mem_range, Holds]
  constructor
  · rintro ⟨i, _, hx⟩
    exact ⟨v.lo + i, by omega, hx⟩
  rintro ⟨b, _, hx⟩
  refine ⟨(b - v.lo).toNat, by omega, ?_⟩
  rwa [show v.lo + ((b - v.lo).toNat : Int) = b by omega]

theorem mem_descending : x ∈ v.descending f ↔ ∃ b, v.Holds b ∧ x ∈ f b := by
  simp only [descending, mem_flatMap, mem_range, Holds]
  constructor
  · rintro ⟨i, _, hx⟩
    exact ⟨v.hi - i, by omega, hx⟩
  rintro ⟨b, _, hx⟩
  refine ⟨(v.hi - b).toNat, by omega, ?_⟩
  rwa [show v.hi - ((v.hi - b).toNat : Int) = b by omega]

theorem ascending_self (b : Int) : ascending ⟨b, b⟩ f = f b := by
  simp [ascending]

theorem ascending_eq_nil (h : ∀ b, v.Holds b → f b = []) : v.ascending f = [] := by
  refine eq_nil_iff_forall_not_mem.mpr fun x hx => ?_
  obtain ⟨b, hb, hx⟩ := mem_ascending.mp hx
  rw [h b hb] at hx
  cases hx

theorem descending_eq_nil (h : ∀ b, v.Holds b → f b = []) : v.descending f = [] := by
  refine eq_nil_iff_forall_not_mem.mpr fun x hx => ?_
  obtain ⟨b, hb, hx⟩ := mem_descending.mp hx
  rw [h b hb] at hx
  cases hx

theorem descending_split (f : Int → List α) {lo mid hi} (hlo : lo ≤ mid) (hhi : mid ≤ hi + 1) :
    descending ⟨lo, hi⟩ f = descending ⟨mid, hi⟩ f ++ descending ⟨lo, mid - 1⟩ f := by
  have hlen : (hi - lo + 1).toNat = (hi - mid + 1).toNat + (mid - 1 - lo + 1).toNat := by omega
  simp only [descending, hlen, range_add, flatMap_append, flatMap_map]
  congr 1
  refine flatMap_congr fun i _ => ?_
  rw [show hi - (((hi - mid + 1).toNat + i : Nat) : Int) = mid - 1 - i by omega]

end Window

end HermesToken.Lib
