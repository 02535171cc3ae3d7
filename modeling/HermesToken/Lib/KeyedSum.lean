import HermesToken.Lib.Rows
import Mathlib.Algebra.BigOperators.Group.Finset.Piecewise
import Mathlib.Algebra.Order.BigOperators.Group.List
import Mathlib.Algebra.Ring.Int.Defs

/-!
# Totals by key

The total of the values in a list that belong to one key: the rows of an
account, the fills of an order. The lemmas say how the total moves when a row
is appended or one row is replaced.
-/

namespace HermesToken.Lib

open List

variable {α K : Type*} [DecidableEq K] {l : List α} {a : α} {i : Nat}

/-- The sum of `val a` over the entries `a` of the list with `key a = k`. -/
def keyedSum (key : α → K) (val : α → Int) (k : K) (l : List α) : Int :=
  (l.map fun a => if key a = k then val a else 0).sum

variable {key : α → K} {val : α → Int} {k : K}

@[simp] theorem keyedSum_nil : keyedSum key val k [] = 0 := rfl

@[simp] theorem keyedSum_cons (a : α) (l : List α) :
    keyedSum key val k (a :: l) = (if key a = k then val a else 0) + keyedSum key val k l := by
  simp [keyedSum]

@[simp] theorem keyedSum_append (l l' : List α) :
    keyedSum key val k (l ++ l') = keyedSum key val k l + keyedSum key val k l' := by
  simp [keyedSum]

theorem keyedSum_eq_zero (h : ∀ a ∈ l, key a ≠ k) : keyedSum key val k l = 0 := by
  induction l with
  | nil => rfl
  | cons a _ ih =>
      rw [keyedSum_cons, if_neg (h a (by simp)), ih fun b hb => h b (by simp [hb])]
      rfl

theorem keyedSum_nonneg (h : ∀ a ∈ l, key a = k → 0 ≤ val a) : 0 ≤ keyedSum key val k l := by
  induction l with
  | nil => exact le_refl 0
  | cons a l ih =>
    have htail := ih fun b hb => h b (by simp [hb])
    rw [keyedSum_cons]
    split
    · have := h a (by simp) ‹_›
      omega
    · omega

theorem le_keyedSum (h : ∀ a ∈ l, key a = k → 0 ≤ val a) (ha : a ∈ l) (hk : key a = k) :
    val a ≤ keyedSum key val k l := by
  obtain ⟨pre, post, rfl⟩ := append_of_mem ha
  have hpre : 0 ≤ keyedSum key val k pre :=
    keyedSum_nonneg fun b hb => h b (by simp [hb])
  have hpost : 0 ≤ keyedSum key val k post :=
    keyedSum_nonneg fun b hb => h b (by simp [hb])
  rw [keyedSum_append, keyedSum_cons, if_pos hk]
  omega

/-- Replacing one entry by another of the same key moves the total by the
difference of the two values. -/
theorem keyedSum_set (hi : l[i]? = some a) (hkey : key a' = key a) :
    keyedSum key val k (l.set i a')
      = keyedSum key val k l + (if key a = k then val a' - val a else 0) := by
  induction l generalizing i with
  | nil => cases hi
  | cons b l ih =>
  cases i with
  | zero =>
      cases hi
      rw [set_cons_zero, keyedSum_cons, keyedSum_cons, hkey]
      split <;> omega
  | succ i =>
      rw [set_cons_succ, keyedSum_cons, keyedSum_cons, ih hi]
      omega

theorem sum_map_set (hi : l[i]? = some a) (val : α → Int) (a' : α) :
    ((l.set i a').map val).sum + val a = (l.map val).sum + val a' := by
  obtain ⟨hlt, rfl⟩ := List.getElem?_eq_some_iff.mp hi
  have hset := ((set_perm_cons_eraseIdx hlt a').map val).sum_eq
  have hget := ((getElem_cons_eraseIdx_perm hlt).map val).sum_eq
  rw [map_cons, sum_cons] at hset hget
  omega

theorem keyedSum_eraseIdx (hi : l[i]? = some a) (hk : key a = k) :
    keyedSum key val k (l.eraseIdx i) + val a = keyedSum key val k l := by
  induction l generalizing i with
  | nil => cases hi
  | cons b l ih =>
  cases i with
  | zero =>
      cases hi
      rw [eraseIdx_cons_zero, keyedSum_cons, if_pos hk]
      omega
  | succ i =>
      rw [eraseIdx_cons_succ, keyedSum_cons, keyedSum_cons, ← ih hi]
      omega

theorem keyedSum_saveRow {I : Type*} [DecidableEq I] {id : α → I} {rows : List α}
    (huniq : (rows.map id).Nodup) {r row : α} (hr : r ∈ rows) (hid : id row = id r) :
    keyedSum key val k (saveRow id row rows) + (if key r = k then val r else 0) =
      keyedSum key val k rows + (if key row = k then val row else 0) := by
  induction rows with
  | nil => exact absurd hr not_mem_nil
  | cons a rows ih =>
  obtain ⟨hnotin, hrest⟩ := nodup_cons.mp huniq
  have hcons : saveRow id row (a :: rows) =
      (if id a = id row then row else a) :: saveRow id row rows := rfl
  rw [hcons]
  rcases mem_cons.mp hr with rfl | htail
  · -- the saved row is in front, and none of the others has its key
    have habs : saveRow id row rows = rows := by
      refine saveRow_of_absent fun b hb hkey => hnotin ?_
      rw [← hid, ← hkey]
      exact mem_map_of_mem hb
    rw [if_pos hid.symm, habs, keyedSum_cons, keyedSum_cons]
    omega
  have hne : id a ≠ id row := by
    intro hkey
    refine hnotin ?_
    rw [hkey, hid]
    exact mem_map_of_mem htail
  rw [if_neg hne, keyedSum_cons, keyedSum_cons]
  have := ih hrest htail
  omega

theorem keyedSum_congr (h : ∀ a ∈ l, key a = k ↔ key' a = k) :
    keyedSum key val k l = keyedSum key' val k l := by
  induction l with
  | nil => rfl
  | cons a _ ih =>
      rw [keyedSum_cons, keyedSum_cons, ih fun b hb => h b (by simp [hb])]
      simp only [h a (by simp)]

theorem keyedSum_congr_val (h : ∀ a ∈ l, val a = val' a) :
    keyedSum key val k l = keyedSum key val' k l := by
  unfold keyedSum
  congr 1
  refine map_congr_left fun a ha => ?_
  rw [h a ha]

theorem keyedSum_ite (c : α → Bool) (l : List α) :
    keyedSum key (fun a => if c a then val a else 0) k l =
      ((l.filter fun a => key a = k && c a).map val).sum := by
  induction l with
  | nil => rfl
  | cons a _ ih =>
      rw [keyedSum_cons, ih]
      by_cases hkey : key a = k
      · by_cases hc : c a <;> simp [hkey, hc]
      · simp [hkey]

theorem keyedSum_perm (h : l.Perm l') : keyedSum key val k l = keyedSum key val k l' :=
  (h.map _).sum_eq

theorem sum_keyedSum (h : ∀ a ∈ l, key a ∈ dom) :
    ∑ k ∈ dom, keyedSum key val k l = (l.map val).sum := by
  induction l with
  | nil => exact Finset.sum_eq_zero fun _ _ => rfl
  | cons a _ ih =>
      simp only [keyedSum_cons, Finset.sum_add_distrib, map_cons, sum_cons]
      rw [ih fun b hb => h b (mem_cons_of_mem _ hb), Finset.sum_ite_eq, if_pos (h a mem_cons_self)]

theorem keyedSum_filter_add (q : α → Bool) (l : List α) :
    keyedSum key val k l =
      keyedSum key val k (l.filter q) + keyedSum key val k (l.filter fun a => !q a) := by
  rw [← keyedSum_append]
  exact keyedSum_perm (filter_append_perm q l).symm

end HermesToken.Lib
