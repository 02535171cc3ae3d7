import Mathlib.Data.Int.Basic
import Mathlib.Data.List.Basic

/-!
# Sliding windows

At most `m` events are to be admitted in any `d` seconds. The times of the last
ones are kept in a queue, oldest first. Times that have left the queue are at
least `d` seconds back, so no window with a later event has any of them, and a
queue of at most `m` times bounds every window.
-/

namespace HermesToken.Lib

open List

/-- The number of times in the `d` seconds from `t` on. -/
def countIn (d t : Int) (times : List Int) : Nat :=
  times.countP fun a => decide (t ≤ a) && decide (a < t + d)

theorem countIn_append (d t : Int) (xs ys : List Int) :
    countIn d t (xs ++ ys) = countIn d t xs + countIn d t ys :=
  countP_append

theorem countIn_le_length (d t : Int) (times : List Int) : countIn d t times ≤ times.length :=
  countP_le_length

/-- Times that are `d` seconds back at `now` are in no window with `now`. -/
theorem countIn_eq_zero (h : ∀ a ∈ times, a + d ≤ now)
    (hnow : now < t + d) : countIn d t times = 0 := by
  refine countP_eq_zero.mpr fun a ha hin => ?_
  have := h a ha
  simp only [Bool.and_eq_true, decide_eq_true_eq] at hin
  omega

/-- At the time `now`, the queue has all admitted times that are less than `d`
seconds back, and no window has more than `m`. -/
structure SlidingWindow (m d now : Int) (admitted queue : List Int) : Prop where
  split : ∃ old, admitted = old ++ queue ∧ ∀ a ∈ old, a + d ≤ now
  length : (queue.length : Int) ≤ m
  sorted : queue.Pairwise (· ≤ ·)
  past : ∀ a ∈ queue, a ≤ now
  bounded : ∀ t, (countIn d t admitted : Int) ≤ m

namespace SlidingWindow

variable {m d now : Int} {admitted queue : List Int}

theorem start (hm : 0 ≤ m) (now : Int) : SlidingWindow m d now [] [] where
  split := ⟨[], rfl, fun _ ha => nomatch ha⟩
  length := hm
  sorted := .nil
  past := fun _ ha => nomatch ha
  bounded _ := hm

section

variable (h : SlidingWindow m d now admitted queue)
include h

theorem later (hle : now ≤ now') : SlidingWindow m d now' admitted queue := by
  obtain ⟨old, hsplit, hold⟩ := h.split
  refine ⟨⟨old, hsplit, fun a ha => ?_⟩, h.length, h.sorted, fun a ha => ?_, h.bounded⟩
  · exact Int.le_trans (hold a ha) hle
  · exact Int.le_trans (h.past a ha) hle

/-- Times are forgotten that are `d` seconds back. -/
theorem drop (hqueue : queue = front ++ rest)
    (hfront : ∀ a ∈ front, a + d ≤ now) : SlidingWindow m d now admitted rest := by
  obtain ⟨old, hsplit, hold⟩ := h.split
  subst hqueue
  refine ⟨⟨old ++ front, by rw [hsplit, append_assoc], fun a ha => ?_⟩, ?_, ?_, ?_, h.bounded⟩
  · rcases mem_append.mp ha with ha | ha
    · exact hold a ha
    · exact hfront a ha
  · have := h.length
    rw [length_append] at this
    omega
  · exact (pairwise_append.mp h.sorted).2.1
  · exact fun a ha => h.past a (mem_append_right _ ha)

/-- **There is room in the queue.** -/
theorem enter (hroom : (queue.length : Int) < m) :
    SlidingWindow m d now (admitted ++ [now]) (queue ++ [now]) := by
  obtain ⟨old, hsplit, hold⟩ := h.split
  refine ⟨⟨old, by rw [hsplit, append_assoc], hold⟩, ?_, ?_, ?_, fun t => ?_⟩
  · rw [length_append, length_singleton]
    omega
  · refine pairwise_append.mpr ⟨h.sorted, pairwise_singleton _ _, fun a ha b hb => ?_⟩
    rw [mem_singleton.mp hb]
    exact h.past a ha
  · intro a ha
    rcases mem_append.mp ha with ha | ha
    · exact h.past a ha
    · exact Int.le_of_eq (mem_singleton.mp ha)
  rw [countIn_append]
  by_cases hin : t ≤ now ∧ now < t + d
  · -- the window has nothing but times of the queue and the new one
    have hzero := countIn_eq_zero hold hin.2
    have hqueue := countIn_le_length d t queue
    have hnew := countIn_le_length d t [now]
    rw [hsplit, countIn_append]
    rw [length_singleton] at hnew
    omega
  have hout : countIn d t [now] = 0 := by
    simp only [countIn, countP_singleton, Bool.and_eq_true, decide_eq_true_eq]
    exact if_neg hin
  rw [hout]
  exact h.bounded t

end

/-- **The oldest time makes room.** -/
theorem slide (h : SlidingWindow m d now admitted (oldest :: rest))
    (hold : oldest + d ≤ now) : SlidingWindow m d now (admitted ++ [now]) (rest ++ [now]) := by
  have hlen := h.length
  rw [length_cons] at hlen
  have hfront : ∀ a ∈ [oldest], a + d ≤ now := by
    intro a ha
    rw [mem_singleton.mp ha]
    exact hold
  exact (h.drop rfl hfront).enter (by omega)

/-- The whole queue is forgotten when its last time is `d` seconds back. -/
theorem forget (h : SlidingWindow m d now admitted queue)
    (hlast : ∀ last, queue.getLast? = some last → last + d ≤ now) :
    SlidingWindow m d now admitted [] := by
  refine h.drop (append_nil queue).symm fun a ha => ?_
  obtain rfl | ⟨front, last, rfl⟩ := eq_nil_or_concat' queue
  · cases ha
  have := hlast last getLast?_concat
  rcases mem_append.mp ha with hfront | hend
  · have hle := (pairwise_append.mp h.sorted).2.2 a hfront last mem_cons_self
    omega
  · rw [mem_singleton.mp hend]
    exact this

end SlidingWindow

end HermesToken.Lib
