import Mathlib.Tactic.Common
import Mathlib.Data.Int.Basic

/-!
# A stock with reservations

Something is sold from a stock. An order can HOLD a part of it, which is given
back or sold later; a direct sale takes from what is neither held nor sold. The
seller keeps two counters, `locked` and `sold`, next to the orders and the
deliveries they count. A total of 0 means that there is no limit: orders are
then LOOSE, they hold nothing. A stock that was withdrawn takes no new orders,
and its counters do not move any more.

`Sound` says that the counters are right and within the total. `Limited` is
about a stock whose total stays the same: no more is delivered than there is,
as long as no sale bypasses the stock.
-/

namespace HermesToken.Lib

structure Shelf where
  total : Int
  (locked sold : Int := 0)
  withdrawn : Bool := false
  /-- What open orders hold. -/
  held : Int := 0
  /-- What open orders are for that hold nothing. -/
  (loose delivered : Int := 0)

namespace Shelf

variable (s : Shelf)

/-- The counters, unless they stand still. -/
def count (locked sold : Int) : Shelf :=
  if s.withdrawn then s else { s with locked := s.locked + locked, sold := s.sold + sold }

/-- What can happen to a stock. -/
inductive Step : Shelf → Prop
  | idle : Step s
  | hold (n : Int) (pos : 0 < n) (on : s.withdrawn = false) (limit : 0 < s.total)
      (enough : n ≤ s.total - s.locked - s.sold) :
      Step { s with locked := s.locked + n, held := s.held + n }
  | order (n : Int) (pos : 0 < n) (on : s.withdrawn = false) (limit : ¬ 0 < s.total) :
      Step { s with loose := s.loose + n }
  | release (n : Int) (pos : 0 < n) (some : n ≤ s.held) :
      Step { s.count (-n) 0 with held := s.held - n }
  | drop (n : Int) (pos : 0 < n) (some : n ≤ s.loose) : Step { s with loose := s.loose - n }
  | sell (n : Int) (pos : 0 < n) (some : n ≤ s.held) :
      Step { s.count (-n) n with held := s.held - n, delivered := s.delivered + n }
  | deliver (n : Int) (pos : 0 < n) (some : n ≤ s.loose) :
      Step { s with loose := s.loose - n, delivered := s.delivered + n }
  | direct (n : Int) (pos : 0 < n) (on : s.withdrawn = false) (limit : 0 < s.total)
      (enough : n ≤ s.total - s.locked - s.sold) :
      Step { s with sold := s.sold + n, delivered := s.delivered + n }
  | free (n : Int) (pos : 0 < n) (on : s.withdrawn = false) (limit : ¬ 0 < s.total) :
      Step { s with delivered := s.delivered + n }
  | restart (total : Int) (nonneg : 0 ≤ total) (on : s.withdrawn = false)
      (switch : total = 0 ∨ s.total = 0) (unheld : s.total = 0 ∧ total = 0 ∨ s.held ≤ 0) :
      Step { s with total, locked := 0, sold := 0 }
  | resize (total : Int) (pos : 0 < total) (on : s.withdrawn = false) (limit : 0 < s.total)
      (enough : s.locked + s.sold ≤ total) : Step { s with total }
  | withdraw : Step { s with withdrawn := true }

/-- A delivery that does not go through the stock. -/
def bypass (n : Int) : Shelf := { s with delivered := s.delivered + n }

variable {s}

theorem count_withdrawn (h : s.withdrawn) (locked sold : Int) :
    s.count locked sold = s := if_pos h

theorem count_on (h : s.withdrawn = false) (locked sold : Int) :
    s.count locked sold = { s with locked := s.locked + locked, sold := s.sold + sold } :=
  if_neg (by simp [h])

/-- The counters are right: what is locked is what is held, and it fits with
what is sold into the total. -/
structure Sound (s : Shelf) : Prop where
  total : 0 ≤ s.total
  held : 0 ≤ s.held
  loose : 0 ≤ s.loose
  covers : s.held ≤ s.locked
  locked : s.withdrawn = false → s.locked = s.held
  fits : s.withdrawn = false → 0 < s.total → s.locked + s.sold ≤ s.total
  unlimited : s.total = 0 → s.held = 0

theorem Sound.new {total} (h : 0 ≤ total) : Sound { total } := by
  constructor <;> intros <;> dsimp only at * <;> omega

theorem Sound.taken (h : Sound s) (hn : 0 ≤ n) (hheld : n ≤ s.held) (hk : k ≤ n) (d : Int) :
    Sound { s.count (-n) k with held := s.held - n, delivered := d } := by
  obtain ⟨htot, -, hloose, _, hlock, hfits, hfree⟩ := h
  cases hon : s.withdrawn with
  | true =>
    rw [count_withdrawn hon]
    refine ⟨htot, by dsimp only; omega, hloose, by dsimp only; omega, ?_, ?_, ?_⟩
    · intro hoff
      cases hon.symm.trans hoff
    · intro hoff
      cases hon.symm.trans hoff
    intro hzero
    have := hfree hzero
    dsimp only
    omega
  | false =>
    have := hlock hon
    have := hfits hon
    rw [count_on hon]
    constructor <;> intros <;> dsimp only at * <;> omega

theorem Sound.step (h : Sound s) (hstep : Step s s') : Sound s' := by
  have ⟨htot, hheld, hloose, hcov, hlock, hfits, hfree⟩ := h
  cases hstep with
  | idle | free n pos on limit => exact ⟨htot, hheld, hloose, hcov, hlock, hfits, hfree⟩
  | hold n pos on limit enough | direct n pos on limit enough | resize total pos on limit enough =>
    have := hlock on
    constructor <;> intros <;> dsimp only at * <;> omega
  | order n pos on limit | drop n pos some | deliver n pos some =>
    constructor <;> intros <;> dsimp only at * <;> first | omega | tauto
  | release _ pos some => exact h.taken (Int.le_of_lt pos) some (Int.le_of_lt pos) _
  | sell n pos some => exact h.taken (Int.le_of_lt pos) some (Int.le_refl n) _
  | restart =>
    constructor <;> intros <;> dsimp only at * <;> omega
  | withdraw =>
    refine ⟨htot, hheld, hloose, hcov, ?_, ?_, hfree⟩
    · intro h
      cases h
    · intro h
      cases h

theorem Sound.bypass (h : Sound s) (n : Int) : Sound (s.bypass n) :=
  ⟨h.total, h.held, h.loose, h.covers, h.locked, h.fits, h.unlimited⟩

/-- No more than the total `t` is held and delivered. -/
structure Limited (t : Int) (s : Shelf) : Prop where
  total : s.total = t
  loose : s.loose = 0
  held : 0 ≤ s.held
  covered : s.held + s.delivered ≤ t
  counted : s.withdrawn = false → s.locked = s.held ∧ s.sold = s.delivered

theorem Limited.new (h : 0 < t) : Limited t { total := t } :=
  ⟨rfl, rfl, Int.le_refl 0, by dsimp only; omega, fun _ => ⟨rfl, rfl⟩⟩

theorem Limited.taken (h : Limited t s) (hheld : n ≤ s.held) (hk : k ≤ n)
    (hd : d = s.delivered + k) :
    Limited t { s.count (-n) k with held := s.held - n, delivered := d } := by
  obtain ⟨htot, hloose, -, _, hcount⟩ := h
  cases hon : s.withdrawn with
  | true =>
    rw [count_withdrawn hon]
    refine ⟨htot, hloose, by dsimp only; omega, by dsimp only; omega, fun hoff => ?_⟩
    cases hon.symm.trans hoff
  | false =>
    have := hcount hon
    rw [count_on hon]
    constructor <;> intros <;> dsimp only at * <;> omega

/-- **No overselling**: as long as the total stays, every step keeps to it. -/
theorem Limited.step (ht : 0 < t) (h : Limited t s) (hstep : Step s s')
    (hsame : s'.total = t) : Limited t s' := by
  have ⟨htot, hloose, hheld, hcover, hcount⟩ := h
  cases hstep with
  | idle => exact ⟨htot, hloose, hheld, hcover, hcount⟩
  | hold n pos on limit enough | direct n pos on limit enough =>
    have := hcount on
    constructor <;> intros <;> dsimp only at * <;> omega
  | order n pos on limit | free n pos on limit =>
    rw [htot] at limit
    exact absurd ht limit
  | release _ pos some =>
    refine h.taken some (Int.le_of_lt pos) ?_
    unfold count
    split <;> exact (Int.add_zero _).symm
  | drop =>
    omega
  | sell n _ some => exact h.taken some (Int.le_refl n) rfl
  | deliver =>
    omega
  | restart =>
    dsimp only at hsame
    omega
  | resize =>
    exact ⟨hsame, hloose, hheld, hcover, hcount⟩
  | withdraw => exact ⟨hsame, hloose, hheld, hcover, fun h => by cases h⟩

end Shelf

end HermesToken.Lib
