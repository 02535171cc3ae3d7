import Mathlib.Data.Int.Basic

/-!
# Two's-complement 64-bit integers

Machine integers are carried as `Int`; an operation that can leave the range
is written with the wrapping form below. The one fact the callers use is that
wrapping does nothing inside the range.
-/

namespace HermesToken.Lib

/-- The largest 64-bit signed integer. -/
def maxInt64 : Int := 9223372036854775807

/-- `x` is a value of a signed 64-bit integer. -/
def InInt64 (x : Int) : Prop := -maxInt64 - 1 ≤ x ∧ x ≤ maxInt64

/-- The 64-bit integer with the same low 64 bits as `x`. -/
def wrap64 (x : Int) : Int := x.bmod 18446744073709551616

def add64 (a b : Int) : Int := wrap64 (a + b)

def sub64 (a b : Int) : Int := wrap64 (a - b)

/-- Wrapping negation: the smallest integer is its own negation. -/
def neg64 (a : Int) : Int := wrap64 (-a)

theorem wrap64_eq_self (h : InInt64 x) : wrap64 x = x := by
  unfold InInt64 maxInt64 at h
  exact Int.bmod_eq_of_le (by omega) (by omega)

theorem wrap64_le (x : Int) : wrap64 x ≤ maxInt64 := by
  have h := Int.bmod_lt (x := x) (m := 18446744073709551616) (by decide)
  unfold wrap64 maxInt64
  omega

theorem inInt64_wrap64 (x : Int) : InInt64 (wrap64 x) := by
  have h := Int.le_bmod (x := x) (m := 18446744073709551616) (by decide)
  refine ⟨?_, wrap64_le x⟩
  unfold wrap64 maxInt64
  omega

theorem add64_eq (h : InInt64 (a + b)) : add64 a b = a + b :=
  wrap64_eq_self h

theorem sub64_eq (h : InInt64 (a - b)) : sub64 a b = a - b :=
  wrap64_eq_self h

theorem neg64_eq (h : InInt64 (-a)) : neg64 a = -a :=
  wrap64_eq_self h

theorem InInt64.of_nonneg (h0 : 0 ≤ x) (h1 : x ≤ maxInt64) :
    InInt64 x := by
  unfold InInt64 maxInt64 at *
  omega

end HermesToken.Lib
