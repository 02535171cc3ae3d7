import Mathlib.Algebra.BigOperators.Ring.List
import Mathlib.Algebra.Order.BigOperators.Group.List
import Mathlib.Data.Rat.Floor

/-!
# Distributing a quota by weights

Every weight gets its share of the quota rounded down, and what the rounding
leaves goes to the first. The parts are what was distributed, no more and no
less.
-/

namespace HermesToken.Lib

open List

/-- The shares of the weights, rounded down. -/
def floorShares (quota : Int) (weights : List ℚ) : List Int :=
  weights.map fun weight => ⌊(quota : ℚ) * (weight / weights.sum)⌋

def addToFirst (amount : Int) : List Int → List Int
  | [] => []
  | part :: parts => (part + amount) :: parts

/-- The shares with the remainder. -/
def apportion (quota : Int) (weights : List ℚ) : List Int :=
  let shares := floorShares quota weights
  addToFirst (quota - shares.sum) shares

theorem sum_addToFirst (h : parts ≠ []) : (addToFirst amount parts).sum = parts.sum + amount := by
  cases parts with
  | nil => exact absurd rfl h
  | cons =>
    simp only [addToFirst, sum_cons]
    omega

theorem addToFirst_nonneg (hamt : 0 ≤ amount)
    (hparts : ∀ part ∈ parts, 0 ≤ part) : ∀ part ∈ addToFirst amount parts, 0 ≤ part := by
  cases parts with
  | nil => exact hparts
  | cons first =>
    intro part hpart
    rcases mem_cons.mp hpart with rfl | hpart
    · exact add_nonneg (hparts first mem_cons_self) hamt
    · exact hparts part (mem_cons_of_mem _ hpart)

section

variable {quota : Int}

theorem floorShares_nonneg (hquo : 0 ≤ quota) (hweight : ∀ weight ∈ weights, 0 ≤ weight) :
    ∀ part ∈ floorShares quota weights, 0 ≤ part := by
  intro part hpart
  obtain ⟨weight, hweigh, rfl⟩ := mem_map.mp hpart
  have hq : (0 : ℚ) ≤ quota := by exact_mod_cast hquo
  exact Int.floor_nonneg.mpr
    (mul_nonneg hq (div_nonneg (hweight weight hweigh) (sum_nonneg hweight)))

/-- Rounding down never gives out more than there is. -/
theorem sum_floorShares_le (hsum : weights.sum ≠ 0) : (floorShares quota weights).sum ≤ quota := by
  have hcast : ∀ l : List ℚ,
      (((l.map fun x => ⌊x⌋).sum : Int) : ℚ) ≤ l.sum := by
    intro l
    induction l with
    | nil => simp
    | cons x _ ih =>
      simp only [map_cons, sum_cons, Int.cast_add]
      exact add_le_add (Int.floor_le x) ih
  have hexact : (weights.map fun weight => (quota : ℚ) * (weight / weights.sum)).sum = quota := by
    rw [sum_map_mul_left]
    simp only [div_eq_mul_inv]
    rw [sum_map_mul_right, map_id']
    field_simp
  have hle := hcast (weights.map fun weight => (quota : ℚ) * (weight / weights.sum))
  rw [hexact, map_map] at hle
  exact_mod_cast hle

/-- **Nothing is lost**: the parts add up to the quota. -/
theorem sum_apportion (hweight : weights ≠ []) : (apportion quota weights).sum = quota := by
  have hshare : floorShares quota weights ≠ [] := by simpa [floorShares] using hweight
  rw [apportion, sum_addToFirst hshare]
  omega

theorem apportion_nonneg (hquo : 0 ≤ quota) (hweight : ∀ weight ∈ weights, 0 ≤ weight)
    (hsum : weights.sum ≠ 0) : ∀ part ∈ apportion quota weights, 0 ≤ part :=
  addToFirst_nonneg (sub_nonneg.mpr (sum_floorShares_le hsum)) (floorShares_nonneg hquo hweight)

end

end HermesToken.Lib
