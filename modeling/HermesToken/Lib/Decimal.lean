import Mathlib.Data.Rat.Floor

/-!
# Decimals

The operations of a decimal library on its values, which are rationals:
the integer part, the rounding to a number of places and the text of a value.
-/

namespace HermesToken.Lib

open List Int

variable {x : ℚ}

/-- `IntPart`: the value without its fraction. -/
def intPart (x : ℚ) : Int := x.num.tdiv x.den

/-- `Round`: to the nearest value with `places` digits, halves away from
zero. -/
def roundTo (x : ℚ) (places : Nat) : ℚ :=
  let scaled := ⌊|x| * 10 ^ places + 1 / 2⌋
  (if x < 0 then -scaled else scaled) / 10 ^ places

/-- `StringFixed`: the digits with exactly `places` of them after the point. -/
def stringFixed (x : ℚ) (places : Nat) : String :=
  let scaled := (⌊|x| * 10 ^ places + 1 / 2⌋).toNat
  let digits := (Nat.repr scaled).toList
  let padded := List.replicate (places + 1 - digits.length) '0' ++ digits
  let whole := padded.take (padded.length - places)
  let fraction := padded.drop (padded.length - places)
  let sign := if x < 0 ∧ scaled ≠ 0 then ['-'] else []
  String.ofList (sign ++ whole ++ (if places = 0 then [] else '.' :: fraction))

/-- `NewFromString` without a sign: the digits are read without the point and
scaled by those that stand after it. -/
def newFromString (s : String) : ℚ :=
  Nat.ofDigitChars 10 (s.toList.filter (· ≠ '.')) 0 /
    10 ^ (s.toList.dropWhile (· ≠ '.')).tail.length

theorem intPart_eq_floor (h : 0 ≤ x) : intPart x = ⌊x⌋ := by
  rw [intPart, tdiv_eq_ediv_of_nonneg (Rat.num_nonneg.mpr h),
    ← Rat.floor_intCast_div_natCast, Rat.num_div_den]

theorem intPart_nonneg (h : 0 ≤ x) : 0 ≤ intPart x :=
  Int.tdiv_nonneg (Rat.num_nonneg.mpr h) (Int.natCast_nonneg _)

theorem intPart_pos : 0 < intPart x ↔ 1 ≤ x := by
  obtain hx | hx := le_total 0 x
  · rw [intPart_eq_floor hx, floor_pos]
  · have hneg : 0 ≤ -intPart x := by
      rw [intPart, ← Int.neg_tdiv]
      exact Int.tdiv_nonneg (neg_nonneg.mpr (Rat.num_nonpos.mpr hx)) (Int.natCast_nonneg _)
    exact ⟨fun h => by omega, fun h => by linarith⟩

/-- For a value of at least one it does not matter that parts are cut towards
zero. -/
theorem intPart_eq_iff (hy : 1 ≤ y) : intPart x = intPart y ↔ ⌊x⌋ = ⌊y⌋ := by
  have hpos : 0 < ⌊y⌋ := floor_pos.mpr hy
  rw [intPart_eq_floor (zero_le_one.trans hy)]
  obtain hx | hx := le_or_gt 0 x
  · rw [intPart_eq_floor hx]
  · have hneg := intPart_pos.not.mpr (not_le.mpr (hx.trans zero_lt_one))
    have hfloor : ⌊x⌋ < 0 := floor_lt.mpr (by simpa using hx)
    omega

/-- Two fractions that are dropped can make up a unit, never the other way
round. -/
theorem intPart_add_le (hx : 0 ≤ x) (hy : 0 ≤ y) : intPart x + intPart y ≤ intPart (x + y) := by
  rw [intPart_eq_floor hx, intPart_eq_floor hy, intPart_eq_floor (add_nonneg hx hy)]
  exact le_floor_add x y

theorem roundTo_of_nonneg (h : 0 ≤ x) (places : Nat) :
    roundTo x places = ⌊x * 10 ^ places + 1 / 2⌋ / 10 ^ places := by
  simp only [roundTo, if_neg (not_lt.mpr h), abs_of_nonneg h]

theorem roundTo_mono (hx : 0 ≤ x) (h : x ≤ y) (places : Nat) :
    roundTo x places ≤ roundTo y places := by
  rw [roundTo_of_nonneg hx, roundTo_of_nonneg (hx.trans h)]
  gcongr

/-- A value that has no more places is not changed. -/
theorem roundTo_natCast_div (k places : Nat) :
    roundTo ((k : ℚ) / 10 ^ places) places = k / 10 ^ places := by
  have hk : ⌊(k : ℚ) + 1 / 2⌋ = k := floor_eq_iff.mpr ⟨by simp, by norm_num⟩
  rw [roundTo_of_nonneg (by positivity), div_mul_cancel₀ _ (by positivity), hk, cast_natCast]

theorem roundTo_eq_natCast_div (h : 0 ≤ x) (places : Nat) :
    ∃ k : Nat, roundTo x places = k / 10 ^ places := by
  have hk : 0 ≤ ⌊x * 10 ^ places + 1 / 2⌋ := floor_nonneg.mpr (by positivity)
  obtain ⟨k, hk⟩ := eq_ofNat_of_zero_le hk
  exact ⟨k, by rw [roundTo_of_nonneg h, hk, cast_natCast]⟩

theorem roundTo_nonneg (h : 0 ≤ x) (places : Nat) : 0 ≤ roundTo x places := by
  obtain ⟨k, hk⟩ := roundTo_eq_natCast_div h places
  rw [hk]
  positivity

/-- Rounding loses less than a unit of the last place. -/
theorem lt_roundTo_add (h : 0 ≤ x) (places : Nat) : x < roundTo x places + 1 / 10 ^ places := by
  rw [roundTo_of_nonneg h, ← add_div, lt_div_iff₀ (by positivity)]
  linarith [lt_floor_add_one (x * 10 ^ places + 1 / 2)]

/-- Rounding adds at most half a unit of the last place. -/
theorem roundTo_le_add_half (h : 0 ≤ x) (places : Nat) :
    roundTo x places ≤ x + 1 / 2 / 10 ^ places := by
  rw [roundTo_of_nonneg h, div_le_iff₀ (by positivity), add_mul, div_mul_cancel₀ _ (by positivity)]
  exact floor_le _

theorem roundTo_mul_pow (h : 0 ≤ x) (places : Nat) :
    roundTo (x * 10 ^ places) 0 = roundTo x places * 10 ^ places := by
  rw [roundTo_of_nonneg (by positivity), roundTo_of_nonneg h, div_mul_cancel₀ _ (by positivity)]
  norm_num

/-- Units of the last place pass through the rounding. -/
theorem roundTo_add_natCast_div (h : 0 ≤ x) (k places : Nat) :
    roundTo (x + k / 10 ^ places) places = roundTo x places + k / 10 ^ places := by
  have hshift : (x + k / 10 ^ places) * 10 ^ places + 1 / 2 = x * 10 ^ places + 1 / 2 + k := by
    rw [add_mul, div_mul_cancel₀ _ (by positivity), add_right_comm]
  rw [roundTo_of_nonneg (by positivity), roundTo_of_nonneg h, hshift, floor_add_natCast, cast_add,
    cast_natCast, add_div]

/-- What is displayed reads back as the rounded value. -/
theorem newFromString_stringFixed (h : 0 ≤ x) (places : Nat) :
    newFromString (stringFixed x places) = roundTo x places := by
  rw [roundTo_of_nonneg h]
  obtain ⟨n, hn⟩ := eq_ofNat_of_zero_le
    (floor_nonneg.mpr (by positivity : 0 ≤ x * 10 ^ places + 1 / 2))
  simp only [stringFixed, abs_of_nonneg h, hn, not_lt.mpr h, false_and, if_false, nil_append,
    toNat_natCast, cast_natCast, Nat.toList_repr]
  generalize hpadded : replicate _ '0' ++ Nat.toDigits 10 n = padded
  have hvalue : Nat.ofDigitChars 10 padded 0 = n := by
    rw [← hpadded, Nat.ofDigitChars_append, Nat.ofDigitChars_replicate_zero, mul_zero,
      Nat.ofDigitChars_ten_toDigits]
  have hlength : places < padded.length := by
    rw [← hpadded, length_append, length_replicate]
    omega
  have hpoint : ∀ c ∈ padded, c ≠ '.' := by
    rintro c hc rfl
    rw [← hpadded, mem_append, mem_replicate] at hc
    obtain ⟨-, hc⟩ | hc := hc
    · cases hc
    · cases Nat.isDigit_of_mem_toDigits (by decide) le_rfl hc
  have hwhole : ∀ c ∈ padded.take (padded.length - places), decide (c ≠ '.') :=
    fun c hc => decide_eq_true (hpoint c (mem_of_mem_take hc))
  have hfraction : ∀ c ∈ padded.drop (padded.length - places), decide (c ≠ '.') :=
    fun c hc => decide_eq_true (hpoint c (mem_of_mem_drop hc))
  rw [newFromString, String.toList_ofList, filter_append, filter_eq_self.mpr hwhole,
    dropWhile_append_of_pos hwhole]
  split
  · rename_i hplaces
    simp [hplaces, hvalue]
  · simp only [filter_cons, filter_eq_self.mpr hfraction]
    simp [hvalue, length_drop, Nat.sub_sub_self hlength.le]

example : intPart (-7 / 2) = -3 := by decide +kernel
example : roundTo (12345 / 1000) 2 = 1235 / 100 := by decide +kernel
example : stringFixed (10000001 / 1000000) 6 = "10.000001" := by decide +kernel
example : stringFixed 5 0 = "5" := by decide +kernel

end HermesToken.Lib
