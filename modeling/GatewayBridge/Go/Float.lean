import Mathlib.Data.Int.Log
import Mathlib.Data.Rat.Floor
import Mathlib.Tactic.Linarith
import Mathlib.Tactic.Ring

/-!
# Floating-point numbers

A finite `float64` is the rational number it stands for. An operation gives the
exact result rounded to the nearest number of 53 significant bits, a tie going to
the one whose last bit is `0` (IEEE 754, `roundTiesToEven`). The exponent of a
`float64` is not bounded here: what is rounded to one is an integer or becomes one,
where an overflow or a loss of precision below the normal range cannot show. What is
rounded to a `float32` may be any number, and has the range of the format (`Single`).
-/

namespace GatewayBridge.Go

/-- The integer nearest to `x`, the even one of two. -/
def roundEven (x : ℚ) : ℤ :=
  let d := x - ⌊x⌋
  if d < 1 / 2 then ⌊x⌋
  else if 1 / 2 < d then ⌊x⌋ + 1
  else if ⌊x⌋ % 2 = 0 then ⌊x⌋ else ⌊x⌋ + 1

/-- `x` rounded to `p` significant bits. -/
def roundBits (p : ℕ) (x : ℚ) : ℚ :=
  if x = 0 then 0
  else
    let ulp : ℚ := 2 ^ (Int.log 2 |x| - (p - 1))
    roundEven (x / ulp) * ulp

/-- `x` rounded to a `float64`. -/
def float64 (x : ℚ) : ℚ := roundBits 53 x

/-- A `float32` other than `NaN`. The sign of a zero is left out. -/
inductive Single where
  | finite (x : ℚ)
  | infinite (negative : Bool)
  deriving DecidableEq, Repr

/-- `float32(x)`. Below `1 / 2 ^ 126` neighbours are `1 / 2 ^ 149` apart, and from `2 ^ 128` on
there are none. -/
def float32 (x : ℚ) : Single :=
  let y : ℚ := if |x| < 1 / 2 ^ 126 then roundEven (x * 2 ^ 149) / 2 ^ 149 else roundBits 24 x
  if |y| < 2 ^ 128 then .finite y else .infinite (y < 0)

theorem float32_zero : float32 0 = .finite 0 := by decide +kernel

/-- `int(x)`: the part of `x` before the point. Outside the range of an `int` the conversion
is left to the processor, which gives the least `int`. -/
def truncInt (x : ℚ) : ℤ :=
  let i := if 0 ≤ x then ⌊x⌋ else ⌈x⌉
  if -2 ^ 63 ≤ i ∧ i < 2 ^ 63 then i else -2 ^ 63

/-- `int(x)` of a number that is an `int`. -/
theorem truncInt_intCast {i : ℤ} (hle : -2 ^ 63 ≤ i) (hlt : i < 2 ^ 63) : truncInt i = i := by
  have hi : (if (0 : ℚ) ≤ i then ⌊(i : ℚ)⌋ else ⌈(i : ℚ)⌉) = i := by
    rw [Int.floor_intCast, Int.ceil_intCast, ite_self]
  rw [truncInt, hi]
  exact if_pos ⟨hle, hlt⟩

/-- `int32(x)`, as `truncInt`. -/
def truncInt32 (x : ℚ) : Int32 :=
  let i := if 0 ≤ x then ⌊x⌋ else ⌈x⌉
  if -2 ^ 31 ≤ i ∧ i < 2 ^ 31 then Int32.ofInt i else Int32.minValue

/-- `d.Seconds()`, of a duration in nanoseconds. -/
def seconds (d : ℤ) : ℚ :=
  float64 (float64 (d.tdiv (10 ^ 9)) + float64 (float64 (d.tmod (10 ^ 9)) / 10 ^ 9))

/-! ### Rounding to an integer -/

theorem abs_roundEven_sub_le (x : ℚ) : |roundEven x - x| ≤ 1 / 2 := by
  have hle := Int.floor_le x
  have hlt := Int.lt_floor_add_one x
  unfold roundEven
  dsimp only
  rw [abs_le]
  split_ifs with hlow hhigh heven
  · constructor <;> linarith
  · push_cast
    constructor <;> linarith
  · constructor <;> linarith
  · push_cast
    constructor <;> linarith

/-- An integer nearer than `1 / 2` is the one rounded to. -/
theorem roundEven_eq {x : ℚ} {n : ℤ} (h : |x - n| < 1 / 2) : roundEven x = n := by
  have hround := abs_roundEven_sub_le x
  rw [abs_le] at hround
  rw [abs_lt] at h
  have hlt : (roundEven x : ℚ) < n + 1 := by linarith
  have hgt : (n : ℚ) < roundEven x + 1 := by linarith
  have hlt : roundEven x < n + 1 := by exact_mod_cast hlt
  have hgt : n < roundEven x + 1 := by exact_mod_cast hgt
  omega

/-! ### Rounding to significant bits -/

variable {p : ℕ} {e : ℤ} {x : ℚ}

theorem log_eq (hle : 2 ^ e ≤ x) (hlt : x < 2 ^ (e + 1)) : Int.log 2 |x| = e := by
  have hpos : 0 < x := lt_of_lt_of_le (zpow_pos two_pos e) hle
  rw [abs_of_pos hpos]
  have hlow : e ≤ Int.log 2 x := (Int.zpow_le_iff_le_log one_lt_two hpos).mp (by exact_mod_cast hle)
  have hhigh : Int.log 2 x < e + 1 := (Int.lt_zpow_iff_log_lt one_lt_two hpos).mp (by exact_mod_cast hlt)
  omega

/-- In the binade of `2 ^ e`, numbers of `p` bits are `2 ^ (e - (p - 1))` apart. -/
theorem roundBits_eq_roundEven (hle : 2 ^ e ≤ x) (hlt : x < 2 ^ (e + 1)) :
    roundBits p x = roundEven (x / 2 ^ (e - (p - 1))) * 2 ^ (e - (p - 1)) := by
  have hpos : 0 < x := lt_of_lt_of_le (zpow_pos two_pos e) hle
  rw [roundBits, if_neg hpos.ne', log_eq hle hlt]

theorem half_ulp (p : ℕ) (e : ℤ) : (1 : ℚ) / 2 * 2 ^ (e - (p - 1)) = 2 ^ (e - p) := by
  rw [show e - (p - 1) = e - p + 1 by ring, zpow_add_one₀ two_ne_zero]
  ring

/-- **The error of a rounding** is at most half the distance between neighbours. -/
theorem abs_roundBits_sub_le (hle : 2 ^ e ≤ x) (hlt : x < 2 ^ (e + 1)) :
    |roundBits p x - x| ≤ 2 ^ (e - p) := by
  have hulp : (0 : ℚ) < 2 ^ (e - (p - 1)) := zpow_pos two_pos _
  have hscale : roundBits p x - x =
      (roundEven (x / 2 ^ (e - (p - 1))) - x / 2 ^ (e - (p - 1))) * 2 ^ (e - (p - 1)) := by
    rw [roundBits_eq_roundEven hle hlt, sub_mul, div_mul_cancel₀ x hulp.ne']
  rw [hscale, abs_mul, abs_of_pos hulp, ← half_ulp]
  exact mul_le_mul_of_nonneg_right (abs_roundEven_sub_le _) hulp.le

/-- **A number is rounded to one of `p` bits that is nearer than half the distance between neighbours.** -/
theorem roundBits_eq {n : ℤ} (hle : 2 ^ e ≤ x) (hlt : x < 2 ^ (e + 1))
    (hnear : |x - n * 2 ^ (e - (p - 1))| < 2 ^ (e - p)) : roundBits p x = n * 2 ^ (e - (p - 1)) := by
  have hulp : (0 : ℚ) < 2 ^ (e - (p - 1)) := zpow_pos two_pos _
  have hround : roundEven (x / 2 ^ (e - (p - 1))) = n := by
    apply roundEven_eq
    have hscale : x / 2 ^ (e - (p - 1)) - n = (x - n * 2 ^ (e - (p - 1))) / 2 ^ (e - (p - 1)) := by
      rw [sub_div, mul_div_cancel_right₀ _ hulp.ne']
    rw [hscale, abs_div, abs_of_pos hulp, div_lt_iff₀ hulp, half_ulp]
    exact hnear
  rw [roundBits_eq_roundEven hle hlt, hround]

/-- Integers of at most `p` bits are not rounded. -/
theorem roundBits_intCast {n : ℤ} (h : |n| < 2 ^ p) : roundBits p n = n := by
  rcases eq_or_ne n 0 with rfl | hn
  · simp [roundBits]
  have hcast : ((n : ℤ) : ℚ) ≠ 0 := Int.cast_ne_zero.mpr hn
  have hlog : Int.log 2 |(n : ℚ)| < p := by
    rw [← Int.lt_zpow_iff_log_lt one_lt_two (abs_pos.mpr hcast), zpow_natCast]
    exact_mod_cast h
  -- the neighbours are at most `1` apart, so `n` is one of them
  obtain ⟨k, hk⟩ := Int.eq_ofNat_of_zero_le (show 0 ≤ (p : ℤ) - 1 - Int.log 2 |(n : ℚ)| by omega)
  have hulp : (2 : ℚ) ^ (Int.log 2 |(n : ℚ)| - (p - 1)) = (2 ^ k)⁻¹ := by
    rw [show Int.log 2 |(n : ℚ)| - (p - 1) = -(k : ℤ) by omega, zpow_neg, zpow_natCast]
  have hround : roundEven ((n : ℚ) / (2 ^ k)⁻¹) = n * 2 ^ k := by
    apply roundEven_eq
    rw [div_inv_eq_mul]
    push_cast
    rw [sub_self, abs_zero]
    norm_num
  rw [roundBits, if_neg hcast, hulp]
  dsimp only
  rw [hround]
  push_cast
  rw [mul_assoc, mul_inv_cancel₀ (pow_ne_zero k two_ne_zero), mul_one]

/-- The error in proportion to the number, whatever its size and sign. -/
theorem abs_roundBits_sub_le_mul (p : ℕ) (x : ℚ) : |roundBits p x - x| ≤ |x| * 2 ^ (-(p : ℤ)) := by
  rcases eq_or_ne x 0 with rfl | hx
  · simp [roundBits]
  have hulp : (0 : ℚ) < 2 ^ (Int.log 2 |x| - (p - 1)) := zpow_pos two_pos _
  have hscale : roundBits p x - x =
      (roundEven (x / 2 ^ (Int.log 2 |x| - (p - 1))) - x / 2 ^ (Int.log 2 |x| - (p - 1))) *
        2 ^ (Int.log 2 |x| - (p - 1)) := by
    rw [roundBits, if_neg hx, sub_mul, div_mul_cancel₀ x hulp.ne']
  have hlog : (2 : ℚ) ^ Int.log 2 |x| ≤ |x| := by
    exact_mod_cast Int.zpow_log_le_self one_lt_two (abs_pos.mpr hx)
  calc |roundBits p x - x| ≤ 1 / 2 * 2 ^ (Int.log 2 |x| - (p - 1)) := by
        rw [hscale, abs_mul, abs_of_pos hulp]
        exact mul_le_mul_of_nonneg_right (abs_roundEven_sub_le _) hulp.le
    _ = 2 ^ Int.log 2 |x| * 2 ^ (-(p : ℤ)) := by
        rw [half_ulp, sub_eq_add_neg, zpow_add₀ two_ne_zero]
    _ ≤ |x| * 2 ^ (-(p : ℤ)) := mul_le_mul_of_nonneg_right hlog (zpow_pos two_pos _).le

/-! ### Durations in seconds -/

/-- A whole number of seconds is not rounded. -/
theorem seconds_mul {n : ℤ} (h : |n| < 2 ^ 53) : seconds (n * 10 ^ 9) = n := by
  have hdiv : (n * 10 ^ 9).tdiv (10 ^ 9) = n := Int.mul_tdiv_cancel n (by norm_num)
  have hmod : (n * 10 ^ 9).tmod (10 ^ 9) = 0 := Int.mul_tmod_left n (10 ^ 9)
  have hzero : float64 0 = 0 := rfl
  have hn : float64 n = n := roundBits_intCast h
  rw [seconds, hdiv, hmod, Int.cast_zero, hzero, zero_div, hzero, add_zero, hn, hn]

theorem abs_nanoseconds_sub_le {n : ℤ} (h : |n| ≤ 10 ^ 9) :
    |float64 (float64 n / 10 ^ 9) - n / 10 ^ 9| ≤ 1 / 2 ^ 53 := by
  have hn : float64 n = n := roundBits_intCast (by omega)
  have hsize : |(n : ℚ) / 10 ^ 9| ≤ 1 := by
    rw [abs_div, abs_of_pos (show (0 : ℚ) < 10 ^ 9 by norm_num), div_le_one (by norm_num)]
    exact_mod_cast h
  rw [hn]
  calc |float64 (n / 10 ^ 9) - n / 10 ^ 9| ≤ |(n : ℚ) / 10 ^ 9| * 2 ^ (-(53 : ℕ) : ℤ) :=
        abs_roundBits_sub_le_mul 53 _
    _ ≤ 1 * 2 ^ (-(53 : ℕ) : ℤ) := mul_le_mul_of_nonneg_right hsize (zpow_pos two_pos _).le
    _ = 1 / 2 ^ 53 := by norm_num

/-- `Seconds` is off by almost nothing. -/
theorem abs_seconds_sub_le {d : ℤ} (h : |d| ≤ 2 ^ 63) :
    |seconds d - d / 10 ^ 9| ≤ 1 / 2 ^ 50 + |(d : ℚ)| / 10 ^ 9 * (1 / 2 ^ 53) := by
  have hsplit : 10 ^ 9 * d.tdiv (10 ^ 9) + d.tmod (10 ^ 9) = d := Int.mul_tdiv_add_tmod d (10 ^ 9)
  have hmod : |d.tmod (10 ^ 9)| ≤ 10 ^ 9 := by
    rw [Int.abs_eq_natAbs, Int.natAbs_tmod]
    norm_num
    omega
  have hdiv : |d.tdiv (10 ^ 9)| < 2 ^ 53 := by
    rw [abs_le] at h hmod
    rw [abs_lt]
    omega
  have hsec : float64 (d.tdiv (10 ^ 9)) = d.tdiv (10 ^ 9) := roundBits_intCast hdiv
  have hnsec := abs_nanoseconds_sub_le hmod
  have hsplit : (d : ℚ) / 10 ^ 9 = d.tdiv (10 ^ 9) + d.tmod (10 ^ 9) / 10 ^ 9 := by
    have hcast : ((10 ^ 9 * d.tdiv (10 ^ 9) + d.tmod (10 ^ 9) : ℤ) : ℚ) = d := congrArg _ hsplit
    push_cast at hcast
    linarith
  rw [seconds, hsec]
  set q := float64 (float64 (d.tmod (10 ^ 9)) / 10 ^ 9)
  have hsum : |float64 (d.tdiv (10 ^ 9) + q) - (d.tdiv (10 ^ 9) + q)| ≤
      |d.tdiv (10 ^ 9) + q| * (1 / 2 ^ 53) := by
    have herr := abs_roundBits_sub_le_mul 53 (d.tdiv (10 ^ 9) + q)
    rwa [show (2 : ℚ) ^ (-(53 : ℕ) : ℤ) = 1 / 2 ^ 53 by norm_num] at herr
  have hsize : |d.tdiv (10 ^ 9) + q| ≤ |(d : ℚ)| / 10 ^ 9 + 1 / 2 ^ 51 := by
    have habs : |(d : ℚ)| / 10 ^ 9 = |(d : ℚ) / 10 ^ 9| := by
      rw [abs_div, abs_of_pos (show (0 : ℚ) < 10 ^ 9 by norm_num)]
    rw [habs]
    calc |d.tdiv (10 ^ 9) + q| = |d / 10 ^ 9 + (q - d.tmod (10 ^ 9) / 10 ^ 9)| := by
          rw [hsplit]
          ring_nf
      _ ≤ |(d : ℚ) / 10 ^ 9| + |q - d.tmod (10 ^ 9) / 10 ^ 9| := abs_add_le _ _
      _ ≤ |(d : ℚ) / 10 ^ 9| + 1 / 2 ^ 51 := by linarith
  rw [abs_le] at hnsec hsum ⊢
  constructor <;> linarith

end GatewayBridge.Go
