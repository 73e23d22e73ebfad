import Mathlib.Algebra.Order.Field.Power
import Mathlib.Algebra.Order.Field.Rat
import Mathlib.Tactic.FieldSimp
import Mathlib.Tactic.GCongr
import Mathlib.Tactic.Linarith
import Mathlib.Tactic.NormNum
import Mathlib.Tactic.Positivity
import Mathlib.Tactic.Ring
import ProviderWallet.Binary64

namespace ProviderWallet.Binary64

def Within (part p q : ℚ) : Prop := |p - q| ≤ part * q

section Within

variable {a b p q r s : ℚ}

theorem Within.mono (h : Within a p q) (le : a ≤ b) (pos : 0 ≤ q) : Within b p q :=
  h.trans (mul_le_mul_of_nonneg_right le pos)

theorem Within.le (h : Within a p q) : p ≤ (1 + a) * q := by
  have := (abs_le.mp h).2
  linarith

theorem Within.ge (h : Within a p q) : (1 - a) * q ≤ p := by
  have := (abs_le.mp h).1
  linarith

theorem Within.mul_right (h : Within a p q) (pos : 0 ≤ r) : Within a (p * r) (q * r) := by
  unfold Within at h ⊢
  rw [← sub_mul, abs_mul, abs_of_nonneg pos, ← mul_assoc]
  exact mul_le_mul_of_nonneg_right h pos

theorem Within.trans (h : Within a p q) (h' : Within b q r) (pos : 0 ≤ a) :
    Within (a + b + a * b) p r := by
  have size := h'.le
  unfold Within at h h' ⊢
  calc |p - r|
    _ ≤ |p - q| + |q - r| := abs_sub_le p q r
    _ ≤ a * q + b * r := add_le_add h h'
    _ ≤ a * ((1 + b) * r) + b * r := by gcongr
    _ = (a + b + a * b) * r := by ring

theorem Within.mul (h : Within a p q) (h' : Within b r s) (pos : 0 ≤ r) (pos' : 0 ≤ q)
    (pos_a : 0 ≤ a) : Within (a + b + a * b) (p * r) (q * s) := by
  have left := h.mul_right pos
  have right := h'.mul_right pos'
  rw [mul_comm r, mul_comm s] at right
  exact left.trans right pos_a

end Within

def toRat (x : Binary64) : ℚ := x.mantissa * 2 ^ x.exponent

theorem toRat_nonneg (x : Binary64) : 0 ≤ x.toRat := by
  unfold toRat
  positivity

theorem powerOfTwo_pos (e : Int) : 0 < (powerOfTwo e).1 ∧ 0 < (powerOfTwo e).2 := by
  unfold powerOfTwo
  split
  · exact ⟨Nat.pow_pos Nat.two_pos, Nat.one_pos⟩
  · exact ⟨Nat.one_pos, Nat.pow_pos Nat.two_pos⟩

theorem powerOfTwo_eq (e : Int) :
    ((powerOfTwo e).1 : ℚ) / (powerOfTwo e).2 = 2 ^ e := by
  unfold powerOfTwo
  split
  · rename_i large
    obtain ⟨k, rfl⟩ := Int.eq_ofNat_of_zero_le large
    simp
  · rename_i small
    obtain ⟨k, same⟩ := Int.eq_ofNat_of_zero_le (show 0 ≤ -e by omega)
    obtain rfl : e = -k := by omega
    simp

theorem ratio_eq (x : Binary64) : (x.ratio.1 : ℚ) / x.ratio.2 = x.toRat := by
  rw [toRat, ← powerOfTwo_eq, ratio]
  push_cast
  ring

/-- A number with an exponent that is not negative is an integer. -/
theorem toNat?_eq {x : Binary64} (whole : 0 ≤ x.exponent) :
    ∃ n, x.toNat? = some n ∧ (n : ℚ) = x.toRat := by
  obtain ⟨k, same⟩ := Int.eq_ofNat_of_zero_le whole
  refine ⟨x.mantissa * 2 ^ k, ?_, ?_⟩
  · rw [toNat?, ratio, powerOfTwo, if_pos whole, same]
    simp [Nat.mod_one]
  · rw [toRat, same]
    push_cast
    simp

/-- Rounding to an integer errs by at most a half. -/
theorem roundDiv_near (num : Nat) {den : Nat} (pos : 0 < den) :
    |(roundDiv num den : ℚ) - num / den| ≤ 1 / 2 := by
  have pos' : (0 : ℚ) < den := by exact_mod_cast pos
  have parts : (num : ℚ) / den = (num / den : ℕ) + (num % den : ℕ) / den := by
    have whole : (num : ℚ) = den * (num / den : ℕ) + (num % den : ℕ) := by
      exact_mod_cast (Nat.div_add_mod num den).symm
    rw [add_div' _ _ _ pos'.ne', mul_comm, ← whole]
  have rest : (0 : ℚ) ≤ (num % den : ℕ) / den := by positivity
  have rest' : ((num % den : ℕ) : ℚ) / den < 1 := by
    rw [div_lt_one pos']
    exact_mod_cast Nat.mod_lt num pos
  have down (low : 2 * (num % den) ≤ den) : |((num / den : ℕ) : ℚ) - num / den| ≤ 1 / 2 := by
    have small : ((num % den : ℕ) : ℚ) / den ≤ 1 / 2 := by
      rw [div_le_div_iff₀ pos' two_pos, mul_comm, one_mul]
      exact_mod_cast low
    rw [parts, sub_add_cancel_left, abs_neg, abs_of_nonneg rest]
    exact small
  have up (high : den ≤ 2 * (num % den)) : |((num / den + 1 : ℕ) : ℚ) - num / den| ≤ 1 / 2 := by
    have large : 1 / 2 ≤ ((num % den : ℕ) : ℚ) / den := by
      rw [div_le_div_iff₀ two_pos pos', mul_comm _ (2 : ℚ), one_mul]
      exact_mod_cast high
    rw [parts, Nat.cast_add, Nat.cast_one, add_sub_add_left_eq_sub, abs_of_pos (by linarith)]
    linarith
  unfold roundDiv
  dsimp only
  split_ifs
  · exact down (by omega)
  · exact up (by omega)
  · exact down (by omega)
  · exact up (by omega)

/-- The logarithms of both parts tell the logarithm of a ratio up to one. -/
theorem ratio_between {num den : Nat} (some : num ≠ 0) (some' : den ≠ 0) :
    (2 : ℚ) ^ ((num.log2 : Int) - den.log2 - 1) < num / den ∧
      (num : ℚ) / den < 2 ^ ((num.log2 : Int) - den.log2 + 1) := by
  have low : ((2 ^ num.log2 : ℕ) : ℚ) ≤ num := by exact_mod_cast Nat.log2_self_le some
  have high : (num : ℚ) < (2 ^ (num.log2 + 1) : ℕ) := by exact_mod_cast Nat.lt_log2_self
  have low' : ((2 ^ den.log2 : ℕ) : ℚ) ≤ den := by exact_mod_cast Nat.log2_self_le some'
  have high' : (den : ℚ) < (2 ^ (den.log2 + 1) : ℕ) := by exact_mod_cast Nat.lt_log2_self
  push_cast at low high low' high'
  have pos : (0 : ℚ) < den := by positivity
  have zpow_split (a b : Nat) : (2 : ℚ) ^ ((a : Int) - b) = 2 ^ a / 2 ^ b := by
    rw [zpow_sub₀ two_ne_zero, zpow_natCast, zpow_natCast]
  constructor
  · rw [show (num.log2 : Int) - den.log2 - 1 = num.log2 - (den.log2 + 1 : ℕ) by push_cast; ring,
      zpow_split]
    exact (div_lt_div_iff₀ (by positivity) pos).mpr
      (mul_lt_mul' low high' pos.le (by positivity))
  · rw [show (num.log2 : Int) - den.log2 + 1 = (num.log2 + 1 : ℕ) - den.log2 by push_cast; ring,
      zpow_split]
    exact (div_lt_div_iff₀ pos (by positivity)).mpr
      (mul_lt_mul high low' (by positivity) (by positivity))

/-- The exponent with which a ratio has 53 bits before the point. -/
def lastPlace (num den : Nat) : Int :=
  let guess : Int := (Nat.log2 num : Int) - Nat.log2 den - 53
  let fits (e : Int) : Bool :=
    let (a, b) := powerOfTwo e
    num * b < Nat.pow 2 53 * den * a
  if fits guess then guess else guess + 1

/-- With this exponent the ratio has 53 bits before the point. -/
theorem lastPlace_spec {num den : Nat} (some : num ≠ 0) (some' : den ≠ 0) :
    (2 : ℚ) ^ (52 + lastPlace num den) ≤ num / den ∧
      (num : ℚ) / den < 2 ^ (53 + lastPlace num den) := by
  obtain ⟨low, high⟩ := ratio_between some some'
  unfold lastPlace
  generalize guessed : (num.log2 : Int) - den.log2 - 53 = guess
  have fits : num * (powerOfTwo guess).2 < Nat.pow 2 53 * den * (powerOfTwo guess).1 ↔
      (num : ℚ) / den < 2 ^ (53 + guess) := by
    obtain ⟨pos, pos'⟩ := powerOfTwo_pos guess
    rw [zpow_add₀ two_ne_zero, ← powerOfTwo_eq guess, ← mul_div_assoc,
      div_lt_div_iff₀ (by positivity) (by positivity)]
    norm_cast
    rw [Nat.mul_right_comm]
    rfl
  simp only [decide_eq_true_eq]
  split_ifs with below
  · refine ⟨?_, fits.mp below⟩
    rw [show 52 + guess = (num.log2 : Int) - den.log2 - 1 by omega]
    exact low.le
  · rw [fits, not_lt] at below
    rw [show 52 + (guess + 1) = 53 + guess by ring,
      show 53 + (guess + 1) = (num.log2 : Int) - den.log2 + 1 by omega]
    exact ⟨below, high⟩

def carried (m : Nat) (e : Int) : Option Binary64 :=
  let (m, e) := if m = Nat.pow 2 53 then (Nat.pow 2 52, e + 1) else (m, e)
  if maxExponent < e then none else some ⟨m, e⟩

/-- To carry a bit over changes no value. -/
theorem carried_eq {e : Int} (m : Nat) (small : e < maxExponent) :
    ∃ x, carried m e = some x ∧ x.toRat = m * 2 ^ e ∧ e ≤ x.exponent := by
  unfold carried
  by_cases full : m = Nat.pow 2 53
  · rw [if_pos full]
    refine ⟨⟨Nat.pow 2 52, e + 1⟩, if_neg (by omega), ?_, by dsimp only; omega⟩
    rw [toRat, full, zpow_add₀ two_ne_zero]
    norm_num
    ring
  · rw [if_neg full]
    exact ⟨⟨m, e⟩, if_neg (by omega), rfl, Int.le_refl e⟩

theorem ofRatio_eq {num den : Nat} (some : num ≠ 0) (some' : den ≠ 0) :
    ofRatio num den =
      let e := max (lastPlace num den) minExponent
      carried (roundDiv (num * (powerOfTwo e).2) (den * (powerOfTwo e).1)) e := by
  unfold ofRatio
  rw [if_neg (by simp [some, some'])]
  rfl

/-- A ratio that is neither too small nor too large is rounded within one part in `2 ^ 53`, and a
large one to an integer. -/
theorem ofRatio_near {num den : Nat} {q : ℚ} (ratio : (num : ℚ) / den = q) (low : 1 ≤ q)
    (high : q < 2 ^ 200) : ∃ x, ofRatio num den = some x ∧ Within (1 / 2 ^ 53) x.toRat q ∧
      (2 ^ 53 ≤ q → 0 ≤ x.exponent) := by
  have some : num ≠ 0 := by
    rintro rfl
    rw [← ratio] at low
    norm_num at low
  have some' : den ≠ 0 := by
    rintro rfl
    rw [← ratio] at low
    norm_num at low
  obtain ⟨least, most⟩ := lastPlace_spec some some'
  rw [ofRatio_eq some some']
  rw [ratio] at least most
  generalize lastPlace num den = e at least most ⊢
  have normal : -52 ≤ e := by
    have := lt_of_le_of_lt low most
    rw [one_lt_zpow_iff_right₀ one_lt_two] at this
    omega
  have bounded : e < 148 := by
    have := lt_of_le_of_lt least high
    rw [← zpow_natCast, zpow_lt_zpow_iff_right₀ one_lt_two] at this
    push_cast at this
    omega
  rw [max_eq_left (by rw [minExponent]; omega)]
  obtain ⟨pos, pos'⟩ := powerOfTwo_pos e
  have near := roundDiv_near (num * (powerOfTwo e).2)
    (Nat.mul_pos (Nat.pos_of_ne_zero some') pos)
  dsimp only
  generalize roundDiv _ _ = m at near ⊢
  have unit : (0 : ℚ) < 2 ^ e := by positivity
  have shifted : ((num * (powerOfTwo e).2 : ℕ) : ℚ) / (den * (powerOfTwo e).1 : ℕ) = q / 2 ^ e := by
    rw [← ratio, ← powerOfTwo_eq]
    push_cast
    field_simp
  -- The error is half a unit of the last place, and the ratio has at least `2 ^ 52` of them.
  have close : Within (1 / 2 ^ 53) (m * 2 ^ e) q := by
    rw [shifted] at near
    rw [zpow_add₀ two_ne_zero] at least
    have same : m * 2 ^ e - q = (m - q / 2 ^ e) * 2 ^ e := by field_simp
    unfold Within
    rw [same, abs_mul, abs_of_pos unit]
    calc |(m : ℚ) - q / 2 ^ e| * 2 ^ e
      _ ≤ 1 / 2 * 2 ^ e := by gcongr
      _ = 1 / 2 ^ 53 * (2 ^ (52 : ℤ) * 2 ^ e) := by norm_num; ring
      _ ≤ 1 / 2 ^ 53 * q := by gcongr
  have whole (large : 2 ^ 53 ≤ q) : 0 ≤ e := by
    have := lt_of_le_of_lt large most
    rw [← zpow_natCast, zpow_lt_zpow_iff_right₀ one_lt_two] at this
    push_cast at this
    omega
  obtain ⟨x, made, value, least'⟩ := carried_eq m (show e < maxExponent by rw [maxExponent]; omega)
  rw [← value] at close
  exact ⟨x, made, close, fun large => (whole large).trans least'⟩

/-- A product of moderate size errs by at most one part in `2 ^ 53`. -/
theorem mul_near {x y : Binary64} (low : 1 ≤ x.toRat * y.toRat)
    (high : x.toRat * y.toRat < 2 ^ 200) :
    ∃ z, x.mul y = some z ∧ Within (1 / 2 ^ 53) z.toRat (x.toRat * y.toRat) ∧
      (2 ^ 53 ≤ x.toRat * y.toRat → 0 ≤ z.exponent) := by
  have ratio : ((x.ratio.1 * y.ratio.1 : ℕ) : ℚ) / (x.ratio.2 * y.ratio.2 : ℕ) =
      x.toRat * y.toRat := by
    push_cast
    rw [← div_mul_div_comm, ratio_eq, ratio_eq]
  exact ofRatio_near ratio low high

end ProviderWallet.Binary64
