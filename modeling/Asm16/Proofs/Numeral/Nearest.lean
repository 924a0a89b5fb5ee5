import Asm16.Numeral.Quotient
import Mathlib.Algebra.Order.Field.Power
import Mathlib.Data.Rat.Floor
import Mathlib.Tactic.FieldSimp
import Mathlib.Tactic.Linarith
import Mathlib.Tactic.Ring

/-!
# Rounding to nearest

A quotient is rounded by finding the place of its leading bit and cutting it to an integer at the
place 52 bits further down.  What the result is can be said without the places: no number of 53 bits
is closer to the quotient, and of two that are as close the one with an even significand is taken.

* `Scaled.value`, `Scaled.Fits` — the number that is meant, and that 53 bits are enough for it.
* `IsNearest` — a number of 53 bits is a nearest one, ties to even.
* `isNearest_roundedQuotient` — quotients are rounded so.
* `IsNearest.le_value`, `IsNearest.value_le` — rounding does not cross a number of 53 bits.
* `IsNearest.floor_eq` — so it does not cross an integer either, if there is a number of 53 bits
  between the quotient and the integer.
-/

namespace Asm16

/-! ## Numbers of 53 bits -/

namespace Scaled

/-- The number that a significand and the exponent of its last bit stand for. -/
def value (x : Scaled) : ℚ := x.significand * 2 ^ x.exponent

/-- 53 bits are enough for the number.  The first significand that is longer ends in a zero, and the
number has 53 bits without it. -/
def Fits (x : Scaled) : Prop := x.significand ≤ 2 ^ 53

/-- Cutting a number towards zero gives the integer below it. -/
lemma floor_value (x : Scaled) : ⌊x.value⌋ = x.truncate := by
  obtain ⟨m, e⟩ := x
  simp only [value, truncate]
  split_ifs with he
  · obtain ⟨k, rfl⟩ := Int.eq_ofNat_of_zero_le he
    rw [Int.toNat_natCast, Nat.shiftLeft_eq, zpow_natCast]
    exact_mod_cast Int.floor_natCast (R := ℚ) (m * 2 ^ k)
  · obtain ⟨k, rfl⟩ : ∃ k : ℕ, e = -k := ⟨e.natAbs, by omega⟩
    rw [neg_neg, Int.toNat_natCast, Nat.shiftRight_eq_div_pow, zpow_neg, zpow_natCast,
      ← div_eq_mul_inv]
    exact_mod_cast Rat.floor_natCast_div_natCast m (2 ^ k)

/-- Among numbers of 53 bits those that are not multiples of a unit are less than `2 ^ 52` units. -/
lemma Fits.grid {x : Scaled} (h : x.Fits) (e : ℤ) :
    (∃ k : ℕ, x.value = k * 2 ^ e) ∨ x.value < 2 ^ 52 * 2 ^ e := by
  obtain ⟨m, f⟩ := x
  simp only [Fits, value] at h ⊢
  rcases le_or_gt e f with hle | hlt
  · obtain ⟨k, rfl⟩ := Int.le.dest hle
    refine .inl ⟨m * 2 ^ k, ?_⟩
    rw [zpow_add₀ two_ne_zero, zpow_natCast]
    push_cast
    ring
  · have hm : (m : ℚ) ≤ 2 ^ 53 := by exact_mod_cast h
    have hunit : (2 : ℚ) ^ f ≤ 2 ^ (e - 1) := zpow_le_zpow_right₀ one_le_two (by omega)
    have hhalf : (2 : ℚ) ^ 53 * 2 ^ (e - 1) = 2 ^ 52 * 2 ^ e := by
      rw [zpow_sub_one₀ two_ne_zero]
      ring
    have hvalue : (m : ℚ) * 2 ^ f ≤ 2 ^ 52 * 2 ^ e :=
      hhalf ▸ mul_le_mul hm hunit (by positivity) (by positivity)
    rcases hvalue.eq_or_lt with heq | hlt
    · exact .inl ⟨2 ^ 52, by rw [heq]; norm_num⟩
    · exact .inr hlt

end Scaled

/-- The number of 53 bits is a nearest one, and of two the one with an even significand. -/
structure IsNearest (q : ℚ) (x : Scaled) : Prop where
  fits : x.Fits
  /-- All bits are in use, so that the last one is bit 53 of the number. -/
  full : x.significand = 0 ∨ 2 ^ 52 ≤ x.significand
  closest : ∀ y : Scaled, y.Fits → |x.value - q| ≤ |y.value - q|
  even : ∀ y : Scaled, y.Fits → |y.value - q| = |x.value - q| →
    y.value = x.value ∨ x.significand % 2 = 0

namespace IsNearest

variable {q : ℚ} {x y : Scaled}

/-- Rounding does not go below a number of 53 bits. -/
lemma le_value (h : IsNearest q x) (hy : y.Fits) (hle : y.value ≤ q) : y.value ≤ x.value := by
  have hclosest := h.closest y hy
  rw [abs_of_nonpos (sub_nonpos.2 hle)] at hclosest
  linarith [neg_abs_le (x.value - q)]

/-- Rounding does not go beyond a number of 53 bits. -/
lemma value_le (h : IsNearest q x) (hy : y.Fits) (hle : q ≤ y.value) : x.value ≤ y.value := by
  have hclosest := h.closest y hy
  rw [abs_of_nonneg (sub_nonneg.2 hle)] at hclosest
  linarith [le_abs_self (x.value - q)]

/-- **Rounding does not reach the next integer**, if numbers of 53 bits come closer to it than the
quotient does. -/
lemma floor_eq (h : IsNearest q x) {n t : ℕ} (hlow : n ≤ q) (hhigh : q ≤ n + 1 - 1 / 2 ^ t)
    (hfits : (n + 1) * 2 ^ t ≤ 2 ^ 53) : ⌊x.value⌋ = n := by
  have hpow : 0 < 2 ^ t := Nat.two_pow_pos t
  have hbelow : (⟨n, 0⟩ : Scaled).value = n := by simp [Scaled.value]
  have habove : (⟨(n + 1) * 2 ^ t - 1, -t⟩ : Scaled).value = n + 1 - 1 / 2 ^ t := by
    have hone : 1 ≤ (n + 1) * 2 ^ t := Nat.mul_pos n.succ_pos hpow
    rw [Scaled.value, zpow_neg, zpow_natCast]
    push_cast [hone]
    field_simp
  have hnfits : (⟨n, 0⟩ : Scaled).Fits := by
    have hle : n + 1 ≤ (n + 1) * 2 ^ t := Nat.le_mul_of_pos_right _ hpow
    exact (Nat.le_succ n).trans (hle.trans hfits)
  have hmfits : (⟨(n + 1) * 2 ^ t - 1, -t⟩ : Scaled).Fits := (Nat.sub_le _ _).trans hfits
  have hle := h.le_value hnfits (hbelow ▸ hlow)
  have hlt := h.value_le hmfits (habove ▸ hhigh)
  rw [hbelow] at hle
  rw [habove] at hlt
  have hgap : (0 : ℚ) < 1 / 2 ^ t := by positivity
  exact Int.floor_eq_iff.2 ⟨by exact_mod_cast hle, by push_cast; linarith⟩

end IsNearest

/-! ## Integers -/

/-- An integer that is at most a half away is a nearest one, and another is as close only if it is a
half away. -/
lemma closest_of_half {s : ℚ} {n : ℕ} (h : 2 * |(n : ℚ) - s| ≤ 1) (k : ℕ) :
    |(n : ℚ) - s| ≤ |(k : ℚ) - s| ∧
      (|(k : ℚ) - s| = |(n : ℚ) - s| → k = n ∨ 2 * |(n : ℚ) - s| = 1) := by
  by_cases hk : k = n
  · subst hk
    exact ⟨le_rfl, fun _ => .inl rfl⟩
  · have hapart : (1 : ℚ) ≤ |(k : ℚ) - n| := by
      have hint : (1 : ℤ) ≤ |(k : ℤ) - n| := Int.one_le_abs (by omega)
      exact_mod_cast hint
    have htriangle : |(k : ℚ) - n| ≤ |(k : ℚ) - s| + |(n : ℚ) - s| := by
      rw [abs_sub_comm (n : ℚ) s]
      exact abs_sub_le _ _ _
    exact ⟨by linarith, fun heq => .inr (by linarith)⟩

/-- A quotient is cut to an integer that is at most a half away, and to an even one if it is. -/
lemma nearestEven_spec (a : ℕ) {b : ℕ} (hb : 0 < b) :
    2 * |(nearestEven a b : ℚ) - a / b| ≤ 1 ∧
      (2 * |(nearestEven a b : ℚ) - a / b| = 1 → nearestEven a b % 2 = 0) := by
  have hb' : (0 : ℚ) < b := by exact_mod_cast hb
  obtain ⟨rest, hrest⟩ : ∃ rest : ℚ, rest = (a % b : ℕ) / b := ⟨_, rfl⟩
  have hquotient : (a : ℚ) / b = (a / b : ℕ) + rest := by
    rw [hrest, div_eq_iff hb'.ne', add_mul, div_mul_cancel₀ _ hb'.ne', mul_comm]
    exact_mod_cast (Nat.div_add_mod a b).symm
  have hbelow : 2 * (a % b) < b ↔ 2 * rest < 1 := by
    rw [hrest, ← mul_div_assoc, div_lt_one hb']
    exact_mod_cast Iff.rfl
  have habove : b < 2 * (a % b) ↔ 1 < 2 * rest := by
    rw [hrest, ← mul_div_assoc, one_lt_div hb']
    exact_mod_cast Iff.rfl
  have hnonneg : 0 ≤ rest := hrest ▸ by positivity
  have hle : rest ≤ 1 := by
    rw [hrest, div_le_one hb']
    exact_mod_cast (Nat.mod_lt a hb).le
  have hfloor : |((a / b : ℕ) : ℚ) - ((a / b : ℕ) + rest)| = rest := by
    rw [sub_add_cancel_left, abs_neg, abs_of_nonneg hnonneg]
  have hsucc : |((a / b + 1 : ℕ) : ℚ) - ((a / b : ℕ) + rest)| = 1 - rest := by
    rw [Nat.cast_succ, add_sub_add_left_eq_sub, abs_of_nonneg (sub_nonneg.2 hle)]
  rw [hquotient]
  simp only [nearestEven, hbelow, habove]
  split_ifs with hlt hgt heven
  · rw [hfloor]
    exact ⟨hlt.le, fun h => absurd h hlt.ne⟩
  · rw [hsucc]
    exact ⟨by linarith, fun h => absurd h (by linarith)⟩
  · rw [hfloor]
    exact ⟨le_of_not_gt hgt, fun _ => heven⟩
  · rw [hsucc]
    exact ⟨by linarith, fun _ => by omega⟩

/-! ## The place of the leading bit -/

lemma scaleDown_pos (a : ℕ) {b : ℕ} (hb : 0 < b) (e : ℤ) : 0 < (scaleDown a b e).2 := by
  rw [scaleDown]
  split_ifs
  · exact Nat.shiftLeft_pos_iff.2 hb
  · exact hb

/-- A quotient is scaled by a power of two. -/
lemma scaleDown_mul (a b : ℕ) (e : ℤ) :
    ((scaleDown a b e).1 : ℚ) / (scaleDown a b e).2 * 2 ^ e = a / b := by
  rw [scaleDown]
  split_ifs with he
  · obtain ⟨k, rfl⟩ := Int.eq_ofNat_of_zero_le he
    rw [Int.toNat_natCast, Nat.shiftLeft_eq, zpow_natCast]
    push_cast
    field_simp
  · obtain ⟨k, rfl⟩ : ∃ k : ℕ, e = -k := ⟨e.natAbs, by omega⟩
    rw [neg_neg, Int.toNat_natCast, Nat.shiftLeft_eq, zpow_neg, zpow_natCast]
    push_cast
    field_simp

lemma le_scaleDown_iff (a : ℕ) {b : ℕ} (hb : 0 < b) (e : ℤ) :
    (scaleDown a b e).2 ≤ (scaleDown a b e).1 ↔ (2 : ℚ) ^ e ≤ a / b := by
  have hpos : (0 : ℚ) < (scaleDown a b e).2 := by exact_mod_cast scaleDown_pos a hb e
  have hunit : (0 : ℚ) < 2 ^ e := zpow_pos two_pos e
  rw [← scaleDown_mul a b e, le_mul_iff_one_le_left hunit, one_le_div hpos]
  exact_mod_cast Iff.rfl

/-- The leading bits of two numbers tell the leading bit of their quotient, or the one behind it. -/
lemma quotient_log2 {a b : ℕ} (ha : 0 < a) (hb : 0 < b) :
    (2 : ℚ) ^ ((a.log2 : ℤ) - b.log2 - 1) ≤ a / b ∧
      (a : ℚ) / b < 2 ^ ((a.log2 : ℤ) - b.log2 + 1) := by
  have hb' : (0 : ℚ) < b := by exact_mod_cast hb
  have halow : (2 : ℚ) ^ a.log2 ≤ a := by exact_mod_cast Nat.log2_self_le ha.ne'
  have hahigh : (a : ℚ) < 2 ^ (a.log2 + 1) := by exact_mod_cast Nat.lt_log2_self
  have hblow : (2 : ℚ) ^ b.log2 ≤ b := by exact_mod_cast Nat.log2_self_le hb.ne'
  have hbhigh : (b : ℚ) < 2 ^ (b.log2 + 1) := by exact_mod_cast Nat.lt_log2_self
  have hlow : (2 : ℚ) ^ ((a.log2 : ℤ) - b.log2 - 1) = 2 ^ a.log2 / 2 ^ (b.log2 + 1) := by
    rw [sub_sub, zpow_sub₀ two_ne_zero, zpow_natCast]
    exact_mod_cast rfl
  have hhigh : (2 : ℚ) ^ ((a.log2 : ℤ) - b.log2 + 1) = 2 ^ (a.log2 + 1) / 2 ^ b.log2 := by
    rw [sub_add_eq_add_sub, zpow_sub₀ two_ne_zero, zpow_natCast]
    exact_mod_cast rfl
  rw [hlow, hhigh]
  exact ⟨div_le_div₀ (by positivity) halow hb' hbhigh.le,
    div_lt_div₀ hahigh hblow (by positivity) (by positivity)⟩

/-- **The exponent is that of the leading bit.** -/
lemma quotientExponent_spec {a b : ℕ} (ha : 0 < a) (hb : 0 < b) :
    (2 : ℚ) ^ quotientExponent a b ≤ a / b ∧ (a : ℚ) / b < 2 ^ (quotientExponent a b + 1) := by
  obtain ⟨hlow, hhigh⟩ := quotient_log2 ha hb
  simp only [quotientExponent, le_scaleDown_iff a hb]
  split_ifs with hguess
  · exact ⟨hguess, hhigh⟩
  · rw [sub_add_cancel]
    exact ⟨hlow, not_le.1 hguess⟩

/-! ## The rounded quotient -/

/-- A nearest integer in units of the last bit is a nearest number of 53 bits. -/
lemma isNearest_of_half {s : ℚ} (hlow : 2 ^ 52 ≤ s) (hhigh : s < 2 ^ 53) {n : ℕ}
    (hhalf : 2 * |(n : ℚ) - s| ≤ 1) (heven : 2 * |(n : ℚ) - s| = 1 → n % 2 = 0) (e : ℤ) :
    IsNearest (s * 2 ^ e) ⟨n, e⟩ := by
  have hunit : (0 : ℚ) < 2 ^ e := zpow_pos two_pos e
  -- distances are measured in units
  have hdistance : ∀ k : ℚ, |k * 2 ^ e - s * 2 ^ e| = |k - s| * 2 ^ e := by
    intro k
    rw [← sub_mul, abs_mul, abs_of_pos hunit]
  have hbound := abs_le.1 (show |(n : ℚ) - s| ≤ 1 / 2 by linarith)
  have hfits : n < 2 ^ 53 + 1 := by
    have hlt : (n : ℚ) < 2 ^ 53 + 1 := by linarith
    exact_mod_cast hlt
  have hfull : 2 ^ 52 < n + 1 := by
    have hlt : (2 : ℚ) ^ 52 < n + 1 := by linarith
    exact_mod_cast hlt
  have hfar : ∀ {r : ℚ}, r < 2 ^ 52 * 2 ^ e → |(n : ℚ) * 2 ^ e - s * 2 ^ e| < |r - s * 2 ^ e| := by
    intro r hr
    have hclosest := (closest_of_half hhalf (2 ^ 52)).1
    rw [Nat.cast_pow, Nat.cast_ofNat] at hclosest
    have hfirst : 2 ^ 52 * 2 ^ e ≤ s * 2 ^ e := mul_le_mul_of_nonneg_right hlow hunit.le
    calc |(n : ℚ) * 2 ^ e - s * 2 ^ e| = |(n : ℚ) - s| * 2 ^ e := hdistance n
      _ ≤ |2 ^ 52 - s| * 2 ^ e := mul_le_mul_of_nonneg_right hclosest hunit.le
      _ = s * 2 ^ e - 2 ^ 52 * 2 ^ e := by rw [abs_of_nonpos (sub_nonpos.2 hlow), neg_sub, sub_mul]
      _ < s * 2 ^ e - r := sub_lt_sub_left hr _
      _ = |r - s * 2 ^ e| := by rw [abs_of_nonpos (by linarith), neg_sub]
  refine ⟨Nat.lt_succ_iff.1 hfits, .inr (Nat.lt_succ_iff.1 hfull), fun y hy => ?_,
    fun y hy heq => ?_⟩
  · rcases hy.grid e with ⟨k, hk⟩ | hlt
    · rw [hk, Scaled.value, hdistance, hdistance]
      exact mul_le_mul_of_nonneg_right (closest_of_half hhalf k).1 hunit.le
    · exact (hfar hlt).le
  · rcases hy.grid e with ⟨k, hk⟩ | hlt
    · rw [hk, Scaled.value, hdistance, hdistance, mul_left_inj' hunit.ne'] at heq
      rcases (closest_of_half hhalf k).2 heq with rfl | htie
      · exact .inl hk
      · exact .inr (heven htie)
    · exact absurd heq (hfar hlt).ne'

/-- **A quotient is rounded to a nearest number of 53 bits**, ties to even. -/
theorem isNearest_roundedQuotient {a b : ℕ} (ha : 0 < a) (hb : 0 < b) :
    IsNearest (a / b) (roundedQuotient a b) := by
  obtain ⟨hlow, hhigh⟩ := quotientExponent_spec ha hb
  rw [roundedQuotient]
  generalize quotientExponent a b = e at hlow hhigh ⊢
  have hscale := scaleDown_mul a b (e - 52)
  have hbelow := scaleDown_pos a hb (e - 52)
  generalize scaleDown a b (e - 52) = scaled at hscale hbelow ⊢
  obtain ⟨above, below⟩ := scaled
  simp only at hscale hbelow ⊢
  have hunit : (0 : ℚ) < 2 ^ (e - 52) := zpow_pos two_pos _
  have hfirst : (2 : ℚ) ^ e = 2 ^ 52 * 2 ^ (e - 52) := by
    rw [← zpow_natCast, ← zpow_add₀ two_ne_zero]
    congr 1
    omega
  have hnext : (2 : ℚ) ^ (e + 1) = 2 ^ 53 * 2 ^ (e - 52) := by
    rw [← zpow_natCast, ← zpow_add₀ two_ne_zero]
    congr 1
    omega
  rw [← hscale, hfirst, mul_le_mul_iff_left₀ hunit] at hlow
  rw [← hscale, hnext, mul_lt_mul_iff_left₀ hunit] at hhigh
  obtain ⟨hhalf, heven⟩ := nearestEven_spec above hbelow
  rw [← hscale]
  exact isNearest_of_half hlow hhigh hhalf heven (e - 52)

/-- Nothing is closer to zero than zero. -/
lemma isNearest_zero : IsNearest 0 ⟨0, 0⟩ := by
  have hzero : (⟨0, 0⟩ : Scaled).value = 0 := by simp [Scaled.value]
  refine ⟨Nat.zero_le _, .inl rfl, fun y _ => ?_, fun _ _ _ => .inr rfl⟩
  rw [hzero, sub_zero, abs_zero]
  exact abs_nonneg _

end Asm16
