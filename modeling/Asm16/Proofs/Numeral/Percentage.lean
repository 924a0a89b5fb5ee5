import Asm16.Panel
import Asm16.Proofs.Memory.Panel
import Asm16.Proofs.Numeral.Nearest
import Mathlib.Data.Nat.Cast.Order.Field

/-!
# Percentages

How much of a run is over is shown in percent.  The percentage is a quotient that is rounded to 53
bits before it is cut to an integer, so it could be rounded up to one that it has not reached.

* `exists_isNearest` — cutting a quotient is cutting a number of 53 bits nearest to it.
* `exists_percentage` — below `2 ^ 46` lines there is a number of 53 bits between the quotient and
  the next integer, because the quotient stays away from it by one part in the lines.
* `progressLine_withoutSequences` — what is left of the line that shows it when styles are left out.

`percentage_is_floor` puts these together: the percentage shown is that of the exact quotient.
-/

namespace Asm16

/-! ## The quotient -/

/-- A quotient is cut by way of a number of 53 bits nearest to it. -/
lemma exists_isNearest (a : ℕ) {b : ℕ} (hb : 0 < b) :
    ∃ x : Scaled, IsNearest (a / b) x ∧
      (x.truncate < 1 <<< 1024 → truncatedQuotient a b = .ok x.truncate) := by
  rcases Nat.eq_zero_or_pos a with rfl | ha
  · refine ⟨⟨0, 0⟩, ?_, fun _ => rfl⟩
    rw [Nat.cast_zero, zero_div]
    exact isNearest_zero
  · refine ⟨_, isNearest_roundedQuotient ha hb, fun hfinite => ?_⟩
    simp only [truncatedQuotient, if_neg ha.ne', if_pos hfinite]

lemma percentage_natCast (done : ℕ) {total : ℕ} (hpos : 0 < total) :
    percentage done total = (truncatedQuotient (done * 100) total).map fun n => (n : ℤ) := by
  have hsame : ((done : ℤ) < 0) = ((total : ℤ) < 0) := propext (by omega)
  simp only [percentage, hsame, if_true, Int.natAbs_natCast, Int.natCast_eq_zero,
    if_neg hpos.ne']

/-- A fraction stays away from the next integer by one part in its denominator. -/
lemma div_le_succ_sub (a : ℕ) {b t : ℕ} (hb : 0 < b) (hbound : b < 2 ^ t) :
    (a : ℚ) / b ≤ (a / b : ℕ) + 1 - 1 / 2 ^ t := by
  have hb' : (0 : ℚ) < b := by exact_mod_cast hb
  have hnext : a + 1 ≤ b * (a / b + 1) := Nat.lt_mul_div_succ a hb
  have hnext' : (a : ℚ) + 1 ≤ b * ((a / b : ℕ) + 1) := by exact_mod_cast hnext
  have hpart : (1 : ℚ) / 2 ^ t ≤ 1 / b :=
    one_div_le_one_div_of_le hb' (by exact_mod_cast hbound.le)
  have hquotient : (a : ℚ) / b ≤ (a / b : ℕ) + 1 - 1 / b := by
    rw [le_sub_iff_add_le, ← add_div, div_le_iff₀ hb', mul_comm]
    exact hnext'
  linarith

lemma percent_le {done total : ℕ} (hle : done ≤ total) : 100 * done / total ≤ 100 :=
  Nat.div_le_of_le_mul (by omega)

lemma percent_eq_iff {done total : ℕ} (hle : done ≤ total) (hpos : 0 < total) :
    100 * done / total = 100 ↔ done = total := by
  rw [le_antisymm_iff, and_iff_right (percent_le hle), Nat.le_div_iff_mul_le hpos]
  omega

/-- **The percentage is the floor of the exact quotient**, although that is rounded before. -/
lemma exists_percentage {done total : ℕ} (hle : done ≤ total) (hpos : 0 < total)
    (hbound : total < 2 ^ 46) :
    ∃ x : Scaled, IsNearest (100 * done / total) x ∧ ⌊x.value⌋ = (100 * done / total : ℕ) ∧
      percentage done total = .ok (100 * done / total : ℕ) := by
  obtain ⟨x, hnearest, hquotient⟩ := exists_isNearest (100 * done) hpos
  have hfloor : ⌊x.value⌋ = (100 * done / total : ℕ) := by
    refine hnearest.floor_eq Nat.cast_div_le (div_le_succ_sub _ hpos hbound) ?_
    -- seven bits for the percentage leave 46 of 53 for its fraction
    calc (100 * done / total + 1) * 2 ^ 46 ≤ 101 * 2 ^ 46 :=
          Nat.mul_le_mul_right _ (Nat.succ_le_succ (percent_le hle))
      _ ≤ 2 ^ 53 := by norm_num
  have htruncate : x.truncate = 100 * done / total := by
    rw [x.floor_value] at hfloor
    exact_mod_cast hfloor
  have hfinite : x.truncate < 1 <<< 1024 := by
    rw [htruncate]
    exact (percent_le hle).trans_lt (by decide +kernel)
  rw [Nat.cast_mul, Nat.cast_ofNat] at hnearest
  refine ⟨x, hnearest, hfloor, ?_⟩
  rw [percentage_natCast done hpos, mul_comm, hquotient hfinite, htruncate]
  rfl

/-! ## The line -/

lemma plain_signedDecimal (n : ℤ) : Text.Plain (signedDecimal n) := by
  have hdigits : Text.Plain (numeral 10 n.natAbs) :=
    (spells_numeral (by decide) (by decide) n.natAbs).plain
  rw [signedDecimal]
  split_ifs
  · have hsign : Text.Plain ['-'] := .of_not_mem (by decide)
    exact hsign.append hdigits
  · exact hdigits

/-- What a line of progress says. -/
def progressText (done total percent : ℤ) : Text :=
  text "Progress: " ++ signedDecimal done ++ ['/'] ++ signedDecimal total ++ text " (" ++
    signedDecimal percent ++ text "%)"

lemma plain_progressText (done total percent : ℤ) :
    Text.Plain (progressText done total percent) := by
  have htitle : Text.Plain (text "Progress: ") := .of_not_mem (by decide)
  have hslash : Text.Plain ['/'] := .of_not_mem (by decide)
  have hopen : Text.Plain (text " (") := .of_not_mem (by decide)
  have hclose : Text.Plain (text "%)") := .of_not_mem (by decide)
  exact (((((htitle.append (plain_signedDecimal done)).append hslash).append
    (plain_signedDecimal total)).append hopen).append (plain_signedDecimal percent)).append hclose

/-- **The line is written**, with the percentage, if the numbers are short. -/
lemma progressLine_withoutSequences {done total percent : ℤ} {width : ℕ}
    (hwidth : width ≤ decimalLimit) (hpercentage : percentage done total = .ok percent)
    (hdone : done.natAbs < Nat.pow 10 width) (htotal : total.natAbs < Nat.pow 10 width)
    (hpercent : percent.natAbs < Nat.pow 10 width) :
    (Panel.progressLine done total).map (Text.withoutSequences []) =
      .ok (progressText done total percent) := by
  have hline : Panel.progressLine done total =
      .ok (styled [.magenta] (progressText done total percent)) := by
    simp only [Panel.progressLine, hpercentage, decimal?_of_lt hwidth hdone,
      decimal?_of_lt hwidth htotal, decimal?_of_lt hwidth hpercent, bind, Except.bind]
    rfl
  have hne : progressText done total percent ≠ [] :=
    List.append_ne_nil_of_right_ne_nil _ (by decide)
  have hleft := Text.withoutSequences_styled .magenta (plain_progressText done total percent) hne
    (show ([] : Text).head? ≠ some '\x02' by simp) []
  rw [List.append_nil] at hleft
  rw [hline, Except.map, hleft]
  simp [Text.withoutSequences]

/-! ## Floors -/

/-- **The percentage shown is that of the exact quotient**, below `2 ^ 46` lines.  The quotient is
rounded to a number of 53 bits nearest to it and cut, which gives its floor.  So it is between 0 and
100, does not go down as more is done, and is 100 when everything is done and not before. -/
theorem percentage_is_floor {done total : ℤ} (hdone : 0 ≤ done) (hle : done ≤ total)
    (hpos : 0 < total) (hbound : total < 2 ^ 46) :
    ∃ p : ℤ, percentage done total = .ok p ∧
      (Panel.progressLine done total).map (Text.withoutSequences []) =
        .ok (progressText done total p) ∧
      (∃ x : Scaled, IsNearest (100 * done / total) x ∧ p = ⌊x.value⌋) ∧
      p = ⌊(100 * done / total : ℚ)⌋ ∧ 0 ≤ p ∧ p ≤ 100 ∧ (p = 100 ↔ done = total) ∧
      ∀ later p' : ℤ, done ≤ later → later ≤ total → percentage later total = .ok p' → p ≤ p' := by
  lift done to ℕ using hdone
  lift total to ℕ using hpos.le
  norm_cast at hle hpos hbound
  obtain ⟨x, hnearest, hfloor, hpercentage⟩ := exists_percentage hle hpos hbound
  have hexact : ⌊(100 * done / total : ℚ)⌋ = (100 * done / total : ℕ) := by
    exact_mod_cast Rat.floor_natCast_div_natCast (100 * done) total
  refine ⟨(100 * done / total : ℕ), hpercentage, ?_, ⟨x, hnearest, hfloor.symm⟩, hexact.symm,
    Int.natCast_nonneg _, by exact_mod_cast percent_le hle,
    by exact_mod_cast percent_eq_iff hle hpos, ?_⟩
  · have hwide : 2 ^ 46 < Nat.pow 10 14 := by decide
    have hlimit : 14 ≤ decimalLimit := by decide
    refine progressLine_withoutSequences hlimit hpercentage (by omega) (by omega) ?_
    rw [Int.natAbs_natCast]
    exact (percent_le hle).trans_lt (by decide)
  · intro later p' hlater hend hpercentage'
    lift later to ℕ using by omega
    norm_cast at hlater hend
    obtain ⟨-, -, -, hlast⟩ := exists_percentage hend hpos hbound
    cases hlast.symm.trans hpercentage'
    exact_mod_cast Nat.div_le_div_right (Nat.mul_le_mul_left 100 hlater)

/-- One line before the end of the longest run, nothing is rounded up. -/
theorem percentage_of_last_line_but_one :
    percentage 70368744177662 70368744177663 = .ok 99 := by
  obtain ⟨p, hpercentage, -, -, hfloor, -⟩ :=
    @percentage_is_floor 70368744177662 70368744177663 (by decide) (by decide) (by decide)
      (by decide)
  rw [hpercentage, hfloor]
  norm_num

/-- In a run much longer than that it would be. -/
example : percentage 99999999999999999 100000000000000000 = .ok 100 := by decide +kernel

end Asm16
