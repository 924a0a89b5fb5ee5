/-!
# Sets of characters as ranges

A character property is a table of closed ranges of code points, in increasing order and apart
from each other.  The tables are data, each in the module named for its property; this module only
says what a table means.
-/

namespace Asm16

/-- Closed ranges of code points, smallest first. -/
abbrev Ranges := List (Nat × Nat)

namespace Ranges

def has (ranges : Ranges) (n : Nat) : Bool :=
  ranges.any fun (low, high) => low ≤ n && n ≤ high

@[simp] theorem has_nil (n : Nat) : has [] n = false := rfl

theorem has_cons (low high : Nat) (ranges : Ranges) (n : Nat) :
    has ((low, high) :: ranges) n = ((low ≤ n && n ≤ high) || has ranges n) := rfl

/-- Below the first range nothing is in the set, when the ranges are in order. -/
theorem has_eq_false_of_lt {ranges : Ranges} {bound n : Nat} (h : n < bound)
    (ho : ∀ r ∈ ranges, bound ≤ r.1) : has ranges n = false := by
  simp only [has, List.any_eq_false, Bool.and_eq_true, decide_eq_true_eq, not_and]
  intro r hr hle
  have := ho r hr
  omega

end Ranges
end Asm16
