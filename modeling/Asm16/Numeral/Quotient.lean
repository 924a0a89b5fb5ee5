import Asm16.Fault

/-!
# Quotients in binary64

A percentage is a quotient of two integers that is rounded to a binary64 number first and cut to an
integer afterwards.  Both steps are exact here, on natural numbers:

* `quotientExponent a b` is the exponent of the leading bit of `a / b`;
* `roundedQuotient a b` is the significand of 53 bits nearest to `a / b`, ties to the even one, with
  the exponent of its last bit;
* `truncate` cuts such a number towards zero.

The quotient that is rounded is the exact one, so the result can differ from the plain floor: a
quotient a hair below an integer may be rounded up to it.
-/

namespace Asm16

/-- The quotient nearest to `a / b` among the integers, ties to the even one. -/
def nearestEven (a b : Nat) : Nat :=
  let quotient := a / b
  let rest := a % b
  if 2 * rest < b then quotient
  else if b < 2 * rest then quotient + 1
  else if quotient % 2 = 0 then quotient else quotient + 1

/-- Numerator and denominator of `a / b` divided by a power of two. -/
def scaleDown (a b : Nat) (exponent : Int) : Nat × Nat :=
  if 0 ≤ exponent then (a, b <<< exponent.toNat) else (a <<< (-exponent).toNat, b)

/-- The exponent `e` with `2 ^ e ≤ a / b < 2 ^ (e + 1)`, for positive numbers. -/
def quotientExponent (a b : Nat) : Int :=
  let guess : Int := (a.log2 : Int) - (b.log2 : Int)
  let (above, below) := scaleDown a b guess
  if below ≤ above then guess else guess - 1

/-- A significand and the exponent of its last bit. -/
structure Scaled where
  significand : Nat
  exponent : Int
  deriving DecidableEq, Repr

/-- The number of 53 significant bits nearest to `a / b`. -/
def roundedQuotient (a b : Nat) : Scaled :=
  let exponent := quotientExponent a b - 52
  let (above, below) := scaleDown a b exponent
  ⟨nearestEven above below, exponent⟩

def Scaled.truncate (x : Scaled) : Nat :=
  if 0 ≤ x.exponent then x.significand <<< x.exponent.toNat
  else x.significand >>> (-x.exponent).toNat

/-- The quotient of two natural numbers, rounded to binary64 and cut to an integer; an error when it
is beyond the largest finite number. -/
def truncatedQuotient (a b : Nat) : Except Error Nat :=
  if a = 0 then .ok 0
  else
    let n := (roundedQuotient a b).truncate
    if n < 1 <<< 1024 then .ok n else .error .tooLarge

/-- How much of `total` has been `done`, in percent; nothing to do counts as all done. -/
def percentage (done total : Int) : Except Error Int :=
  if total = 0 then .ok 100
  else
    (truncatedQuotient (done.natAbs * 100) total.natAbs).map fun n =>
      if (done < 0) = (total < 0) then (n : Int) else -(n : Int)

end Asm16
