import Asm16.Fault
import Asm16.Text.Digit

/-!
# Numerals

Numbers are written and read in the positional system.

* `numeral base n` — the digits of `n`, most significant first, small letters above nine.
* `padLeft` — fill up to a width.
* `hexWide width n` — capital hexadecimal digits, at least `width` characters with the sign.
* `valueIn? base t` — the number that the digits `t` stand for, `none` unless `t` is a non-empty
  list of digits of that base.
* `decimal?` — the decimal numeral of an integer.  A decimal numeral has at most `decimalLimit`
  digits; a longer one is neither read nor written.
-/

namespace Asm16

/-- The digits of a number, most significant first. -/
def numeral (base n : Nat) : Text := Nat.toDigits base n

/-- Fill with `c` in front up to the given width. -/
def padLeft (width : Nat) (c : Char) (t : Text) : Text :=
  List.replicate (width - t.length) c ++ t

def padRight (width : Nat) (c : Char) (t : Text) : Text :=
  t ++ List.replicate (width - t.length) c

def upperHex (n : Nat) : Text := (numeral 16 n).map Char.toUpper

/-- Capital hexadecimal digits filled with zeros; a minus sign counts towards the width. -/
def hexWide (width : Nat) (n : Int) : Text :=
  if n < 0 then '-' :: padLeft (width - 1) '0' (upperHex n.natAbs)
  else padLeft width '0' (upperHex n.natAbs)

/-- Two capital hexadecimal digits for a byte. -/
def hexByte (b : BitVec 8) : Text := padLeft 2 '0' (upperHex b.toNat)

/-- The number that a list of digits stands for. -/
def ofDigits (base : Nat) (digits : List Nat) : Nat :=
  digits.foldl (fun n d => n * base + d) 0

/-- The digits of a non-empty text of digits of the given base. -/
def digitsIn? (base : Nat) (t : Text) : Option (List Nat) :=
  if t.isEmpty then none else t.mapM (digitIn? base)

/-- The most digits that a decimal numeral may have. -/
def decimalLimit : Nat := 4300

/-- A decimal numeral with its sign, however long. -/
def signedDecimal (n : Int) : Text :=
  if n < 0 then '-' :: numeral 10 n.natAbs else numeral 10 n.natAbs

/-- The decimal numeral of an integer, as long as it is within the limit. -/
def decimal? (n : Int) : Except Error Text :=
  if n.natAbs < Nat.pow 10 decimalLimit then .ok (signedDecimal n) else .error .longNumeral

/-- The decimal numeral of a count, which is never long enough to meet the limit. -/
def decimal (n : Nat) : Text := numeral 10 n

/-- A number of fewer digits than the limit can be written. -/
theorem decimal?_of_lt {n : Int} {width : Nat} (hwidth : width ≤ decimalLimit)
    (h : n.natAbs < Nat.pow 10 width) : decimal? n = .ok (signedDecimal n) := by
  rw [decimal?]
  -- the limit is a number too long to be computed with
  generalize decimalLimit = limit at hwidth ⊢
  exact if_pos (Nat.lt_of_lt_of_le h (Nat.pow_le_pow_right (by decide) hwidth))

/-! ## Widths -/

theorem length_padLeft (width : Nat) (c : Char) (t : Text) :
    (padLeft width c t).length = max width t.length := by
  simp only [padLeft, List.length_append, List.length_replicate]; omega

theorem length_padRight (width : Nat) (c : Char) (t : Text) :
    (padRight width c t).length = max width t.length := by
  simp only [padRight, List.length_append, List.length_replicate]; omega

theorem length_upperHex_byte (b : BitVec 8) : (upperHex b.toNat).length ≤ 2 := by
  have h : b.toNat < 16 ^ 2 := b.isLt
  simpa [upperHex, numeral] using (Nat.length_toDigits_le_iff (by decide) (by decide)).2 h

@[simp] theorem length_hexByte (b : BitVec 8) : (hexByte b).length = 2 := by
  have := length_upperHex_byte b
  simp only [hexByte, length_padLeft]; omega

/-! ## Reading digits -/

theorem ofDigits_append (base : Nat) (ds es : List Nat) :
    ofDigits base (ds ++ es) = ofDigits base ds * Nat.pow base es.length + ofDigits base es := by
  suffices ∀ acc, es.foldl (fun n d => n * base + d) acc
      = acc * Nat.pow base es.length + ofDigits base es by
    rw [ofDigits, List.foldl_append]; exact this _
  induction es with
  | nil => intro acc; simp [ofDigits]
  | cons e es ih =>
    intro acc
    simp only [List.foldl_cons, List.length_cons, ofDigits]
    rw [ih, ih (0 * base + e)]
    simp [Nat.pow_succ, Nat.add_mul, Nat.mul_assoc, Nat.mul_comm base, Nat.add_assoc]

end Asm16
