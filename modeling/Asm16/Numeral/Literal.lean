import Asm16.Numeral.Digits
import Asm16.Text.Blank

/-!
# Literals

A number in a program is written in one of two forms, with blanks around it allowed:

* a character between single quotes, which stands for its code point;
* an optional sign and digits: `0x` and hexadecimal digits, `0b` and binary digits, `0o` and octal
  digits, or decimal digits alone.  Letters may be of either case; digits are ASCII.

`parseLiteral` answers `none` for any other text.  A decimal numeral beyond the limit has the form
of a literal and cannot be read, which is an error and not `none`.
-/

namespace Asm16

/-- The base of an unsigned numeral and its digits, by the mark in front. -/
def splitBase : Text → Nat × Text
  | '0' :: 'x' :: digits => (16, digits)
  | '0' :: 'b' :: digits => (2, digits)
  | '0' :: 'o' :: digits => (8, digits)
  | digits => (10, digits)

/-- The value of an unsigned numeral in small letters, `none` for a text that is none. -/
def parseMagnitude (t : Text) : Except Error (Option Nat) :=
  let (base, digits) := splitBase t
  match digitsIn? base digits with
  | none => .ok none
  | some ds =>
    if base = 10 && decimalLimit < ds.length then .error .longNumeral
    else .ok (some (ofDigits base ds))

/-- A sign in front and what follows it. -/
def splitSign : Text → Bool × Text
  | '-' :: rest => (true, rest)
  | '+' :: rest => (false, rest)
  | rest => (false, rest)

/-- The value of a signed numeral, `none` for a text that is none. -/
def parseSigned (t : Text) : Except Error (Option Int) :=
  let (negative, magnitude) := splitSign t
  (parseMagnitude magnitude.asciiLower).map fun n? =>
    n?.map fun n => if negative then -(n : Int) else n

/-- The value of a literal, `none` for a text that is none. -/
def parseLiteral (t : Text) : Except Error (Option Int) :=
  match t.trim with
  | ['\'', c, '\''] => .ok (some c.toNat)
  | trimmed => parseSigned trimmed

/-- The character form has the value of its character. -/
theorem parseLiteral_char {c : Char} :
    parseLiteral ['\'', c, '\''] = .ok (some (c.toNat : Int)) := by
  have : Text.trim ['\'', c, '\''] = ['\'', c, '\''] :=
    Text.trim_eq_self (by simp; decide) (by simp; decide)
  simp [parseLiteral, this]

/-- Blanks around a literal do not matter. -/
@[simp] theorem parseLiteral_trim (t : Text) : parseLiteral t.trim = parseLiteral t := by
  simp [parseLiteral]

end Asm16
