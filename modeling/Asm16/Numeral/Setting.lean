import Asm16.Numeral.Digits
import Asm16.Text.Blank

/-!
# Integers in settings and options

Settings are typed by people, so their integers are read more generously than literals of a
program:

* blanks may surround the numeral, and a sign may stand in front of it;
* the mark `0x`, `0o` or `0b` may precede the digits when it names the base that is asked for;
* single underscores may stand between digits, and one after a mark;
* digits may come from any script, and so may the blanks next to them.

Base zero leaves the choice to the mark.  Without a mark such a numeral is decimal and may not start
with a zero, unless it is zero altogether.  A numeral whose base is no power of two has at most
`decimalLimit` digits.
-/

namespace Asm16

/-- The blanks that may surround a numeral once it is written in ASCII. -/
def isPlainBlank (c : Char) : Bool :=
  let n := c.toNat
  (9 ≤ n && n ≤ 13) || n == 0x20

/-- The ASCII character that a blank or a digit of another script stands for. -/
def foldScript (c : Char) : Char :=
  if c.toNat < 0x80 then c
  else if isBlank c then ' '
  else match decimalDigit? c with
    | some d => Nat.digitChar d
    | none => c

/-- Without the plain blanks at either end. -/
def trimPlain (t : Text) : Text :=
  ((t.dropWhile isPlainBlank).reverse.dropWhile isPlainBlank).reverse

/-- The base that a mark names. -/
def markedBase? : Char → Option Nat
  | 'x' | 'X' => some 16
  | 'o' | 'O' => some 8
  | 'b' | 'B' => some 2
  | _ => none

/-- The base that a numeral names by its mark, if it has one. -/
def mark? : Text → Option Nat
  | '0' :: c :: _ => markedBase? c
  | _ => none

/-- The base to read a numeral in, and whether zero is the only value it may have. -/
def chooseBase? (base : Int) (t : Text) : Option (Nat × Bool) :=
  if base = 0 then
    match mark? t with
    | some marked => some (marked, false)
    | none => some (10, t.head? == some '0')
  else if 2 ≤ base && base ≤ 36 then some (base.toNat, false)
  else none

/-- Without the mark of the given base, and without the one underscore that may follow it. -/
def dropMark (base : Nat) (t : Text) : Text :=
  if mark? t = some base then
    match t.drop 2 with
    | '_' :: digits => digits
    | digits => digits
  else t

/-- The digits of a numeral with single underscores between them. -/
def dropUnderscores? (t : Text) : Option Text :=
  let groups := t.cut '_'
  if groups.any List.isEmpty then none else some groups.flatten

/-- The base is a power of two, so that digits are read without limit. -/
def isBinaryBase (base : Nat) : Bool := base == 2 || base == 4 || base == 8 || base == 16 || base == 32

/-- The value of a numeral without sign and blanks. -/
def settingMagnitude? (base : Int) (t : Text) : Option Nat := do
  let (b, zeroOnly) ← chooseBase? base t
  let digits ← digitsIn? b (← dropUnderscores? (dropMark b t))
  if !isBinaryBase b && decimalLimit < digits.length then none
  else if zeroOnly && digits.any (· != 0) then none
  else some (ofDigits b digits)

/-- The integer that a setting states in the given base. -/
def parseSetting? (base : Int) (t : Text) : Option Int :=
  match trimPlain (t.map foldScript) with
  | '-' :: rest => (settingMagnitude? base rest).map fun n => -(n : Int)
  | '+' :: rest => (settingMagnitude? base rest).map fun n => (n : Int)
  | rest => (settingMagnitude? base rest).map fun n => (n : Int)

end Asm16
