import Asm16.Machine.Word
import Asm16.Numeral.Digits
import Std.Data.ExtTreeMap

/-!
# Memory cells

Memory is a fixed number of byte cells, all zero at first.  Only cells that were written are kept,
in a map; the view is `Cells.byte`, a function of the address, and every law is stated on it.

* `put`, `clear` — change one cell, all cells.
* `fits` — an access of some width at some address stays inside memory.
* `slice` — the bytes between two positions, where a negative position counts from the end.
* `window` — rows of sixteen bytes around a start that is moved into memory.
* `dump` — the same bytes as text, with addresses in front and characters behind.
-/

namespace Asm16

/-- The number of bytes in a row of a window or a dump. -/
def rowWidth : Nat := 16

/-- The default number of cells, 1 MiB. -/
def defaultSize : Nat := 1048576

structure Cells where
  size : Nat
  written : Std.ExtTreeMap Nat Byte := ∅

namespace Cells

def blank (size : Nat) : Cells := { size }

def byte (m : Cells) (a : Nat) : Byte := m.written.getD a 0

def put (m : Cells) (a : Nat) (b : Byte) : Cells := { m with written := m.written.insert a b }

def clear (m : Cells) : Cells := { m with written := ∅ }

/-- An access of `width` bytes at `a` stays inside memory. -/
def fits (m : Cells) (a : Int) (width : Nat) : Bool := 0 ≤ a && a + width ≤ m.size

/-- The word at an address, low byte first. -/
def word (m : Cells) (a : Nat) : Word := wordOf (m.byte a) (m.byte (a + 1))

/-! ## The view -/

@[simp] theorem byte_blank (size a : Nat) : (blank size).byte a = 0 := by simp [blank, byte]

@[simp] theorem byte_clear (m : Cells) (a : Nat) : m.clear.byte a = 0 := by simp [clear, byte]

/-- Writing a cell changes that cell and no other. -/
theorem byte_put (m : Cells) (a c : Nat) (b : Byte) :
    (m.put a b).byte c = if a = c then b else m.byte c := by
  simp [put, byte, Std.ExtTreeMap.getD_insert]

@[simp] theorem byte_put_self (m : Cells) (a : Nat) (b : Byte) : (m.put a b).byte a = b := by
  simp [byte_put]

theorem byte_put_of_ne (m : Cells) {a c : Nat} (h : a ≠ c) (b : Byte) :
    (m.put a b).byte c = m.byte c := by simp [byte_put, h]

@[simp] theorem size_blank (size : Nat) : (blank size).size = size := rfl

@[simp] theorem size_put (m : Cells) (a : Nat) (b : Byte) : (m.put a b).size = m.size := rfl

@[simp] theorem size_clear (m : Cells) : m.clear.size = m.size := rfl

/-! ## Several cells -/

/-- The contents of `count` cells from `start` on. -/
def bytes (m : Cells) (start count : Nat) : List Byte :=
  (List.range' start count).map m.byte

@[simp] theorem length_bytes (m : Cells) (start count : Nat) : (m.bytes start count).length = count := by
  simp [bytes]

/-- A position as a count of cells from the front; a negative one counts from the end, and one
beyond an end is moved to it. -/
def position (m : Cells) (i : Int) : Nat :=
  if i < 0 then (i + m.size).toNat else min i.toNat m.size

def slice (m : Cells) (start stop : Int) : List Byte :=
  m.bytes (m.position start) (m.position stop - m.position start)

/-- The byte at an index; a negative one counts from the end. -/
def at? (m : Cells) (i : Int) : Option Byte :=
  if 0 ≤ i && i < m.size then some (m.byte i.toNat)
  else if -m.size ≤ i && i < 0 then some (m.byte (i + m.size).toNat)
  else none

/-! ## Windows -/

/-- Rows of bytes and the address of the first. -/
structure Window where
  start : Int
  rows : List (List Byte)
  deriving DecidableEq, Repr

/-- The start of a window of `rows` rows, moved so that the window stays inside memory if it can. -/
def windowStart (m : Cells) (start rows : Int) : Int :=
  max 0 (min start (m.size - rows * rowWidth))

/-- A window of `rows` rows; a row that runs over the end of memory is cut short. -/
def window (m : Cells) (start rows : Int) : Window :=
  let first := m.windowStart start rows
  { start := first
    rows := (List.range rows.toNat).map fun (r : Nat) =>
      m.slice (first + r * rowWidth) (first + (r + 1) * rowWidth) }

/-! ## Dumps -/

/-- A byte as a character, a point for one that cannot be shown. -/
def shownByte (b : Byte) : Char :=
  if 32 ≤ b.toNat && b.toNat ≤ 126 then Char.ofNat b.toNat else '.'

def hexBytes (bs : List Byte) : Text := Text.joinWith [' '] (bs.map hexByte)

/-- The width of sixteen bytes in hexadecimal. -/
def hexColumn : Nat := 47

/-- One row of a dump: address, bytes, characters. -/
def dumpRow (address : Int) (bs : List Byte) : Text :=
  hexWide 5 address ++ text ": " ++ padRight hexColumn ' ' (hexBytes bs) ++ text " | " ++
    bs.map shownByte

/-- The addresses and the bytes of the rows of a dump. -/
def dumpRows (m : Cells) (start length : Int) : List (Int × List Byte) :=
  let stop := min (start + length) m.size
  let count := ((stop - start + (rowWidth - 1)) / rowWidth).toNat
  (List.range count).map fun (k : Nat) =>
    let address := start + k * rowWidth
    (address, m.slice address (min (address + rowWidth) stop))

/-- The cells from `start` on as text, `length` of them at most. -/
def dump (m : Cells) (start length : Int) : Text :=
  Text.joinWith ['\n'] ((m.dumpRows start length).map fun (address, bs) => dumpRow address bs)

end Cells
end Asm16
