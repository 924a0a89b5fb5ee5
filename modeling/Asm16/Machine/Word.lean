/-!
# Bytes and words

Memory holds bytes and registers hold words of two bytes, low byte first in memory.  Programs
compute with integers of any size; an integer becomes a byte or a word by keeping its low bits, so
negative numbers are stored in two's complement.
-/

namespace Asm16

/-- A memory cell. -/
abbrev Byte := BitVec 8

/-- The contents of a register. -/
abbrev Word := BitVec 16

def lowByte (n : Int) : Byte := BitVec.ofInt 8 n

/-- The second lowest byte of an integer. -/
def highByte (n : Int) : Byte := BitVec.ofInt 8 (n / 256)

def wordOf (low high : Byte) : Word := high ++ low

def wordOfInt (n : Int) : Word := BitVec.ofInt 16 n

/-- Bit 15 of an integer, the sign of a word. -/
def signBit (n : Int) : Bool := (wordOfInt n).msb

/-- The number of one bits of a byte is even. -/
def evenParity (b : Byte) : Bool := ((List.range 8).filter fun i => b.getLsbD i).length % 2 == 0

/-- A word as the integer it has in programs. -/
def Word.toInteger (w : Word) : Int := (w.toNat : Int)

/-! ## Bytes of a word -/

theorem toNat_wordOf (low high : Byte) : (wordOf low high).toNat = low.toNat + 256 * high.toNat := by
  have : low.toNat < 2 ^ 8 := low.isLt
  simp only [wordOf, BitVec.toNat_append]
  rw [← Nat.shiftLeft_add_eq_or_of_lt this, Nat.shiftLeft_eq]
  omega

theorem toNat_lowByte (n : Int) : ((lowByte n).toNat : Int) = n % 256 := by
  simp only [lowByte, BitVec.toNat_ofInt]
  omega

theorem toNat_highByte (n : Int) : ((highByte n).toNat : Int) = n / 256 % 256 := by
  simp only [highByte, BitVec.toNat_ofInt]
  omega

/-- Written as two bytes and read back, an integer is its low sixteen bits. -/
theorem wordOf_low_high (n : Int) : wordOf (lowByte n) (highByte n) = wordOfInt n := by
  apply BitVec.eq_of_toNat_eq
  have hl := toNat_lowByte n
  have hh := toNat_highByte n
  rw [toNat_wordOf]
  simp only [wordOfInt, BitVec.toNat_ofInt]
  omega

@[simp] theorem wordOfInt_toInteger (w : Word) : wordOfInt w.toInteger = w := by
  simp [wordOfInt, Word.toInteger]

end Asm16
