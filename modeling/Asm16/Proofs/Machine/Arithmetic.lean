import Asm16.Proofs.Machine.Effect
import Mathlib.Algebra.Group.Nat.Even

/-!
# Sixteen-bit arithmetic

Additions and subtractions are computed with integers of any size, and the flags are taken from these
integers.  What comes of it can be said of words alone: the register holds the result modulo 65536,
and the flags are those of two's-complement arithmetic.

* `overflows_add`, `overflows_sub` — comparing the signs of the operands with that of the result
  finds out whether the signed result is out of range.
* `Machine.GetsResult` — a register has got a result, the flags describe it, and all else is as it was.
* `Machine.getsResult_add`, `getsResult_sub` — what an addition and a subtraction leave behind.
* `Machine.computes_in_words` — the result for instructions.  The carry is that of the words as long
  as the source is a word itself.
-/

namespace Asm16

/-! ## Words and their bits -/

/-- How many of the eight low bits of a word are ones. -/
def Word.lowOnes (w : Word) : Nat := (List.range 8).countP fun i => w.getLsbD i

lemma wordOfInt_eq_zero_iff {n : Int} : wordOfInt n = 0 ↔ n % 65536 = 0 := by
  have hzero : (0 : Word).toNat = 0 := rfl
  rw [← BitVec.toNat_inj, wordOfInt, BitVec.toNat_ofInt, hzero]
  omega

/-- Integers that agree modulo 65536 have the same word. -/
lemma wordOfInt_congr {u v : Int} (h : u % 65536 = v % 65536) : wordOfInt u = wordOfInt v := by
  apply BitVec.eq_of_toNat_eq
  simp only [wordOfInt, BitVec.toNat_ofInt]
  omega

lemma wordOfInt_add (a b : Int) : wordOfInt (a + b) = wordOfInt a + wordOfInt b :=
  BitVec.ofInt_add a b

lemma wordOfInt_sub (a b : Int) : wordOfInt (a - b) = wordOfInt a - wordOfInt b := by
  rw [Int.sub_eq_add_neg, wordOfInt_add, BitVec.sub_eq_add_neg]
  exact congrArg _ BitVec.ofInt_neg

lemma lowByte_eq_setWidth (n : Int) : lowByte n = (wordOfInt n).setWidth 8 := by
  apply BitVec.eq_of_toNat_eq
  simp only [lowByte, wordOfInt, BitVec.toNat_ofInt, BitVec.toNat_setWidth]
  omega

/-- The parity that is computed from the integer is that of the low half of its word. -/
lemma evenParity_lowByte (n : Int) :
    evenParity (lowByte n) = true ↔ Even (wordOfInt n).lowOnes := by
  have hbits : ∀ i ∈ List.range 8, (lowByte n).getLsbD i = (wordOfInt n).getLsbD i := by
    intro i hi
    rw [lowByte_eq_setWidth, BitVec.getLsbD_setWidth]
    simp [List.mem_range.1 hi]
  rw [evenParity, List.filter_congr hbits, ← List.countP_eq_length_filter, beq_iff_eq,
    Nat.even_iff, Word.lowOnes]

/-! ## Signed overflow -/

/-- Two operands of one sign and a result of the other: just then the signed sum is out of range. -/
lemma overflows_add (a b : Int) : overflows a b (a + b) true = true ↔
    ¬ (-32768 ≤ (wordOfInt a).toInt + (wordOfInt b).toInt ∧
      (wordOfInt a).toInt + (wordOfInt b).toInt ≤ 32767) := by
  have hoverflow : overflows a b (a + b) true = (wordOfInt a).saddOverflow (wordOfInt b) := by
    rw [BitVec.saddOverflow_eq, overflows, signBit, signBit, signBit, wordOfInt_add]
    cases (wordOfInt a).msb <;> cases (wordOfInt b).msb <;>
      cases (wordOfInt a + wordOfInt b).msb <;> rfl
  rw [hoverflow, BitVec.saddOverflow]
  simp only [Bool.or_eq_true, decide_eq_true_eq]
  omega

/-- Operands of different signs and a result with the sign of the second: just then the signed
difference is out of range. -/
lemma overflows_sub (a b : Int) : overflows a b (a - b) false = true ↔
    ¬ (-32768 ≤ (wordOfInt a).toInt - (wordOfInt b).toInt ∧
      (wordOfInt a).toInt - (wordOfInt b).toInt ≤ 32767) := by
  have hoverflow : overflows a b (a - b) false = (wordOfInt a).ssubOverflow (wordOfInt b) := by
    rw [BitVec.ssubOverflow_eq, overflows, signBit, signBit, signBit, wordOfInt_sub]
    cases (wordOfInt a).msb <;> cases (wordOfInt b).msb <;>
      cases (wordOfInt a - wordOfInt b).msb <;> rfl
  rw [hoverflow, BitVec.ssubOverflow]
  simp only [Bool.or_eq_true, decide_eq_true_eq]
  omega

/-! ## What an addition or a subtraction leaves behind -/

namespace Machine

/-- A register has got a result, the flags describe it, and all else is as it was.  The result is
given twice: `exact` as it comes from the operands as they are, `signed` as it comes from the
operands read as words with a sign. -/
structure GetsResult (m m' : Machine) (r : Register) (exact signed : Int) : Prop where
  value : m'.valueAt r = exact % 65536
  zero : m'.flags.zf = true ↔ m'.valueAt r = 0
  sign : m'.flags.sf = (m'.registers.get r).getLsbD 15
  parity : m'.flags.pf = true ↔ Even (m'.registers.get r).lowOnes
  auxiliary : m'.flags.af = false
  overflow : m'.flags.of = true ↔ ¬ (-32768 ≤ signed ∧ signed ≤ 32767)
  direction : m'.flags.df = m.flags.df
  added : m'.flags.added = m.flags.added
  others : ∀ q, q ≠ r → m'.valueAt q = m.valueAt q
  memory : m'.memory = m.memory

variable {m : Machine} {r : Register}

lemma wordOfInt_valueAt (m : Machine) (r : Register) : wordOfInt (m.valueAt r) = m.registers.get r :=
  wordOfInt_toInteger _

/-- A register that is set to an integer and flags that are taken from it. -/
lemma getsResult_updateFlags {result signed : Int} {carry overflow : Bool}
    (h : overflow = true ↔ ¬ (-32768 ≤ signed ∧ signed ≤ 32767)) :
    m.GetsResult ((m.put r result).updateFlags result carry overflow) r result signed := by
  have hword : (m.put r result).registers.get r = wordOfInt result := by
    simp only [put, Registers.get_set_self]
  have hvalue : (m.put r result).valueAt r = result % 65536 := valueAt_put_self m r result
  refine ⟨hvalue, ?_, ?_, ?_, rfl, h, rfl, rfl, fun q hq => valueAt_put_of_ne m hq result, rfl⟩
  · show (wordOfInt result == 0) = true ↔ (m.put r result).valueAt r = 0
    rw [hvalue, beq_iff_eq, wordOfInt_eq_zero_iff]
  · show signBit result = ((m.put r result).registers.get r).getLsbD 15
    rw [hword, signBit, BitVec.msb_eq_getLsbD_last]
  · show evenParity (lowByte result) = true ↔ Even ((m.put r result).registers.get r).lowOnes
    rw [hword]
    exact evenParity_lowByte result

lemma getsResult_add (m : Machine) (r : Register) (n : Int) :
    m.GetsResult (m.combined r n true) r (m.valueAt r + n)
      ((m.registers.get r).toInt + (wordOfInt n).toInt) := by
  rw [← wordOfInt_valueAt]
  exact getsResult_updateFlags (overflows_add _ _)

lemma getsResult_sub (m : Machine) (r : Register) (n : Int) :
    m.GetsResult (m.combined r n false) r (m.valueAt r - n)
      ((m.registers.get r).toInt - (wordOfInt n).toInt) := by
  rw [← wordOfInt_valueAt]
  exact getsResult_updateFlags (overflows_sub _ _)

/-- The carry of an addition is taken from the integers. -/
lemma carry_add (m : Machine) (r : Register) (n : Int) :
    (m.combined r n true).flags.cf = true ↔ 65536 ≤ m.valueAt r + n := by
  show decide (0xFFFF < m.valueAt r + n) = true ↔ _
  rw [decide_eq_true_iff]
  omega

/-- So is the borrow of a subtraction. -/
lemma carry_sub (m : Machine) (r : Register) (n : Int) :
    (m.combined r n false).flags.cf = true ↔ m.valueAt r < n := by
  show decide (m.valueAt r < n) = true ↔ _
  rw [decide_eq_true_iff]

/-! ## Instructions -/

variable {dest src : Text} {n : Int}

/-- **Additions and subtractions are those of sixteen-bit words in two's complement.**  The register
`r` ends with the sum or the difference modulo 65536, whatever integer the source is, and the flags
say of it what they say of words: among them the overflow, by the signed readings of both operands.
The carry is that of an addition of words, and the borrow that of a subtraction, if the source is a
word. -/
theorem computes_in_words (hdest : Means dest (.register r)) (hsrc : m.HasValue src n) :
    (∃ m', execute ⟨Mnemonic.add.name, [dest, src]⟩ m = .ok () m' ∧
        m.GetsResult m' r (m.valueAt r + n) ((m.registers.get r).toInt + (wordOfInt n).toInt) ∧
        (0 ≤ n → n ≤ 65535 → (m'.flags.cf = true ↔ 65536 ≤ m.valueAt r + n))) ∧
      ∃ m', execute ⟨Mnemonic.sub.name, [dest, src]⟩ m = .ok () m' ∧
        m.GetsResult m' r (m.valueAt r - n) ((m.registers.get r).toInt - (wordOfInt n).toInt) ∧
        (0 ≤ n → n ≤ 65535 → (m'.flags.cf = true ↔ m.valueAt r < n)) := by
  have hadd : execute (Operation.add dest src).source m = .ok () (m.combined r n true) :=
    execute_source_eq_ok_iff.2 (.add hdest hsrc)
  have hsub : execute (Operation.sub dest src).source m = .ok () (m.combined r n false) :=
    execute_source_eq_ok_iff.2 (.sub hdest hsrc)
  exact ⟨⟨_, hadd, getsResult_add m r n, fun _ _ => carry_add m r n⟩,
    ⟨_, hsub, getsResult_sub m r n, fun _ _ => carry_sub m r n⟩⟩

/-- The lowest word, added to itself and taken from itself: both leave zero, but the sum is out of
range, with and without sign. -/
theorem computes_lowest_word :
    (∃ m', execute ⟨['a', 'd', 'd'], [['A', 'X'], ['0', 'x', '8', '0', '0', '0']]⟩
        ((initial 16).put .ax 32768) = .ok () m' ∧
        m'.valueAt .ax = 0 ∧ m'.flags.zf = true ∧ m'.flags.of = true ∧ m'.flags.cf = true) ∧
      ∃ m', execute ⟨['s', 'u', 'b'], [['A', 'X'], ['0', 'x', '8', '0', '0', '0']]⟩
        ((initial 16).put .ax 32768) = .ok () m' ∧
        m'.valueAt .ax = 0 ∧ m'.flags.zf = true ∧ ¬ m'.flags.of = true ∧ ¬ m'.flags.cf = true := by
  have hdest : Means ['A', 'X'] (.register .ax) := .register rfl
  have hsrc : ((initial 16).put .ax 32768).HasValue ['0', 'x', '8', '0', '0', '0'] 32768 :=
    .immediate (.immediate rfl)
  obtain ⟨⟨m₁, hadd, hsum, hcarry⟩, m₂, hsub, hdifference, hborrow⟩ := computes_in_words hdest hsrc
  refine ⟨⟨m₁, hadd, hsum.value, hsum.zero.2 hsum.value, hsum.overflow.2 ?_, ?_⟩,
    m₂, hsub, hdifference.value, hdifference.zero.2 hdifference.value, ?_, ?_⟩
  · decide
  · exact (hcarry (by decide) (by decide)).2 (by decide)
  · rw [hdifference.overflow]
    decide
  · rw [hborrow (by decide) (by decide)]
    decide

end Machine
end Asm16
