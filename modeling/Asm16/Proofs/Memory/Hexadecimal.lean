import Asm16.Memory.Cells
import Asm16.Proofs.Program.Literal
import Asm16.Text.Line

/-!
# Hexadecimal text that is read back

Panels and dumps write addresses and bytes in hexadecimal.  The readers here know nothing of how
that is done: they take digits of either case by position, and are judged by the grammar of digits.

* `hexadecimal?` — the number that digits spell (`hexadecimal?_eq_some_iff`).
* `address?` — an address in five digits or more (`address?_eq_some_iff`).
* `byteField?` — a byte in two digits (`byteField?_eq_some_iff`).
* `fields`, `readBytes?` — the pieces of a text between its blanks, each read as a byte.

What is written comes back: `address?_hexWide`, `byteField?_hexByte`, `readBytes?_hexBytes`.
-/

namespace Asm16

/-! ## Readers -/

/-- The number that hexadecimal digits stand for. -/
def hexadecimal? (t : Text) : Option Nat := (digitsIn? 16 t).map (ofDigits 16)

/-- The address in a label of at least five digits. -/
def address? (t : Text) : Option Nat := if 5 ≤ t.length then hexadecimal? t else none

/-- The byte in a field of two digits. -/
def byteField? (t : Text) : Option Byte :=
  if t.length = 2 then (hexadecimal? t).map (BitVec.ofNat 8) else none

/-- The pieces of a text between its blanks. -/
def fields (t : Text) : List Text := (Text.cut ' ' t).filter fun piece => !piece.isEmpty

/-- The bytes in the fields of a text. -/
def readBytes? (t : Text) : Option (List Byte) := (fields t).mapM byteField?

lemma hexadecimal?_eq_some_iff {t : Text} {n : Nat} : hexadecimal? t = some n ↔ Spells 16 t n := by
  rw [hexadecimal?, Option.map_eq_some_iff, spells_iff (Nat.le_refl 16)]

lemma address?_eq_some_iff {t : Text} {a : Nat} :
    address? t = some a ↔ 5 ≤ t.length ∧ Spells 16 t a := by
  rw [address?, Option.ite_none_right_eq_some, hexadecimal?_eq_some_iff]

lemma Spells.lt_pow {base n : Nat} {t : Text} (h : Spells base t n) :
    n < Nat.pow base t.length := by
  induction h with
  | digit hc => simpa using hc.1
  | @cons c d t n first rest ih =>
      calc d * Nat.pow base t.length + n < d * Nat.pow base t.length + Nat.pow base t.length := by
            omega
        _ = (d + 1) * Nat.pow base t.length := (Nat.succ_mul _ _).symm
        _ ≤ base * Nat.pow base t.length := Nat.mul_le_mul_right _ first.1
        _ = Nat.pow base (c :: t).length := by
            rw [List.length_cons, Nat.mul_comm, Nat.pow_eq, Nat.pow_eq, Nat.pow_succ]

lemma byteField?_eq_some_iff {t : Text} {b : Byte} :
    byteField? t = some b ↔ t.length = 2 ∧ Spells 16 t b.toNat := by
  simp only [byteField?, Option.ite_none_right_eq_some, Option.map_eq_some_iff,
    hexadecimal?_eq_some_iff]
  refine and_congr_right fun htwo => ⟨?_, fun h => ⟨b.toNat, h, BitVec.ofNat_toNat ..⟩⟩
  rintro ⟨n, hn, rfl⟩
  have hsmall : n < 256 := by simpa [htwo] using hn.lt_pow
  rwa [BitVec.toNat_ofNat, Nat.mod_eq_of_lt hsmall]

/-! ## Digits that are written -/

/-- Capitals spell what small letters spell. -/
lemma Spells.map_toUpper {n : Nat} {t : Text} (h : Spells 16 t n) :
    Spells 16 (t.map Char.toUpper) n := by
  have hupper : ∀ c ∈ t, c.toUpper.toLower = c.toLower := h.of_digits fun c d hc =>
    of_ascii (p := fun c => c.toUpper.toLower = c.toLower) (by decide +kernel)
      (toNat_lt_of_toLower_mem (List.mem_append_left _ hc.mem))
  have hfold : Text.asciiLower (t.map Char.toUpper) = t.asciiLower := by
    rw [Text.asciiLower, Text.asciiLower, List.map_map]
    exact List.map_congr_left hupper
  have hbase : 16 ≤ 16 := Nat.le_refl 16
  rwa [spells_iff hbase, ← digitsIn?_asciiLower hbase, hfold, digitsIn?_asciiLower hbase,
    ← spells_iff hbase]

lemma spells_padLeft_upperHex (width n : Nat) : Spells 16 (padLeft width '0' (upperHex n)) n :=
  (spells_numeral (by decide) (Nat.le_refl 16) n).map_toUpper.zeros (by decide) _

lemma hexWide_natCast (width n : Nat) : hexWide width n = padLeft width '0' (upperHex n) := by
  rw [hexWide, if_neg (by omega), Int.natAbs_natCast]

lemma spells_hexWide (width n : Nat) : Spells 16 (hexWide width n) n := by
  rw [hexWide_natCast]
  exact spells_padLeft_upperHex width n

lemma spells_hexByte (b : Byte) : Spells 16 (hexByte b) b.toNat := spells_padLeft_upperHex 2 b.toNat

/-- **Every address is read back from its label.** -/
lemma address?_hexWide (n : Nat) : address? (hexWide 5 n) = some n := by
  refine address?_eq_some_iff.2 ⟨?_, spells_hexWide 5 n⟩
  rw [hexWide_natCast, length_padLeft]
  omega

lemma byteField?_hexByte (b : Byte) : byteField? (hexByte b) = some b :=
  byteField?_eq_some_iff.2 ⟨length_hexByte b, spells_hexByte b⟩

/-! ## Characters beside the digits -/

/-- What is no digit does not occur in a number. -/
lemma Spells.not_mem {base n : Nat} {t : Text} {c : Char} (h : Spells base t n)
    (hc : c.toLower ∉ digitSigns) : c ∉ t :=
  fun hmem => hc (h.of_digits (fun _ _ hd => hd.mem) c hmem)

lemma Spells.not_isBreak {base n : Nat} {t : Text} (h : Spells base t n) :
    ∀ c ∈ t, isBreak c = false :=
  h.of_digits fun c d hd =>
    of_ascii (p := fun c => c.toLower ∈ digitSigns → isBreak c = false) (by decide +kernel)
      (toNat_lt_of_toLower_mem (List.mem_append_left _ hd.mem)) hd.mem

/-- What holds of digits and of the blank holds throughout bytes as text. -/
lemma forall_mem_hexBytes {p : Char → Prop} (hdigits : ∀ b, ∀ c ∈ hexByte b, p c) (hblank : p ' ')
    (bs : List Byte) : ∀ c ∈ Cells.hexBytes bs, p c := by
  induction bs with
  | nil => exact fun _ hc => absurd hc List.not_mem_nil
  | cons b bs ih =>
      cases bs with
      | nil => exact hdigits b
      | cons b' bs =>
          intro c hc
          rw [Cells.hexBytes, List.map_cons, Text.joinWith_cons _ _ (by simp), List.mem_append,
            List.mem_append, List.mem_singleton] at hc
          rcases hc with (hc | rfl) | hc
          · exact hdigits b c hc
          · exact hblank
          · exact ih c hc

lemma not_mem_hexBytes {c : Char} (hdigit : c.toLower ∉ digitSigns) (hblank : c ≠ ' ')
    (bs : List Byte) : c ∉ Cells.hexBytes bs := by
  have hbyte : ∀ b, ∀ d ∈ hexByte b, d ≠ c := by
    rintro b d hd rfl
    exact (spells_hexByte b).not_mem hdigit hd
  exact fun hmem => forall_mem_hexBytes hbyte hblank.symm bs c hmem rfl

/-! ## Fields -/

lemma fields_of_not_mem {t : Text} (hne : t ≠ []) (hblank : ' ' ∉ t) : fields t = [t] := by
  rw [fields, Text.cut_of_not_mem ' ' hblank, List.filter_cons, if_pos (by simpa using hne)]
  rfl

lemma fields_append {t : Text} (hne : t ≠ []) (hblank : ' ' ∉ t) (rest : Text) :
    fields (t ++ ' ' :: rest) = t :: fields rest := by
  rw [fields, Text.cut_append ' ' hblank, List.filter_cons, if_pos (by simpa using hne)]
  rfl

lemma fields_blank (t : Text) : fields (' ' :: t) = fields t := rfl

lemma fields_blanks (k : Nat) : fields (List.replicate k ' ') = [] := by
  induction k with
  | zero => rfl
  | succ k ih => rw [List.replicate_succ, fields_blank, ih]

lemma hexByte_ne_nil (b : Byte) : hexByte b ≠ [] := (spells_hexByte b).ne_nil

lemma blank_not_mem_hexByte (b : Byte) : ' ' ∉ hexByte b := (spells_hexByte b).not_mem (by decide)

/-- Every byte is a field of its own, and blanks behind them make no other. -/
lemma fields_hexBytes (bs : List Byte) (k : Nat) :
    fields (Cells.hexBytes bs ++ List.replicate k ' ') = bs.map hexByte := by
  induction bs with
  | nil => exact fields_blanks k
  | cons b bs ih =>
      cases bs with
      | nil =>
          rw [Cells.hexBytes, List.map_singleton, Text.joinWith_singleton]
          cases k with
          | zero =>
              rw [List.replicate_zero, List.append_nil]
              exact fields_of_not_mem (hexByte_ne_nil b) (blank_not_mem_hexByte b)
          | succ k =>
              rw [List.replicate_succ, fields_append (hexByte_ne_nil b) (blank_not_mem_hexByte b),
                fields_blanks]
      | cons b' bs =>
          rw [Cells.hexBytes, List.map_cons, Text.joinWith_cons _ _ (by simp), List.append_assoc,
            List.append_assoc, List.singleton_append,
            fields_append (hexByte_ne_nil b) (blank_not_mem_hexByte b)]
          exact congrArg _ ih

/-- What is written item by item is read item by item. -/
lemma mapM_map_eq_some {ι α β : Type} {write : ι → α} {read : α → Option β} {meant : ι → β}
    (h : ∀ i, read (write i) = some (meant i)) (items : List ι) :
    (items.map write).mapM read = some (items.map meant) := by
  induction items with
  | nil => rfl
  | cons i items ih => simp [h i, ih]

lemma mapM_byteField?_hexByte (bs : List Byte) : (bs.map hexByte).mapM byteField? = some bs := by
  rw [mapM_map_eq_some byteField?_hexByte, List.map_id']

/-- **Bytes are read back from their fields**, with or without blanks behind them. -/
lemma readBytes?_hexBytes (bs : List Byte) (k : Nat) :
    readBytes? (Cells.hexBytes bs ++ List.replicate k ' ') = some bs := by
  rw [readBytes?, fields_hexBytes, mapM_byteField?_hexByte]

end Asm16
