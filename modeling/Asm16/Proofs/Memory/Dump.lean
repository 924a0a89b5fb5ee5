import Asm16.Proofs.Memory.Hexadecimal
import Asm16.Proofs.Memory.Window
import Mathlib.Data.List.Forall2

/-!
# Dumps read back

A row of a dump is a label and a colon, a column of 47 characters with the bytes, and behind a bar
the bytes as characters.  The rows of a dump are the pieces of memory between boundaries sixteen
cells apart, the last of them where the dump stops, so side by side they are what was asked for.

* `DumpLine` — the three parts of a row, taken by their places in the line.
* `ShownAs` — the character that stands for a byte.

`dump_reads_back` says how many rows there are and what each of them has, and that the columns of
all of them, read in order, are the cells from the start to where the dump stops.
-/

namespace Asm16

/-! ## The parts of a row -/

namespace DumpLine

/-- What stands in front of the colon. -/
def label (line : Text) : Text := Text.before ':' line

/-- The 47 characters behind the colon and a blank. -/
def column (line : Text) : Text := (line.drop ((label line).length + 2)).take 47

/-- What follows the column, and a bar between blanks. -/
def shown (line : Text) : Text := line.drop ((label line).length + 2 + 47 + 3)

/-- The bytes in the fields of the column. -/
def bytes? (line : Text) : Option (List Byte) := readBytes? (column line)

end DumpLine

/-- The bytes in the columns of all lines, in order. -/
def readDump? (t : Text) : Option (List Byte) :=
  ((Text.lines t).mapM DumpLine.bytes?).map List.flatten

/-- The character that stands for a byte: its own if it can be printed, a point if not. -/
def ShownAs (b : Byte) (c : Char) : Prop :=
  (32 ≤ b.toNat ∧ b.toNat ≤ 126 → c.toNat = b.toNat) ∧
    (¬ (32 ≤ b.toNat ∧ b.toNat ≤ 126) → c = '.')

/-- A line of a dump with the bytes `bs`, the first of them at the address `a`. -/
structure DumpsRow (line : Text) (a : Nat) (bs : List Byte) : Prop where
  laid : line = DumpLine.label line ++ text ": " ++ DumpLine.column line ++ text " | " ++
    DumpLine.shown line
  labelled : address? (DumpLine.label line) = some a
  width : (DumpLine.column line).length = 47
  read : DumpLine.bytes? line = some bs
  shown : List.Forall₂ ShownAs bs (DumpLine.shown line)

namespace Cells

lemma length_hexBytes (bs : List Byte) : (hexBytes bs).length = 3 * bs.length - 1 := by
  induction bs with
  | nil => rfl
  | cons b bs ih =>
      cases bs with
      | nil => simp [hexBytes]
      | cons b' bs =>
          have hcons : hexBytes (b :: b' :: bs) = hexByte b ++ [' '] ++ hexBytes (b' :: bs) :=
            Text.joinWith_cons _ _ (by simp)
          rw [hcons, List.length_append, List.length_append, ih, length_hexByte]
          simp only [List.length_cons, List.length_nil]
          omega

/-- The column of a row is as wide as sixteen bytes are. -/
lemma length_column {bs : List Byte} (h : bs.length ≤ 16) :
    (padRight hexColumn ' ' (hexBytes bs)).length = 47 := by
  rw [length_padRight, length_hexBytes, hexColumn]
  omega

lemma shownAs_shownByte (b : Byte) : ShownAs b (shownByte b) := by
  have hcode : ∀ n < 127, (Char.ofNat n).toNat = n := by decide
  rw [ShownAs, shownByte]
  constructor
  · intro h
    rw [if_pos (by simpa using h), hcode _ (by omega)]
  · intro h
    rw [if_neg (by simpa using h)]

/-- **A row has its parts where they are looked for.** -/
lemma dumpsRow_dumpRow (a : Nat) {bs : List Byte} (h : bs.length ≤ 16) :
    DumpsRow (dumpRow a bs) a bs := by
  have hcolon : ':' ∉ hexWide 5 a := (spells_hexWide 5 a).not_mem (by decide)
  have hlaid : dumpRow a bs = hexWide 5 a ++ (':' :: ' ' ::
      (padRight hexColumn ' ' (hexBytes bs) ++ (text " | " ++ bs.map shownByte))) := by
    rw [dumpRow, List.append_assoc, List.append_assoc, List.append_assoc]
    rfl
  have hlabel : DumpLine.label (dumpRow a bs) = hexWide 5 a := by
    rw [DumpLine.label, Text.before, hlaid, List.takeWhile_append_of_pos]
    · simp
    · intro c hc
      have hne : c ≠ ':' := fun e => hcolon (e ▸ hc)
      simpa using hne
  have hbehind : ∀ n, (dumpRow a bs).drop ((hexWide 5 a).length + 2 + n) =
      (padRight hexColumn ' ' (hexBytes bs) ++ (text " | " ++ bs.map shownByte)).drop n := by
    intro n
    rw [hlaid, Nat.add_assoc, ← List.drop_drop, List.drop_left, ← List.drop_drop]
    rfl
  have hcolumn : DumpLine.column (dumpRow a bs) = padRight hexColumn ' ' (hexBytes bs) := by
    rw [DumpLine.column, hlabel]
    have hdrop := hbehind 0
    rw [Nat.add_zero, List.drop_zero] at hdrop
    rw [hdrop, ← length_column h, List.take_left]
  have hshown : DumpLine.shown (dumpRow a bs) = bs.map shownByte := by
    rw [DumpLine.shown, hlabel, Nat.add_assoc, hbehind (47 + 3), ← List.drop_drop,
      ← length_column h, List.drop_left]
    rfl
  constructor
  case laid => rw [hlabel, hcolumn, hshown, dumpRow]
  case labelled => rw [hlabel, address?_hexWide]
  case width => rw [hcolumn, length_column h]
  case read => rw [DumpLine.bytes?, hcolumn, padRight, readBytes?_hexBytes]
  case shown =>
    rw [hshown]
    exact List.forall₂_map_right_iff.2 (List.forall₂_same.2 fun b _ => shownAs_shownByte b)

/-! ## Lines -/

lemma not_isBreak_shownByte (b : Byte) : isBreak (shownByte b) = false := by
  have hcode : ∀ n < 127, 32 ≤ n → isBreak (Char.ofNat n) = false := by decide
  rw [shownByte]
  split_ifs with h
  · have hrange : 32 ≤ b.toNat ∧ b.toNat ≤ 126 := by simpa using h
    exact hcode _ (by omega) hrange.1
  · decide

lemma not_isBreak_dumpRow (a : Nat) (bs : List Byte) : ∀ c ∈ dumpRow a bs, isBreak c = false := by
  have hlabel := (spells_hexWide 5 a).not_isBreak
  have hbytes := forall_mem_hexBytes (p := fun c => isBreak c = false)
    (fun b => (spells_hexByte b).not_isBreak) (by decide) bs
  have hblanks : ∀ c ∈ List.replicate (hexColumn - (hexBytes bs).length) ' ',
      isBreak c = false := by
    intro c hc
    rw [List.eq_of_mem_replicate hc]
    decide
  have hcolon : ∀ c ∈ text ": ", isBreak c = false :=
    show ∀ c ∈ [':', ' '], isBreak c = false by simp [isBreak]
  have hbar : ∀ c ∈ text " | ", isBreak c = false :=
    show ∀ c ∈ [' ', '|', ' '], isBreak c = false by simp [isBreak]
  have hshown : ∀ c ∈ bs.map shownByte, isBreak c = false :=
    List.forall_mem_map.2 fun b _ => not_isBreak_shownByte b
  simp only [dumpRow, padRight, List.forall_mem_append]
  exact ⟨⟨⟨⟨hlabel, hcolon⟩, hbytes, hblanks⟩, hbar⟩, hshown⟩

/-! ## The rows of a dump -/

/-- How many cells a dump has from `start` on. -/
def dumped (m : Cells) (start : Nat) (length : Int) : Nat :=
  (min (start + length) (m.size : Int) - start).toNat

/-- The bytes of a row of a dump. -/
def dumpedRow (m : Cells) (start : Nat) (length : Int) (k : Nat) : List Byte :=
  m.bytes (start + 16 * k) (min 16 (m.dumped start length - 16 * k))

/-- A dump has a row for every sixteen cells and for what is left of them. -/
lemma dumpRows_natCast (m : Cells) (start : Nat) (length : Int) :
    m.dumpRows start length =
      (List.range ((m.dumped start length + 15) / 16)).map fun k =>
        (((start + 16 * k : Nat) : Int), m.dumpedRow start length k) := by
  have hcount : ((min (start + length) (m.size : Int) - start + 15) / 16).toNat =
      (m.dumped start length + 15) / 16 := by
    rw [dumped]
    omega
  simp only [dumpRows, rowWidth]
  rw [show ((16 : Nat) : Int) - 1 = 15 from rfl, show ((16 : Nat) : Int) = 16 from rfl, hcount]
  refine List.map_congr_left fun k hk => ?_
  have hrow : 16 * k < m.dumped start length := by
    have := List.mem_range.1 hk
    omega
  have hdumped : (m.dumped start length : Int) = min (start + length) (m.size : Int) - start := by
    rw [dumped] at hrow ⊢
    omega
  have hfirst : (start : Int) + k * 16 = ((start + 16 * k : Nat) : Int) := by
    push_cast
    omega
  have hlast : min ((start : Int) + k * 16 + 16) (min (start + length) m.size) =
      ((start + 16 * k + min 16 (m.dumped start length - 16 * k) : Nat) : Int) := by
    omega
  rw [hlast, hfirst, slice_of_le m (by omega) (by omega), Nat.add_sub_cancel_left]
  rfl

/-- **The rows of a dump, side by side, are the cells that were asked for.** -/
lemma flatten_dumpedRows (m : Cells) (start : Nat) (length : Int) :
    ((List.range ((m.dumped start length + 15) / 16)).map (m.dumpedRow start length)).flatten =
      m.bytes start (m.dumped start length) := by
  have hflat := flatten_bytes m (fun k => start + min (16 * k) (m.dumped start length))
    (fun k => by omega) ((m.dumped start length + 15) / 16)
  have hrows : ∀ k ∈ List.range ((m.dumped start length + 15) / 16),
      m.dumpedRow start length k =
        m.bytes (start + min (16 * k) (m.dumped start length))
          (start + min (16 * (k + 1)) (m.dumped start length) -
            (start + min (16 * k) (m.dumped start length))) := by
    intro k hk
    have hrow := List.mem_range.1 hk
    rw [dumpedRow]
    congr 1 <;> omega
  rw [List.map_congr_left hrows, hflat]
  congr 1
  omega

/-- The lines of a dump are its rows. -/
lemma lines_dump (m : Cells) (start : Nat) (length : Int) :
    Text.lines (m.dump start length) =
      (List.range ((m.dumped start length + 15) / 16)).map fun k =>
        dumpRow ((start + 16 * k : Nat) : Int) (m.dumpedRow start length k) := by
  have hrows : (m.dumpRows start length).map (fun p => dumpRow p.1 p.2) =
      (List.range ((m.dumped start length + 15) / 16)).map fun k =>
        dumpRow ((start + 16 * k : Nat) : Int) (m.dumpedRow start length k) := by
    rw [dumpRows_natCast, List.map_map]
    rfl
  have hdump : m.dump start length =
      Text.joinWith ['\n'] ((m.dumpRows start length).map fun p => dumpRow p.1 p.2) := rfl
  rw [hdump, hrows]
  refine Text.lines_joinWith ?_ ?_
  · exact List.forall_mem_map.2 fun k _ => not_isBreak_dumpRow _ _
  · intro hlast
    obtain ⟨k, -, hempty⟩ := List.mem_map.1 (List.mem_of_getLast? hlast)
    simp [dumpRow] at hempty

end Cells

/-- **A dump can be read back.**  It has as many lines as it takes for the cells from the start to
where the dump stops, sixteen in each.  A line has its label, a column of 47 characters with its
cells, and a character for each of them; the columns of all lines in order are the cells from the
start to the stop, each once. -/
theorem dump_reads_back (m : Cells) (start length : Int) (hstart : 0 ≤ start) :
    let stop := min (start + length) (m.size : Int)
    let lines := Text.lines (m.dump start length)
    (lines.length : Int) = (max 0 (stop - start) + 15) / 16 ∧
      (∀ (k : Nat) (line : Text), lines[k]? = some line →
        DumpsRow line (start.toNat + 16 * k)
          (m.bytes (start.toNat + 16 * k) (min 16 ((stop - start).toNat - 16 * k)))) ∧
      readDump? (m.dump start length) =
        some ((List.range' start.toNat (stop - start).toNat).map m.byte) := by
  obtain ⟨s, rfl⟩ := Int.eq_ofNat_of_zero_le hstart
  intro stop lines
  have hlines : lines = _ := Cells.lines_dump m s length
  have hrow : ∀ k, DumpsRow (Cells.dumpRow ((s + 16 * k : Nat) : Int) (m.dumpedRow s length k))
      (s + 16 * k) (m.dumpedRow s length k) := fun k =>
    Cells.dumpsRow_dumpRow _ (by rw [Cells.dumpedRow, Cells.length_bytes]; omega)
  refine ⟨?_, ?_, ?_⟩
  · rw [hlines, List.length_map, List.length_range, Cells.dumped]
    omega
  · intro k line hline
    rw [hlines, List.getElem?_map, Option.map_eq_some_iff] at hline
    obtain ⟨k', hk, rfl⟩ := hline
    obtain rfl : k = k' := by simpa using (List.getElem?_eq_some_iff.1 hk).2
    exact hrow k
  · have hread : ∀ k, DumpLine.bytes?
        (Cells.dumpRow ((s + 16 * k : Nat) : Int) (m.dumpedRow s length k)) =
          some (m.dumpedRow s length k) := fun k => (hrow k).read
    rw [readDump?, Cells.lines_dump, mapM_map_eq_some hread, Option.map_some,
      Cells.flatten_dumpedRows]
    rfl

/-- A dump of twenty cells from cell 5 on, of which only seventeen are there: a whole line and one
that holds the last cell. -/
theorem dump_reads_back_at_end :
    let m := (Cells.blank 22).put 21 0x41
    (Text.lines (m.dump 5 20)).length = 2 ∧
      (∀ line, (Text.lines (m.dump 5 20))[1]? = some line →
        DumpsRow line 21 [0x41]) ∧
      readDump? (m.dump 5 20) = some ((List.range' 5 17).map m.byte) := by
  intro m
  obtain ⟨hlength, hlines, hread⟩ := dump_reads_back m 5 20 (by decide)
  refine ⟨Int.ofNat_inj.1 (hlength.trans (by decide)), fun line hline => ?_, hread⟩
  have hlast := hlines 1 line hline
  have hbytes : m.bytes 21 1 = [0x41] := by simp [Cells.bytes, m]
  exact hbytes ▸ hlast

end Asm16
