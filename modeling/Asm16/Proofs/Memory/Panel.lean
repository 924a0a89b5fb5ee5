import Asm16.Panel
import Asm16.Proofs.Memory.Hexadecimal
import Asm16.Proofs.Memory.Window
import Asm16.Text.Control

/-!
# The memory panel read back

A panel is text for a terminal: a header, and rows with a label in colour.  Its reader leaves out
the control sequences, as is done where output does not go to a terminal, and takes from each line
behind the header a label and the bytes behind it.  It fails on a label of fewer than five
hexadecimal digits, on a field that is not two of them, and on anything else in a row.

* `withoutSequences_append`, `withoutSequences_sequence` — what is left of text and of styles.
* `readRow?`, `readPanel?` — the reader.

`window_shows_cells` says which cells a window shows and that they are read back from the panel.
-/

namespace Asm16

/-! ## Control sequences left out -/

namespace Text

/-- Nothing in the text begins a control sequence or is a mark beside one. -/
def Plain (t : Text) : Prop := ∀ c ∈ t, c ≠ '\x1b' ∧ c ≠ '\x01' ∧ c ≠ '\x02'

lemma Plain.append {t u : Text} (ht : Plain t) (hu : Plain u) : Plain (t ++ u) :=
  fun c hc => (List.mem_append.1 hc).elim (ht c) (hu c)

lemma Plain.of_not_mem {t : Text} (h : '\x1b' ∉ t ∧ '\x01' ∉ t ∧ '\x02' ∉ t) : Plain t :=
  fun _ hc => ⟨fun e => h.1 (e ▸ hc), fun e => h.2.1 (e ▸ hc), fun e => h.2.2 (e ▸ hc)⟩

lemma Plain.head? {t : Text} (h : Plain t) : t.head? ≠ some '\x02' :=
  fun hhead => (h _ (List.mem_of_mem_head? hhead)).2.2 rfl

/-- A character that begins no control sequence is kept. -/
lemma withoutSequences_cons {c : Char} (hescape : c ≠ '\x1b') (hmark : c ≠ '\x01')
    (kept rest : Text) : withoutSequences kept (c :: rest) = withoutSequences (c :: kept) rest := by
  have hnone : afterSequence? (c :: rest) = none := by
    rw [afterSequence?, afterEscape?]
    · rintro _ _ h
      exact hmark (List.cons.inj h).1
    · rintro _ _ h
      exact hescape (List.cons.inj h).1
  rw [withoutSequences]
  split
  next hsome => rw [hnone] at hsome; cases hsome
  next => rfl

lemma Plain.withoutSequences_append {t : Text} (h : Plain t) (kept rest : Text) :
    withoutSequences kept (t ++ rest) = withoutSequences (t.reverse ++ kept) rest := by
  induction t generalizing kept with
  | nil => rfl
  | cons c t ih =>
      rw [List.cons_append, withoutSequences_cons (h c (by simp)).1 (h c (by simp)).2.1,
        ih fun d hd => h d (by simp [hd])]
      simp

lemma Plain.withoutSequences_eq {t : Text} (h : Plain t) (kept : Text) :
    withoutSequences kept t = kept.reverse ++ t := by
  have hwhole := h.withoutSequences_append kept []
  rw [List.append_nil] at hwhole
  rw [hwhole, withoutSequences]
  simp

lemma dropMark_eq_self {t : Text} (h : t.head? ≠ some '\x02') : dropMark t = t := by
  unfold dropMark
  split
  · exact absurd rfl h
  · rfl

/-- The sequence of a style is left out. -/
lemma withoutSequences_sequence (style : Style) {rest : Text} (h : rest.head? ≠ some '\x02')
    (kept : Text) :
    withoutSequences kept (style.sequence ++ rest) = withoutSequences kept rest := by
  have hafter : afterSequence? (style.sequence ++ rest) = some (dropMark rest) := by
    cases style <;> rfl
  obtain ⟨c, t, ht⟩ : ∃ c t, style.sequence ++ rest = c :: t := ⟨_, _, rfl⟩
  rw [dropMark_eq_self h, ht] at hafter
  rw [ht, withoutSequences]
  split
  next hsome => rw [hafter] at hsome; cases hsome; rfl
  next hnone => rw [hafter] at hnone; cases hnone

/-- **A styled text is left as it was** before it was styled. -/
lemma withoutSequences_styled (style : Style) {t rest : Text} (ht : Plain t) (hne : t ≠ [])
    (hrest : rest.head? ≠ some '\x02') (kept : Text) :
    withoutSequences kept (styled [style] t ++ rest) =
      withoutSequences (t.reverse ++ kept) rest := by
  have hhead : (t ++ (Style.plain.sequence ++ rest)).head? ≠ some '\x02' := by
    obtain ⟨c, u, rfl⟩ := List.exists_cons_of_ne_nil hne
    exact ht.head?
  have hstyled : styled [style] t ++ rest =
      style.sequence ++ (t ++ (Style.plain.sequence ++ rest)) := by
    simp [styled]
  rw [hstyled, withoutSequences_sequence style hhead, ht.withoutSequences_append,
    withoutSequences_sequence .plain hrest]

end Text

/-! ## Reading a row -/

/-- The address and the bytes of a row, control sequences left out. -/
def readRow? (line : Text) : Option (Nat × List Byte) :=
  match fields (Text.withoutSequences [] line) with
  | [] => none
  | label :: bytes =>
    (address? label).bind fun a => (bytes.mapM byteField?).map fun bs => (a, bs)

/-- The rows of a panel, behind its header. -/
def readPanel? (t : Text) : Option (List (Nat × List Byte)) := (Text.cut '\n' t).tail.mapM readRow?

lemma Spells.plain {base n : Nat} {t : Text} (h : Spells base t n) : Text.Plain t :=
  .of_not_mem ⟨h.not_mem (by decide), h.not_mem (by decide), h.not_mem (by decide)⟩

lemma plain_hexBytes (bs : List Byte) : Text.Plain (Cells.hexBytes bs) :=
  .of_not_mem ⟨not_mem_hexBytes (by decide) (by decide) bs,
    not_mem_hexBytes (by decide) (by decide) bs, not_mem_hexBytes (by decide) (by decide) bs⟩

/-- Without control sequences a row is its label and its bytes. -/
lemma withoutSequences_memoryRow (a : Nat) (bs : List Byte) :
    Text.withoutSequences [] (Panel.memoryRow a bs) =
      hexWide 5 a ++ ' ' :: ' ' :: Cells.hexBytes bs := by
  have hlabel := spells_hexWide 5 a
  have hblanks : Text.Plain [' ', ' '] := .of_not_mem (by decide)
  have hbytes := hblanks.append (plain_hexBytes bs)
  have hrow : Panel.memoryRow a bs =
      styled [.blue] (hexWide 5 a) ++ ([' ', ' '] ++ Cells.hexBytes bs) := List.append_assoc ..
  rw [hrow, Text.withoutSequences_styled .blue hlabel.plain hlabel.ne_nil hbytes.head?,
    hbytes.withoutSequences_eq]
  simp

/-- **A row is read back** as its address and its bytes. -/
lemma readRow?_memoryRow (a : Nat) (bs : List Byte) :
    readRow? (Panel.memoryRow a bs) = some (a, bs) := by
  have hlabel := spells_hexWide 5 a
  have hfields : fields (hexWide 5 a ++ ' ' :: ' ' :: Cells.hexBytes bs) =
      hexWide 5 a :: bs.map hexByte := by
    have hbytes := fields_hexBytes bs 0
    rw [List.replicate_zero, List.append_nil] at hbytes
    rw [fields_append hlabel.ne_nil (hlabel.not_mem (by decide)), fields_blank, hbytes]
  rw [readRow?, withoutSequences_memoryRow, hfields]
  simp only [address?_hexWide, mapM_byteField?_hexByte, Option.bind_some, Option.map_some]

/-! ## Reading the panel -/

lemma break_not_mem_memoryRow (a : Nat) (bs : List Byte) : '\n' ∉ Panel.memoryRow a bs := by
  have hlabel : '\n' ∉ hexWide 5 a := (spells_hexWide 5 a).not_mem (by decide)
  have hbytes : '\n' ∉ Cells.hexBytes bs := not_mem_hexBytes (by decide) (by decide) bs
  have hon : '\n' ∉ Style.blue.sequence := by decide
  have hoff : '\n' ∉ Style.plain.sequence := by decide
  have hblanks : '\n' ∉ text "  " := by decide
  simp only [Panel.memoryRow, styled, List.flatMap_cons, List.flatMap_nil, List.append_nil,
    List.mem_append, not_or]
  exact ⟨⟨⟨⟨hon, hlabel⟩, hoff⟩, hblanks⟩, hbytes⟩

/-- Each row of a window with its address. -/
def Cells.Window.labelled (w : Cells.Window) : List (Nat × List Byte) :=
  w.rows.zipIdx.map fun p => (w.start.toNat + 16 * p.2, p.1)

/-- Below its header the panel has a line for each row of the window. -/
lemma memoryPanel_eq (m : Cells) (start rows : Int) :
    Panel.memoryPanel m start rows = Text.joinWith ['\n']
      (Panel.memoryHeader ::
        (m.window start rows).labelled.map fun p => Panel.memoryRow p.1 p.2) := by
  have hstart : ((m.window start rows).start.toNat : Int) = (m.window start rows).start :=
    Int.toNat_of_nonneg (m.windowStart_nonneg start rows)
  rw [Panel.memoryPanel, Cells.Window.labelled, List.map_map]
  congr 2
  refine List.map_congr_left fun p _ => ?_
  rw [Function.comp_apply, Int.natCast_add, hstart, Int.natCast_mul, Int.mul_comm]
  rfl

/-- **The rows of a window are read back from the panel**, each with its address. -/
lemma readPanel?_memoryPanel (m : Cells) (start rows : Int) :
    readPanel? (Panel.memoryPanel m start rows) = some (m.window start rows).labelled := by
  have hheader : '\n' ∉ Panel.memoryHeader := by decide
  have hlines : ∀ line ∈ Panel.memoryHeader ::
      (m.window start rows).labelled.map (fun p => Panel.memoryRow p.1 p.2), '\n' ∉ line := by
    intro line hline
    rcases List.mem_cons.1 hline with rfl | hline
    · exact hheader
    · obtain ⟨p, -, rfl⟩ := List.mem_map.1 hline
      exact break_not_mem_memoryRow p.1 p.2
  have hread : ∀ p : Nat × List Byte, readRow? (Panel.memoryRow p.1 p.2) = some p :=
    fun p => readRow?_memoryRow p.1 p.2
  rw [readPanel?, memoryPanel_eq, Text.cut_joinWith '\n' (by simp) hlines, List.tail_cons,
    mapM_map_eq_some hread, List.map_id']

/-- **A window shows the requested cells, and its panel can be read back.**  If the rows fit into
memory, the window starts at the possible start closest to the requested one, where it starts again
when it is asked for there, and it has whole rows; if not, it starts at the front and shows every
cell once.  Either way the panel has a line for each row, with its address and its bytes. -/
theorem window_shows_cells (m : Cells) (start rows : Int) (hrows : 1 ≤ rows) :
    (rows * 16 ≤ m.size →
      Cells.Clamped start (m.size - rows * 16) (m.window start rows).start ∧
        m.window (m.window start rows).start rows = m.window start rows ∧
        Cells.Shows m (m.window start rows).start.toNat rows (m.window start rows).rows) ∧
      (m.size < rows * 16 → (m.window start rows).start = 0 ∧
        (m.window start rows).rows.flatten = (List.range m.size).map m.byte) ∧
      readPanel? (Panel.memoryPanel m start rows) = some (m.window start rows).labelled := by
  refine ⟨fun hfits => ⟨m.clamped_windowStart start hfits, ?_,
      m.shows_of_fits start (by omega) hfits⟩,
    fun hover => ⟨m.windowStart_of_lt start hover, m.flatten_of_not_fits start hover⟩,
    readPanel?_memoryPanel m start rows⟩
  simp only [Cells.window, Cells.windowStart_windowStart]

/-- Forty cells and two rows from cell 30 on: the window starts at cell 8 and is read back from
there.  Three rows do not fit. -/
theorem window_shows_cells_of_forty :
    let m := (Cells.blank 40).put 8 0xFF
    (m.window 30 2).start = 8 ∧ ((m.window 30 2).rows[0]?.bind fun row => row[0]?) = some 0xFF ∧
      readPanel? (Panel.memoryPanel m 30 2) = some (m.window 30 2).labelled ∧
      (m.window 30 3).rows.flatten = (List.range 40).map m.byte := by
  intro m
  obtain ⟨hfits, -, hread⟩ := window_shows_cells m 30 2 (by decide)
  obtain ⟨hclamped, -, hshows⟩ := hfits (by decide)
  have hstart : (m.window 30 2).start = 8 := hclamped.above (by decide)
  have hcell := hshows.cell 0 0 (by rw [← Int.ofNat_lt, hshows.count]; decide) (by decide)
  rw [hstart] at hcell
  obtain ⟨-, hover, -⟩ := window_shows_cells m 30 3 (by decide)
  exact ⟨hstart, hcell.trans (congrArg some (Cells.byte_put_self ..)), hread, (hover (by decide)).2⟩

end Asm16
