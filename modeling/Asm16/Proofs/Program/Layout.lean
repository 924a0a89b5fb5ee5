import Asm16.Proofs.Program.Reading

/-!
# Layouts

An instruction can be laid out in many ways: with spaces and tabs around its operands, in any case,
with a comment behind it.  Decoding sees through all of them, and whatever it returns can be written
down again.

* `Layout` — an instruction with all that may stand around it, and `Layout.line`, the line it makes.
* `Layout.reads_line` — what is read from that line is what was laid out.
* `Instruction.plainLayout` — a printed instruction as a layout.
* `Instruction.folded` — a mnemonic in small letters stays as it is, if it is ASCII.
* `Instruction.decode_undoes_print` — the result: decoding undoes every layout, and what it returns
  can be printed and decoded again.
-/

namespace Asm16

/-! ## Layouts -/

/-- What may stand around operands in a line. -/
def isGap (c : Char) : Bool := c == ' ' || c == '\t'

/-- An operand with the spaces and tabs around it. -/
structure Spaced where
  left : Text := []
  token : Text
  right : Text := []
  left_gap : ∀ c ∈ left, isGap c = true := by simp
  right_gap : ∀ c ∈ right, isGap c = true := by simp

def Spaced.written (p : Spaced) : Text := p.left ++ p.token ++ p.right

/-- An instruction with all that may stand around it in a line: spaces and tabs in front and behind,
blanks of any kind behind the mnemonic, and a comment. -/
structure Layout where
  before : Text := []
  mnemonic : Text
  gap : Text
  operands : List Spaced
  after : Text := []
  comment : Option Text := none
  before_gap : ∀ c ∈ before, isGap c = true := by simp
  gap_blank : ∀ c ∈ gap, isBlank c = true
  gap_ne_nil : operands ≠ [] → gap ≠ []
  after_gap : ∀ c ∈ after, isGap c = true := by simp

namespace Layout

/-- The operands without what is around them. -/
def args (l : Layout) : List Text := l.operands.map Spaced.token

/-- The operands as they are written, with commas between them. -/
def spread (l : Layout) : Text := Text.joinWith [','] (l.operands.map Spaced.written)

/-- The line without its comment. -/
def code (l : Layout) : Text := l.before ++ (l.mnemonic ++ l.gap ++ l.spread) ++ l.after

/-- The whole line. -/
def line (l : Layout) : Text :=
  match l.comment with
  | none => l.code
  | some comment => l.code ++ ';' :: comment

variable {l : Layout}

lemma isBlank_of_isGap {c : Char} (h : isGap c = true) : isBlank c = true := by
  rw [isGap, Bool.or_eq_true, beq_iff_eq, beq_iff_eq] at h
  rcases h with rfl | rfl <;> decide

/-- A character of the operands is one of a comma, a gap and a token. -/
lemma mem_spread {c : Char} (h : c ∈ l.spread) :
    c = ',' ∨ isGap c = true ∨ ∃ arg ∈ l.args, c ∈ arg := by
  rcases Text.mem_joinWith h with h | ⟨piece, hpiece, hc⟩
  · exact .inl (List.mem_singleton.1 h)
  · obtain ⟨p, hp, rfl⟩ := List.mem_map.1 hpiece
    rw [Spaced.written, List.mem_append, List.mem_append] at hc
    rcases hc with (hc | hc) | hc
    · exact .inr (.inl (p.left_gap c hc))
    · exact .inr (.inr ⟨p.token, List.mem_map_of_mem hp, hc⟩)
    · exact .inr (.inl (p.right_gap c hc))

lemma not_mem_spread {c : Char} (hcomma : c ≠ ',') (hgap : isGap c = false)
    (hargs : ∀ arg ∈ l.args, c ∉ arg) : c ∉ l.spread := by
  intro h
  rcases mem_spread h with rfl | h | ⟨arg, harg, h⟩
  · exact hcomma rfl
  · rw [hgap] at h
    cases h
  · exact hargs arg harg h

lemma stripComment_line (hword : ∀ c ∈ l.mnemonic, isWord c = true) (hargs : Writable l.args) :
    stripComment l.line = l.code.trim := by
  have hcode : ';' ∉ l.code := by
    simp only [code, List.mem_append, not_or]
    exact ⟨⟨Text.not_mem_of_forall l.before_gap (by decide),
      ⟨Text.not_mem_of_forall hword (by decide), Text.not_mem_of_forall l.gap_blank (by decide)⟩,
      not_mem_spread (by decide) (by decide) hargs.noSemicolon⟩,
      Text.not_mem_of_forall l.after_gap (by decide)⟩
  have hbefore : stripComment l.code = l.code.trim := by
    rw [stripComment, Text.before, List.takeWhile_eq_self_iff.2]
    intro c hc
    simpa using fun h : c = ';' => hcode (h ▸ hc)
  rw [line]
  cases l.comment with
  | none => exact hbefore
  | some comment => exact (stripComment_append l.code comment).trans hbefore

/-- Cut at its commas and trimmed, what was spread out is the operands. -/
lemma map_trim_cut_spread (hargs : Writable l.args) (hne : l.operands ≠ []) :
    (l.spread.cut ',').map Text.trim = l.args := by
  have hwritten : ∀ p ∈ l.operands, ',' ∉ p.written := by
    intro p hp
    simp only [Spaced.written, List.mem_append, not_or]
    exact ⟨⟨Text.not_mem_of_forall p.left_gap (by decide),
      hargs.noComma p.token (List.mem_map_of_mem hp)⟩,
      Text.not_mem_of_forall p.right_gap (by decide)⟩
  rw [spread, Text.cut_joinWith ',' (by simpa using hne) (by simpa using hwritten), List.map_map,
    args]
  refine List.map_congr_left fun p hp => ?_
  have htrimmed := hargs.trimmed p.token (List.mem_map_of_mem hp)
  exact Text.trim_surround_eq_self (fun c hc => isBlank_of_isGap (p.left_gap c hc))
    (fun c hc => isBlank_of_isGap (p.right_gap c hc)) htrimmed

/-- The operands are what is read from the text that was spread out. -/
lemma tokens_trim_spread (hargs : Writable l.args) : Instruction.tokens l.spread.trim = l.args := by
  cases hoperands : l.operands with
  | nil => simp [spread, args, hoperands, Text.joinWith, Instruction.tokens]
  | cons p ps =>
      have hmap : (l.spread.trim.cut ',').map Text.trim = l.args := by
        obtain ⟨u, w, hu, hw, hwhole⟩ := Text.exists_trim l.spread
        rw [← Text.map_trim_cut_surround (by decide) hu hw, ← hwhole,
          map_trim_cut_spread hargs (by simp [hoperands])]
      rw [Instruction.tokens, if_neg, hmap]
      intro hempty
      rw [List.isEmpty_iff.1 hempty] at hmap
      exact hargs.notEmpty hmap.symm

/-- Between blanks, the code is the mnemonic, blanks and the operands; there are blanks just if
there are operands. -/
lemma exists_code (l : Layout) : ∃ blanks behind : Text,
    l.code = l.before ++ (l.mnemonic ++ (blanks ++ l.spread.trim)) ++ behind ∧
      (∀ c ∈ blanks, isBlank c = true) ∧ (∀ c ∈ behind, isBlank c = true) ∧
      (blanks = [] ↔ l.spread.trim = []) := by
  obtain ⟨u, w, hu, hw, hwhole⟩ := Text.exists_trim l.spread
  generalize l.spread.trim = rest at hwhole ⊢
  have hfront : ∀ c ∈ l.gap ++ u, isBlank c = true := fun c hc =>
    (List.mem_append.1 hc).elim (l.gap_blank c) (hu c)
  have hbehind : ∀ c ∈ w ++ l.after, isBlank c = true := fun c hc =>
    (List.mem_append.1 hc).elim (hw c) fun h => isBlank_of_isGap (l.after_gap c h)
  by_cases hrest : rest = []
  · refine ⟨[], (l.gap ++ u) ++ (w ++ l.after), ?_, by simp, fun c hc =>
      (List.mem_append.1 hc).elim (hfront c) (hbehind c), by simp [hrest]⟩
    rw [code, hwhole, hrest]
    simp only [List.append_assoc, List.nil_append]
  · have hoperands : l.operands ≠ [] := by
      intro hnone
      have hspread : l.spread = [] := by rw [spread, hnone, List.map_nil, Text.joinWith]
      rw [hspread] at hwhole
      simp [hrest] at hwhole
    refine ⟨l.gap ++ u, w ++ l.after, ?_, hfront, hbehind, by
      simp [l.gap_ne_nil hoperands, hrest]⟩
    rw [code, hwhole]
    simp only [List.append_assoc]

/-- **A layout is read as the instruction that is laid out.** -/
lemma reads_line (hne : l.mnemonic ≠ []) (hword : ∀ c ∈ l.mnemonic, isWord c = true)
    (hargs : Writable l.args) :
    ∃ blanks, Reads (stripComment l.line) l.mnemonic blanks l.spread.trim := by
  obtain ⟨blanks, behind, hcode, hblanks, hbehind, hiff⟩ := exists_code l
  have htrimmed : l.spread.trim.trim = l.spread.trim := Text.trim_trim _
  have htokens := tokens_trim_spread hargs
  have honeLine : '\n' ∉ l.spread.trim := fun h =>
    not_mem_spread (by decide) (by decide) hargs.oneLine (Text.mem_of_mem_trim h)
  have hstrip := stripComment_line hword hargs
  generalize l.spread.trim = rest at *
  -- the last character is one of the operands, or of the mnemonic if there are none
  have hlast : ∀ c, (l.mnemonic ++ (blanks ++ rest)).getLast? = some c →
      isBlank c = false ∧ c ≠ ':' := by
    intro c hc
    by_cases hrest : rest = []
    · rw [hrest, hiff.2 hrest, List.append_nil, List.append_nil] at hc
      have hcword := hword c (List.mem_of_getLast? hc)
      refine ⟨isBlank_of_isWord hcword, ?_⟩
      rintro rfl
      exact absurd hcword (by decide)
    · rw [← List.append_assoc, List.getLast?_append_of_ne_nil _ hrest] at hc
      refine ⟨(Text.trim_eq_self_iff.1 htrimmed).2 c hc, ?_⟩
      rintro rfl
      obtain ⟨arg, harg⟩ : ∃ arg, l.args.getLast? = some arg := by
        refine Option.ne_none_iff_exists'.1 fun hnone => hrest ?_
        rw [← Instruction.tokens_eq_nil_iff, htokens]
        exact List.getLast?_eq_none_iff.1 hnone
      refine hargs.noLabel arg harg ((Instruction.getLast?_tokens htrimmed ?_).2 hc)
      rw [htokens, harg]
  have hhead : ∀ c, (l.mnemonic ++ (blanks ++ rest)).head? = some c → isBlank c = false := by
    intro c hc
    rw [List.head?_append_of_ne_nil _ hne] at hc
    exact isBlank_of_isWord (hword c (List.mem_of_head? hc))
  have hwhole : stripComment l.line = l.mnemonic ++ (blanks ++ rest) := by
    rw [hstrip, hcode]
    exact Text.trim_surround_eq_self (fun c hc => isBlank_of_isGap (l.before_gap c hc)) hbehind
      (Text.trim_eq_self_iff.2 ⟨hhead, fun c hc => (hlast c hc).1⟩)
  refine ⟨blanks, hwhole, hne, hword, ?_, hblanks, htrimmed, honeLine, ?_⟩
  · intro c hc
    cases blanks with
    | nil =>
        rw [hiff.1 rfl] at hc
        cases hc
    | cons d blanks =>
        obtain rfl : d = c := Option.some.inj hc
        exact isWord_of_isBlank (hblanks d List.mem_cons_self)
  · intro hcolon
    rw [hwhole] at hcolon
    exact (hlast ':' hcolon).2 rfl

/-- Decoding sees through a layout. -/
lemma decode_line (hne : l.mnemonic ≠ []) (hword : ∀ c ∈ l.mnemonic, isWord c = true)
    (hargs : Writable l.args) :
    Instruction.decode l.line = .ok (some ⟨Text.lower l.mnemonic, l.args⟩) := by
  obtain ⟨blanks, hreads⟩ := reads_line hne hword hargs
  exact Instruction.decode_eq_ok_some_iff.2 ⟨_, _, _, hreads, by rw [tokens_trim_spread hargs]⟩

end Layout

/-! ## Printing -/

namespace Instruction

variable {i : Instruction}

/-- The layout of a printed instruction: a blank behind the mnemonic and behind every comma. -/
def plainLayout (i : Instruction) : Layout where
  mnemonic := i.mnemonic
  gap := if i.operands = [] then [] else [' ']
  operands :=
    match i.operands with
    | [] => []
    | first :: rest =>
      { token := first } ::
        rest.map fun arg => { left := [' '], token := arg, left_gap := by simp [isGap] }
  gap_blank := by
    intro c hc
    split_ifs at hc
    · cases hc
    · rw [List.mem_singleton.1 hc]
      decide
  gap_ne_nil := by
    intro hne
    rw [if_neg]
    · simp
    · intro hnone
      rw [hnone] at hne
      exact hne rfl

lemma args_plainLayout (i : Instruction) : i.plainLayout.args = i.operands := by
  obtain ⟨mnemonic, operands⟩ := i
  cases operands with
  | nil => rfl
  | cons first rest => simp [plainLayout, Layout.args, Function.comp_def]

/-- Printing puts a comma and a blank between operands: the blank may as well belong to the next. -/
lemma joinWith_comma_blank (first : Text) (rest : List Text) :
    Text.joinWith (text ", ") (first :: rest) =
      Text.joinWith [','] (first :: rest.map fun arg => ' ' :: arg) := by
  induction rest generalizing first with
  | nil => rfl
  | cons next rest ih =>
      rw [Text.joinWith_cons _ _ (by simp), ih next, List.map_cons,
        Text.joinWith_cons _ first (by simp), Text.joinWith_cons_cons, List.append_assoc,
        List.append_assoc]
      rfl

lemma line_plainLayout (i : Instruction) : i.plainLayout.line = i.print := by
  obtain ⟨mnemonic, operands⟩ := i
  cases operands with
  | nil => simp [plainLayout, Layout.line, Layout.code, Layout.spread, Text.joinWith, print]
  | cons first rest =>
      simp [plainLayout, Layout.line, Layout.code, Layout.spread, Spaced.written, print,
        joinWith_comma_blank, Function.comp_def]

lemma decode_print (hne : i.mnemonic ≠ []) (hword : ∀ c ∈ i.mnemonic, isWord c = true)
    (hlower : Text.lower i.mnemonic = i.mnemonic) (hargs : Writable i.operands) :
    decode i.print = .ok (some i) := by
  have hplain := i.plainLayout.decode_line hne hword (by rwa [args_plainLayout])
  have hmnemonic : i.plainLayout.mnemonic = i.mnemonic := rfl
  rwa [line_plainLayout, args_plainLayout, hmnemonic, hlower] at hplain

/-- The letters of a folded mnemonic are word characters and stay as they are, those of ASCII at
least. -/
lemma folded {mnemonic : Text} (hword : ∀ c ∈ mnemonic, isWord c = true) {d : Char}
    (hd : d ∈ Text.lower mnemonic) (hascii : d.toNat < 0x80) :
    isWord d = true ∧ d.toLower = d := by
  have hcodes : ∀ n < 0x80, isWord (Char.ofNat n) = true →
      isWord (Char.ofNat n).toLower = true ∧
        (Char.ofNat n).toLower.toLower = (Char.ofNat n).toLower := by decide +kernel
  rcases Text.ascii_of_mem_lower hd hascii with ⟨c, hc, hcascii, rfl⟩ | rfl | rfl
  · have hfold := hcodes c.toNat hcascii
    rw [Char.ofNat_toNat] at hfold
    exact hfold (hword c hc)
  · decide
  · decide

/-- **Decoding undoes printing, under every layout.**  Laid out with a mnemonic of ASCII word
characters and with operands that can be written, an instruction is decoded to itself, the mnemonic
in small letters.  And whatever a line is decoded to has a mnemonic and operands that can be
written, so that it is found again once it is printed, if the mnemonic is ASCII. -/
theorem decode_undoes_print :
    (∀ l : Layout, l.mnemonic ≠ [] → (∀ c ∈ l.mnemonic, isAsciiWord c = true) → Writable l.args →
        decode l.line = .ok (some ⟨Text.asciiLower l.mnemonic, l.args⟩)) ∧
      ∀ line i, decode line = .ok (some i) →
        i.mnemonic ≠ [] ∧ Writable i.operands ∧
          ((∀ c ∈ i.mnemonic, c.toNat < 0x80) → decode i.print = .ok (some i)) := by
  refine ⟨fun l hne hascii hargs => ?_, fun line i h => ?_⟩
  · rw [← Text.lower_of_ascii fun c hc => toNat_lt_of_isAsciiWord (hascii c hc)]
    exact l.decode_line hne (fun c hc => isWord_of_isAsciiWord (hascii c hc)) hargs
  · obtain ⟨mnemonic, blanks, rest, hreads, rfl⟩ := decode_eq_ok_some_iff.1 h
    have hne : Text.lower mnemonic ≠ [] := mt Text.lower_eq_nil_iff.1 hreads.nonempty
    have hargs := writable_of_reads hreads (semicolon_not_mem_stripComment line)
    refine ⟨hne, hargs, fun hascii => ?_⟩
    have hfolded : ∀ c ∈ Text.lower mnemonic, isWord c = true ∧ c.toLower = c := fun c hc =>
      folded hreads.word hc (hascii c hc)
    have hlower : Text.lower (Text.lower mnemonic) = Text.lower mnemonic := by
      rw [Text.lower_of_ascii hascii, Text.asciiLower, List.map_congr_left fun c hc =>
        (hfolded c hc).2, List.map_id']
    exact decode_print hne (fun c hc => (hfolded c hc).1) hlower hargs

/-- An addition over two lines, in capitals, with a comment that looks like a label. -/
theorem decode_spread_addition :
    decode ['\t', 'A', 'D', 'D', '\n', ' ', 'a', 'x', ' ', ',', '\t', '5', ' ', ';', 'x', ':'] =
        .ok (some ⟨['a', 'd', 'd'], [['a', 'x'], ['5']]⟩) ∧
      decode ['a', 'd', 'd', ' ', 'a', 'x', ',', ' ', '5'] =
        .ok (some ⟨['a', 'd', 'd'], [['a', 'x'], ['5']]⟩) := by
  have hargs : Writable [['a', 'x'], ['5']] :=
    ⟨by decide, by decide, by decide, by decide, by decide, fun arg harg => by
      cases harg
      decide⟩
  have hdecoded : decode ['\t', 'A', 'D', 'D', '\n', ' ', 'a', 'x', ' ', ',', '\t', '5', ' ', ';',
      'x', ':'] = .ok (some ⟨['a', 'd', 'd'], [['a', 'x'], ['5']]⟩) := decode_undoes_print.1
    { before := ['\t']
      mnemonic := ['A', 'D', 'D']
      gap := ['\n']
      operands := [⟨[' '], ['a', 'x'], [' '], by simp [isGap], by simp [isGap]⟩,
        ⟨['\t'], ['5'], [], by simp [isGap], by simp⟩]
      after := [' ']
      comment := some ['x', ':']
      before_gap := by simp [isGap]
      gap_blank := by simp [isBlank]
      gap_ne_nil := by simp
      after_gap := by simp [isGap] } (by simp) (by simp [isAsciiWord]) hargs
  exact ⟨hdecoded, (decode_undoes_print.2 _ _ hdecoded).2.2 (by simp)⟩

end Instruction
end Asm16
