import Asm16.Proofs.Program.Lines
import Asm16.Proofs.Program.Token
import Mathlib.Data.List.TakeWhile

/-!
# What is read from a line

A line that holds an instruction falls into a mnemonic, blanks and operands, and decoding it is to
find these parts.

* `Text.map_trim_cut_surround` — blanks around a text with separators do not show in its pieces.
* `Reads` — the parts of a text.
* `Instruction.decode_eq_ok_some_iff` — decoding finds them.
* `Writable` — operands that can be told apart once they are written; `writable_of_reads` says that
  those of a line can.
-/

namespace Asm16

/-! ## Blanks and word characters -/

lemma isWord_of_isBlank {c : Char} (h : isBlank c = true) : isWord c = false := by
  have hcodes : ∀ n ∈ List.range' 9 5 ++ List.range' 0x1C 5 ++ List.range' 0x2000 11 ++
      [0x85, 0xA0, 0x1680, 0x2028, 0x2029, 0x202F, 0x205F, 0x3000],
      isWord (Char.ofNat n) = false := by decide +kernel
  rw [← Char.ofNat_toNat c]
  refine hcodes _ ?_
  simp only [isBlank, Bool.or_eq_true, Bool.and_eq_true, decide_eq_true_eq, beq_iff_eq] at h
  simp only [List.mem_append, List.mem_range'_1, List.mem_cons, List.not_mem_nil, or_false]
  omega

lemma isBlank_of_isWord {c : Char} (h : isWord c = true) : isBlank c = false := by
  cases hblank : isBlank c with
  | false => rfl
  | true =>
      rw [isWord_of_isBlank hblank] at h
      cases h

/-! ## Trimming and cutting -/

namespace Text

lemma not_mem_of_forall {p : Char → Bool} {t : Text} (h : ∀ c ∈ t, p c = true) {d : Char}
    (hd : p d = false) : d ∉ t := by
  intro hmem
  rw [h d hmem] at hd
  cases hd

lemma trim_eq_self_iff {t : Text} : t.trim = t ↔
    (∀ c, t.head? = some c → isBlank c = false) ∧ ∀ c, t.getLast? = some c → isBlank c = false := by
  refine ⟨fun h => ⟨fun c hc => ?_, fun c hc => ?_⟩, fun h => trim_eq_self h.1 h.2⟩
  · rw [← h] at hc
    exact head?_trim hc
  · rw [← h] at hc
    exact getLast?_trim hc

/-- Trimming takes away blanks at the front and at the end, and nothing else. -/
lemma exists_trim (t : Text) :
    ∃ u w, (∀ c ∈ u, isBlank c = true) ∧ (∀ c ∈ w, isBlank c = true) ∧ t = u ++ t.trim ++ w := by
  refine ⟨t.takeWhile isBlank, ((trimLeft t).reverse.takeWhile isBlank).reverse, ?_, ?_, ?_⟩
  · exact fun c hc => List.mem_takeWhile_imp hc
  · exact fun c hc => List.mem_takeWhile_imp (List.mem_reverse.1 hc)
  · have hright : trim t ++ ((trimLeft t).reverse.takeWhile isBlank).reverse = trimLeft t := by
      rw [trim, trimRight, ← List.reverse_append, List.takeWhile_append_dropWhile,
        List.reverse_reverse]
    rw [List.append_assoc, hright, trimLeft, List.takeWhile_append_dropWhile]

/-- A text without blanks at the end keeps its end. -/
lemma getLast?_trim_eq {t : Text} (h : ∀ c, t.getLast? = some c → isBlank c = false) :
    t.trim.getLast? = t.getLast? := by
  have hwhole : t.takeWhile isBlank ++ trimLeft t = t := List.takeWhile_append_dropWhile
  cases hrest : trimLeft t with
  | nil =>
      rw [hrest, List.append_nil] at hwhole
      have hnone : t.getLast? = none := by
        refine Option.eq_none_iff_forall_ne_some.2 fun c hc => ?_
        have hblank : isBlank c = true :=
          List.mem_takeWhile_imp (hwhole.symm ▸ List.mem_of_getLast? hc)
        rw [h c hc] at hblank
        cases hblank
      rw [trim, hrest, hnone]
      rfl
  | cons d rest =>
      have hlast : t.getLast? = (d :: rest).getLast? := by
        rw [hrest] at hwhole
        exact (congrArg List.getLast? hwhole.symm).trans
          (List.getLast?_append_of_ne_nil _ (List.cons_ne_nil d rest))
      rw [trim, hrest, trimRight_eq_self fun c hc => h c (hlast.trans hc), hlast]

lemma mem_of_mem_trim {t : Text} {c : Char} (h : c ∈ t.trim) : c ∈ t := by
  obtain ⟨u, w, -, -, ht⟩ := exists_trim t
  rw [ht]
  simp [h]

lemma trim_surround_eq_self {u w : Text} (hu : ∀ c ∈ u, isBlank c = true)
    (hw : ∀ c ∈ w, isBlank c = true) {t : Text} (ht : t.trim = t) : (u ++ t ++ w).trim = t :=
  (trim_surround hu hw t).trans ht

lemma joinWith_cons_cons (sep : Text) (c : Char) (piece : Text) (pieces : List Text) :
    joinWith sep ((c :: piece) :: pieces) = c :: joinWith sep (piece :: pieces) := by
  cases pieces <;> rfl

lemma joinWith_snoc (sep last : Text) : ∀ {front : List Text}, front ≠ [] →
    joinWith sep (front ++ [last]) = joinWith sep front ++ sep ++ last
  | [], h => absurd rfl h
  | [piece], _ => rfl
  | piece :: next :: front, _ => by
      rw [List.cons_append, joinWith_cons sep piece (by simp),
        joinWith_snoc sep last (List.cons_ne_nil next front),
        joinWith_cons sep piece (by simp)]
      simp only [List.append_assoc]

lemma mem_joinWith {sep : Text} {c : Char} : ∀ {pieces : List Text},
    c ∈ joinWith sep pieces → c ∈ sep ∨ ∃ piece ∈ pieces, c ∈ piece
  | [], h => absurd h (by simp [joinWith])
  | [piece], h => .inr ⟨piece, by simp, h⟩
  | piece :: next :: pieces, h => by
      rw [joinWith_cons sep piece (by simp), List.mem_append, List.mem_append] at h
      rcases h with (h | h) | h
      · exact .inr ⟨piece, by simp, h⟩
      · exact .inl h
      · rcases mem_joinWith h with h | ⟨p, hp, h⟩
        · exact .inl h
        · exact .inr ⟨p, List.mem_cons_of_mem _ hp, h⟩

lemma mem_joinWith_of_mem {sep piece : Text} {c : Char} (hc : c ∈ piece) :
    ∀ {pieces : List Text}, piece ∈ pieces → c ∈ joinWith sep pieces
  | [p], h => by
      rw [joinWith_singleton, ← List.mem_singleton.1 h]
      exact hc
  | p :: next :: pieces, h => by
      rw [joinWith_cons sep p (by simp), List.mem_append]
      rcases List.mem_cons.1 h with rfl | h
      · exact .inl (by simp [hc])
      · exact .inr (mem_joinWith_of_mem hc h)

lemma mem_of_mem_cut {sep : Char} {t piece : Text} {c : Char} (h : piece ∈ cut sep t)
    (hc : c ∈ piece) : c ∈ t := by
  rw [← joinWith_cut sep t]
  exact mem_joinWith_of_mem hc h

lemma cut_cons {sep c : Char} (hc : c ≠ sep) {t : Text} {piece : Text} {pieces : List Text}
    (h : cut sep t = piece :: pieces) : cut sep (c :: t) = (c :: piece) :: pieces := by
  rw [cut, if_neg hc, h]

/-- A text has a last piece, and what is put behind the text is put behind that piece. -/
lemma exists_last_piece (sep : Char) (t : Text) : ∃ front last, ∀ w : Text, sep ∉ w →
    cut sep (t ++ w) = front ++ [last ++ w] := by
  induction t with
  | nil => exact ⟨[], [], fun w hw => cut_of_not_mem sep hw⟩
  | cons c t ih =>
      obtain ⟨front, last, hcut⟩ := ih
      by_cases hc : c = sep
      · refine ⟨[] :: front, last, fun w hw => ?_⟩
        rw [List.cons_append, cut, if_pos hc, hcut w hw, List.cons_append]
      · cases front with
        | nil => exact ⟨[], c :: last, fun w hw => cut_cons hc (hcut w hw)⟩
        | cons first front =>
            exact ⟨(c :: first) :: front, last, fun w hw => cut_cons hc (hcut w hw)⟩

/-- Blanks around a text do not show in its trimmed pieces, since no separator is among them. -/
lemma map_trim_cut_surround {sep : Char} (hsep : isBlank sep = false) {u w : Text}
    (hu : ∀ c ∈ u, isBlank c = true) (hw : ∀ c ∈ w, isBlank c = true) (t : Text) :
    (cut sep (u ++ t ++ w)).map trim = (cut sep t).map trim := by
  -- behind the text
  have hright : (cut sep (t ++ w)).map trim = (cut sep t).map trim := by
    obtain ⟨front, last, hcut⟩ := exists_last_piece sep t
    have hplain := hcut [] (by simp)
    rw [List.append_nil, List.append_nil] at hplain
    have hlast : (last ++ w).trim = last.trim := trim_surround (u := []) (by simp) hw last
    rw [hcut w (not_mem_of_forall hw hsep), hplain, List.map_append, List.map_append,
      List.map_singleton, List.map_singleton, hlast]
  rw [← hright, List.append_assoc]
  -- in front of it
  clear hright
  have hblank := not_mem_of_forall hu hsep
  induction u with
  | nil => rfl
  | cons c u ih =>
      have hc : c ≠ sep := fun h => hblank (h ▸ List.mem_cons_self)
      rw [← ih (fun d hd => hu d (List.mem_cons_of_mem c hd)) fun h => hblank (by simp [h])]
      obtain ⟨piece, pieces, hpieces⟩ := List.exists_cons_of_ne_nil (cut_ne_nil sep (u ++ (t ++ w)))
      have htrim : trim (c :: piece) = trim piece := by
        rw [trim, trim, trimLeft, trimLeft, List.dropWhile_cons_of_pos (hu c List.mem_cons_self)]
      rw [List.cons_append, cut_cons hc hpieces, hpieces, List.map_cons, List.map_cons, htrim]

end Text

/-! ## Lines that hold an instruction -/

/-- The text falls into a mnemonic, blanks and the text of the operands. -/
structure Reads (t mnemonic blanks rest : Text) : Prop where
  whole : t = mnemonic ++ (blanks ++ rest)
  nonempty : mnemonic ≠ []
  word : ∀ c ∈ mnemonic, isWord c = true
  stop : ∀ c, (blanks ++ rest).head? = some c → isWord c = false
  blank : ∀ c ∈ blanks, isBlank c = true
  trimmed : rest.trim = rest
  oneLine : '\n' ∉ rest
  noLabel : t.getLast? ≠ some ':'

namespace Instruction

variable {line t : Text} {i : Instruction}

/-- A text ends as its rear does. -/
lemma getLast?_of_append {front back : Text} {c : Char} (h : back.getLast? = some c) :
    (front ++ back).getLast? = some c := by rw [List.getLast?_append, h, Option.some_or]

lemma reads_of_parse (ht : t.trim = t) (hlabel : isLabel t = false) (h : parse t = .ok i) :
    ∃ mnemonic blanks rest,
      Reads t mnemonic blanks rest ∧ i = ⟨Text.lower mnemonic, tokens rest⟩ := by
  rw [parse] at h
  simp only [Bool.or_eq_true, List.isEmpty_iff, List.contains_iff_mem] at h
  split_ifs at h with hbad
  obtain ⟨hnonempty, honeLine⟩ := not_or.1 hbad
  have hbehind : (t.dropWhile isWord).takeWhile isBlank ++ Text.trimLeft (t.dropWhile isWord) =
      t.dropWhile isWord := List.takeWhile_append_dropWhile
  have hwhole : t = t.takeWhile isWord ++ ((t.dropWhile isWord).takeWhile isBlank ++
      Text.trimLeft (t.dropWhile isWord)) := by
    rw [hbehind, List.takeWhile_append_dropWhile]
  have htrimmed : (Text.trimLeft (t.dropWhile isWord)).trim =
      Text.trimLeft (t.dropWhile isWord) := by
    refine Text.trim_eq_self_iff.2 ⟨fun c hc => Text.head?_trimLeft hc, fun c hc => ?_⟩
    refine (Text.trim_eq_self_iff.1 ht).2 c ?_
    rw [hwhole]
    exact getLast?_of_append (getLast?_of_append hc)
  refine ⟨_, _, _, ⟨hwhole, hnonempty, fun c hc => List.mem_takeWhile_imp hc, ?_,
    fun c hc => List.mem_takeWhile_imp hc, htrimmed, honeLine, ?_⟩, ?_⟩
  · intro c hc
    have hstop := List.head?_dropWhile_not isWord t
    rw [hbehind] at hc
    rw [hc] at hstop
    exact hstop
  · simpa [isLabel, Text.endsWith] using hlabel
  · rw [htrimmed] at h
    exact (Except.ok.inj h).symm

lemma parse_of_reads {mnemonic blanks rest : Text} (h : Reads t mnemonic blanks rest) :
    parse t = .ok ⟨Text.lower mnemonic, tokens rest⟩ := by
  have hstop : (blanks ++ rest).takeWhile isWord = [] ∧
      (blanks ++ rest).dropWhile isWord = blanks ++ rest := by
    have hhead := h.stop
    cases hbehind : blanks ++ rest with
    | nil => exact ⟨rfl, rfl⟩
    | cons c cs =>
        have hc : isWord c = false := hhead c (by rw [hbehind]; rfl)
        simp [hc]
  have hmnemonic : t.takeWhile isWord = mnemonic := by
    rw [h.whole, List.takeWhile_append_of_pos h.word, hstop.1, List.append_nil]
  have hrest : Text.trimLeft (t.dropWhile isWord) = rest := by
    rw [h.whole, List.dropWhile_append_of_pos h.word, hstop.2, Text.trimLeft_append h.blank,
      Text.trimLeft_eq_self (Text.trim_eq_self_iff.1 h.trimmed).1]
  rw [parse]
  simp only [hmnemonic, hrest, h.trimmed]
  rw [if_neg]
  simp [h.nonempty, h.oneLine]

/-- **Decoding finds the parts of a line.** -/
lemma decode_eq_ok_some_iff : decode line = .ok (some i) ↔ ∃ mnemonic blanks rest,
    Reads (stripComment line) mnemonic blanks rest ∧ i = ⟨Text.lower mnemonic, tokens rest⟩ := by
  rw [decode]
  simp only [Bool.or_eq_true, List.isEmpty_iff]
  constructor
  · intro h
    split_ifs at h with hnone
    · cases h
    · obtain ⟨-, hlabel⟩ := not_or.1 hnone
      obtain ⟨i', hparse, hi⟩ := map_eq_ok_iff.1 h
      cases hi
      exact reads_of_parse (Text.trim_trim _) (by simpa using hlabel) hparse
  · rintro ⟨mnemonic, blanks, rest, hreads, rfl⟩
    have hnone : ¬ (stripComment line = [] ∨ isLabel (stripComment line) = true) := by
      rintro (h | h)
      · have hwhole := hreads.whole
        rw [h] at hwhole
        exact hreads.nonempty (List.append_eq_nil_iff.1 hwhole.symm).1
      · exact hreads.noLabel (by simpa [isLabel, Text.endsWith] using h)
    rw [if_neg hnone, parse_of_reads hreads]
    rfl

end Instruction

/-! ## Operands -/

/-- Operands that can be told apart once they are written: without blanks around them, without the
characters that end an operand, a line or its code, and not a single operand that is empty. -/
structure Writable (args : List Text) : Prop where
  trimmed : ∀ arg ∈ args, arg.trim = arg
  noComma : ∀ arg ∈ args, ',' ∉ arg
  noSemicolon : ∀ arg ∈ args, ';' ∉ arg
  oneLine : ∀ arg ∈ args, '\n' ∉ arg
  notEmpty : args ≠ [[]]
  noLabel : ∀ arg, args.getLast? = some arg → arg.getLast? ≠ some ':'

namespace Instruction

lemma tokens_eq_nil_iff {rest : Text} : tokens rest = [] ↔ rest = [] := by
  rw [tokens]
  split_ifs with h
  · simpa using h
  · simpa [Text.cut_ne_nil] using h

/-- What is read ends in a colon just if its last operand does. -/
lemma getLast?_tokens {rest arg : Text} (h : rest.trim = rest)
    (harg : (tokens rest).getLast? = some arg) :
    arg.getLast? = some ':' ↔ rest.getLast? = some ':' := by
  obtain ⟨front, last, hcut⟩ := Text.exists_last_piece ',' rest
  have hpieces : rest.cut ',' = front ++ [last] := by simpa using hcut [] (by simp)
  have harg' : arg = last.trim := by
    rw [tokens, hpieces] at harg
    split_ifs at harg
    · cases harg
    · simpa using harg.symm
  have hjoined : rest = Text.joinWith [','] (front ++ [last]) := by
    rw [← hpieces, Text.joinWith_cut]
  rw [harg']
  by_cases hlast : last = []
  · -- nothing stands behind the last comma
    rw [hlast] at hjoined ⊢
    cases front with
    | nil => simp [hjoined]
    | cons first front =>
        rw [Text.joinWith_snoc _ _ (by simp), List.append_nil] at hjoined
        simp [hjoined]
  · have hend : rest.getLast? = last.getLast? := by
      cases front with
      | nil => rw [hjoined, List.nil_append, Text.joinWith_singleton]
      | cons first front =>
          rw [hjoined, Text.joinWith_snoc _ _ (by simp), List.getLast?_append_of_ne_nil _ hlast]
    rw [Text.getLast?_trim_eq fun c hc => (Text.trim_eq_self_iff.1 h).2 c (hend.trans hc), hend]

lemma writable_tokens {rest : Text} (h : rest.trim = rest) (hsemicolon : ';' ∉ rest)
    (honeLine : '\n' ∉ rest) (hlabel : rest.getLast? ≠ some ':') : Writable (tokens rest) := by
  by_cases hrest : rest = []
  · rw [hrest]
    exact ⟨by simp [tokens], by simp [tokens], by simp [tokens], by simp [tokens], by simp [tokens],
      by simp [tokens]⟩
  · have htokens : tokens rest = (rest.cut ',').map Text.trim := by
      rw [tokens, if_neg (by simpa using hrest)]
    have hchars : ∀ c, c ∉ rest → ∀ arg ∈ tokens rest, c ∉ arg := by
      intro c hc arg harg hmem
      rw [htokens] at harg
      obtain ⟨piece, hpiece, rfl⟩ := List.mem_map.1 harg
      exact hc (Text.mem_of_mem_cut hpiece (Text.mem_of_mem_trim hmem))
    refine ⟨?_, ?_, hchars _ hsemicolon, hchars _ honeLine, ?_, fun arg harg hcolon =>
      hlabel ((getLast?_tokens h harg).1 hcolon)⟩
    · intro arg harg
      rw [htokens] at harg
      obtain ⟨piece, -, rfl⟩ := List.mem_map.1 harg
      exact Text.trim_trim piece
    · intro arg harg hmem
      rw [htokens] at harg
      obtain ⟨piece, hpiece, rfl⟩ := List.mem_map.1 harg
      exact Text.not_mem_of_mem_cut hpiece (Text.mem_of_mem_trim hmem)
    · intro hempty
      rw [htokens, List.map_eq_singleton_iff] at hempty
      obtain ⟨piece, hpiece, hblank⟩ := hempty
      have hwhole := Text.joinWith_cut ',' rest
      rw [hpiece, Text.joinWith_singleton] at hwhole
      rw [hwhole, h] at hblank
      exact hrest hblank

lemma semicolon_not_mem_stripComment (line : Text) : ';' ∉ stripComment line := by
  intro h
  simpa using List.mem_takeWhile_imp (Text.mem_of_mem_trim h)

/-- **The operands of a line can be written again.** -/
lemma writable_of_reads {mnemonic blanks rest : Text} (h : Reads t mnemonic blanks rest)
    (hsemicolon : ';' ∉ t) : Writable (tokens rest) := by
  have hmem : ∀ c ∈ rest, c ∈ t := by
    intro c hc
    rw [h.whole]
    simp [hc]
  refine writable_tokens h.trimmed (fun hc => hsemicolon (hmem _ hc)) h.oneLine fun hc => ?_
  refine h.noLabel ?_
  rw [h.whole]
  exact getLast?_of_append (getLast?_of_append hc)

end Instruction

end Asm16
