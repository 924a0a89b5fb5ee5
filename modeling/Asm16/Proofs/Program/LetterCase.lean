import Asm16.Program.Instruction
import Asm16.Program.Operand
import Asm16.Proofs.Program.Literal
import Asm16.Proofs.Program.Reading
import Mathlib.Data.List.Forall2

/-!
# Letters of either case

Letters are folded in four places: mnemonics in every script, names of registers, the marks of
literals and their digits in ASCII.  All that is done to a text besides does not look at its letters,
so that a text and the same text in small letters are taken apart alike.

* `of_toLower` — facts about characters and their small letters, checked code by code.
* `Text.trim_asciiLower`, `Text.cut_asciiLower`, `Text.lower_asciiLower` and the like — each way to
  take a text apart, and folding in every script, against folding in ASCII.
* `Recased` — texts that differ in the case of letters only and hold no quotes.  Between quotes the
  case of a letter counts.
* `Recased.tokens`, `Recased.parseLiteral`, `Recased.registerOf?` — what two such texts have in common.
-/

namespace Asm16

/-! ## Characters -/

/-- What holds of the ASCII characters and their small letters, and of every character and itself,
holds of every character and its small letter. -/
lemma of_toLower {p : Char → Char → Prop}
    (hascii : ∀ n < 0x80, p (Char.ofNat n) (Char.ofNat n).toLower) (hself : ∀ c, p c c) (c : Char) :
    p c c.toLower := by
  by_cases hc : c.toNat < 0x80
  · exact of_ascii (p := fun c => p c c.toLower) hascii hc
  · rw [toLower_of_not_ascii hc]
    exact hself c

lemma isBlank_toLower (c : Char) : isBlank c.toLower = isBlank c :=
  of_toLower (p := fun c d => isBlank d = isBlank c) (by decide +kernel) (fun _ => rfl) c

lemma isWord_toLower (c : Char) : isWord c.toLower = isWord c :=
  of_toLower (p := fun c d => isWord d = isWord c) (by decide +kernel) (fun _ => rfl) c

/-- Only letters change when they are folded, and they become letters. -/
lemma toLower_eq_iff {d : Char} (hd : d.isAlpha = false) (c : Char) : c.toLower = d ↔ c = d := by
  have hfold : c.toLower = c ∨ c.isAlpha = true ∧ c.toLower.isAlpha = true :=
    of_toLower (p := fun c d => d = c ∨ c.isAlpha = true ∧ d.isAlpha = true) (by decide +kernel)
      (fun _ => .inl rfl) c
  constructor
  · rintro rfl
    rcases hfold with hsame | ⟨-, halpha⟩
    · exact hsame.symm
    · rw [hd] at halpha
      cases halpha
  · rintro rfl
    rcases hfold with hsame | ⟨halpha, -⟩
    · exact hsame
    · rw [hd] at halpha
      cases halpha

/-- The code of an ASCII letter, capital or small. -/
def IsLetterCode (n : Nat) : Prop := 0x41 ≤ n ∧ n ≤ 0x5A ∨ 0x61 ≤ n ∧ n ≤ 0x7A

instance (n : Nat) : Decidable (IsLetterCode n) := inferInstanceAs (Decidable (_ ∨ _))

lemma isLetterCode_toLower (c : Char) :
    c.toLower = c ∨ IsLetterCode c.toNat ∧ IsLetterCode c.toLower.toNat :=
  of_toLower (p := fun c d => d = c ∨ IsLetterCode c.toNat ∧ IsLetterCode d.toNat)
    (by decide +kernel) (fun _ => .inl rfl) c

lemma cased_of_isLetterCode {n : Nat} (h : IsLetterCode n) : casedRanges.has n = true := by
  have hfront : casedRanges = (0x41, 0x5A) :: (0x61, 0x7A) :: casedRanges.drop 2 := rfl
  rw [hfront, Ranges.has_cons, Ranges.has_cons]
  simp only [Bool.or_eq_true, Bool.and_eq_true, decide_eq_true_eq]
  rcases h with h | h
  · exact .inl h
  · exact .inr (.inl h)

lemma not_ignored_of_isLetterCode {n : Nat} (h : IsLetterCode n) : ignoredRanges.has n = false := by
  -- one look at each range, where code by code would be one for each code
  have hapart : ∀ range ∈ ignoredRanges,
      range.2 < 0x41 ∨ 0x5A < range.1 ∧ range.2 < 0x61 ∨ 0x7A < range.1 := by decide +kernel
  rw [Ranges.has, List.any_eq_false]
  intro range hrange
  have hrange := hapart range hrange
  simp only [Bool.and_eq_true, decide_eq_true_eq, not_and]
  rcases h with h | h <;> omega

lemma nearestIsCased_asciiLower (t : Text) : nearestIsCased t.asciiLower = nearestIsCased t := by
  have hcased : ∀ c : Char, casedRanges.has c.toLower.toNat = casedRanges.has c.toNat := by
    intro c
    rcases isLetterCode_toLower c with hsame | ⟨hc, hlower⟩
    · rw [hsame]
    · rw [cased_of_isLetterCode hc, cased_of_isLetterCode hlower]
  have hignored : ∀ c : Char, ignoredRanges.has c.toLower.toNat = ignoredRanges.has c.toNat := by
    intro c
    rcases isLetterCode_toLower c with hsame | ⟨hc, hlower⟩
    · rw [hsame]
    · rw [not_ignored_of_isLetterCode hc, not_ignored_of_isLetterCode hlower]
  induction t with
  | nil => rfl
  | cons c t ih =>
      rw [nearestIsCased, nearestIsCased] at ih ⊢
      rw [Text.asciiLower, List.map_cons, List.find?_cons, List.find?_cons, hignored]
      cases ignoredRanges.has c.toNat with
      | true => exact ih
      | false => exact hcased c

namespace Text

/-! ## Taking texts apart -/

section Characters

variable {p : Char → Bool} (hp : ∀ c, p c.toLower = p c) (t : Text)
include hp

lemma takeWhile_asciiLower : (asciiLower t).takeWhile p = asciiLower (t.takeWhile p) := by
  simp only [asciiLower, List.takeWhile_map, Function.comp_def, hp]

lemma dropWhile_asciiLower : (asciiLower t).dropWhile p = asciiLower (t.dropWhile p) := by
  simp only [asciiLower, List.dropWhile_map, Function.comp_def, hp]

end Characters

lemma trimLeft_asciiLower (t : Text) : trimLeft (asciiLower t) = asciiLower (trimLeft t) :=
  dropWhile_asciiLower isBlank_toLower t

lemma trim_asciiLower (t : Text) : trim (asciiLower t) = asciiLower (trim t) := by
  have hreverse : ∀ u : Text, (asciiLower u).reverse = asciiLower u.reverse := fun u =>
    List.map_reverse.symm
  rw [trim, trim, trimLeft_asciiLower, trimRight_eq_reverse, trimRight_eq_reverse, hreverse,
    trimLeft_asciiLower, hreverse]

section Separators

variable {d : Char} (hd : d.isAlpha = false) (t : Text)
include hd

lemma before_asciiLower : before d (asciiLower t) = asciiLower (before d t) :=
  takeWhile_asciiLower (p := (· ≠ d)) (fun c => by simp only [ne_eq, toLower_eq_iff hd]) t

lemma mem_asciiLower_iff : d ∈ asciiLower t ↔ d ∈ t := by
  simp only [asciiLower, List.mem_map, toLower_eq_iff hd, exists_eq_right]

lemma endsWith_asciiLower : endsWith d (asciiLower t) = endsWith d t := by
  rw [Bool.eq_iff_iff]
  simp only [endsWith, asciiLower, List.getLast?_map, beq_iff_eq, Option.map_eq_some_iff,
    toLower_eq_iff hd, exists_eq_right]

lemma startsWith_asciiLower : startsWith d (asciiLower t) = startsWith d t := by
  rw [Bool.eq_iff_iff]
  simp only [startsWith, asciiLower, List.head?_map, beq_iff_eq, Option.map_eq_some_iff,
    toLower_eq_iff hd, exists_eq_right]

lemma cut_asciiLower : cut d (asciiLower t) = (cut d t).map asciiLower := by
  induction t with
  | nil => rfl
  | cons c t ih =>
      by_cases hc : c = d
      · have hfold : c.toLower = d := (toLower_eq_iff hd c).2 hc
        rw [asciiLower, List.map_cons, cut, if_pos hfold, cut, if_pos hc, List.map_cons]
        exact congrArg _ ih
      · have hfold : c.toLower ≠ d := fun h => hc ((toLower_eq_iff hd c).1 h)
        obtain ⟨piece, pieces, hpieces⟩ := List.exists_cons_of_ne_nil (cut_ne_nil d t)
        rw [hpieces, List.map_cons] at ih
        rw [cut_cons hc hpieces]
        exact cut_cons hfold ih

end Separators

/-! ## Folding -/

@[simp] lemma asciiLower_asciiLower (t : Text) : asciiLower (asciiLower t) = asciiLower t := by
  rw [asciiLower, asciiLower, List.map_map]
  exact List.map_congr_left fun c _ => toLower_toLower c

/-- **Folding in every script folds the letters of ASCII as well.**  Whether a capital sigma stands
at the end of a word does not depend on their case. -/
lemma lower_asciiLower (t : Text) : lower (asciiLower t) = lower t := by
  have hchar : ∀ c : Char, lowerChar c.toLower = lowerChar c :=
    of_toLower (p := fun c d => lowerChar d = lowerChar c) (by decide +kernel) fun _ => rfl
  have hsigma : ∀ c : Char, c.toLower.toNat = 0x3A3 ↔ c.toNat = 0x3A3 :=
    of_toLower (p := fun c d => d.toNat = 0x3A3 ↔ c.toNat = 0x3A3) (by decide +kernel)
      fun _ => Iff.rfl
  suffices ∀ before, lowerBehind (asciiLower before) (asciiLower t) = lowerBehind before t from
    this []
  induction t with
  | nil => intro; rfl
  | cons c t ih =>
      intro before
      have hrest : lowerBehind (c.toLower :: asciiLower before) (asciiLower t) =
          lowerBehind (c :: before) t := ih (c :: before)
      have hneighbours : lowerSigma (asciiLower before) (asciiLower t) = lowerSigma before t := by
        rw [lowerSigma, nearestIsCased_asciiLower, nearestIsCased_asciiLower, lowerSigma]
      show lowerBehind (asciiLower before) (c.toLower :: asciiLower t) = lowerBehind before (c :: t)
      simp only [lowerBehind, hchar, hsigma, hneighbours, hrest]

end Text

lemma stripComment_asciiLower (line : Text) :
    stripComment line.asciiLower = (stripComment line).asciiLower := by
  rw [stripComment, stripComment, Text.before_asciiLower (by decide), Text.trim_asciiLower]

lemma isLabel_asciiLower (t : Text) : isLabel t.asciiLower = isLabel t :=
  Text.endsWith_asciiLower (by decide) t

lemma tokens_asciiLower (t : Text) :
    Instruction.tokens t.asciiLower = (Instruction.tokens t).map Text.asciiLower := by
  cases t with
  | nil => rfl
  | cons c t =>
      have hcut := Text.cut_asciiLower (d := ',') (by decide) (c :: t)
      have htrim : Text.trim ∘ Text.asciiLower = Text.asciiLower ∘ Text.trim :=
        funext Text.trim_asciiLower
      rw [Instruction.tokens, Instruction.tokens, hcut, List.map_map, htrim, ← List.map_map]
      rfl

/-! ## Tokens -/

lemma inner_asciiLower (t : Text) : inner t.asciiLower = (inner t).asciiLower := by
  simp only [inner, Text.asciiLower, List.map_drop, List.map_dropLast]

lemma isBracketed_asciiLower (token : Text) : isBracketed token.asciiLower = isBracketed token := by
  simp only [isBracketed, Text.trim_asciiLower, Text.startsWith_asciiLower (d := '[') (by decide),
    Text.endsWith_asciiLower (d := ']') (by decide)]

lemma registerOf?_asciiLower (token : Text) : registerOf? token.asciiLower = registerOf? token := by
  rw [registerOf?, registerOf?, Text.trim_asciiLower, Text.asciiLower_asciiLower]

lemma splitSign_asciiLower (t : Text) :
    splitSign t.asciiLower = ((splitSign t).1, (splitSign t).2.asciiLower) := by
  cases t with
  | nil => rfl
  | cons c t =>
      by_cases hminus : c = '-'
      · subst hminus
        rfl
      · by_cases hplus : c = '+'
        · subst hplus
          rfl
        · have hsame : splitSign (c :: t) = (false, c :: t) := by
            rw [splitSign] <;> (intro rest h; cases h; contradiction)
          have hfold : splitSign (Text.asciiLower (c :: t)) = (false, Text.asciiLower (c :: t)) := by
            have hminus' : c.toLower ≠ '-' := fun h => hminus ((toLower_eq_iff (by decide) c).1 h)
            have hplus' : c.toLower ≠ '+' := fun h => hplus ((toLower_eq_iff (by decide) c).1 h)
            rw [splitSign] <;> (intro rest h; simp only [Text.asciiLower, List.map_cons,
              List.cons.injEq] at h; exact absurd h.1 (by assumption))
          rw [hfold, hsame]

lemma parseSigned_asciiLower (t : Text) : parseSigned t.asciiLower = parseSigned t := by
  simp only [parseSigned, splitSign_asciiLower, Text.asciiLower_asciiLower]

/-- The quotes of a character literal are its first and last character. -/
lemma parseLiteral_of_noQuote {t : Text} (h : '\'' ∉ t) : parseLiteral t = parseSigned t.trim := by
  refine parseLiteral_eq fun c hc => h (Text.mem_of_mem_trim ?_)
  rw [hc]
  exact List.mem_cons_self

/-! ## Texts in another case -/

/-- The texts differ in the case of letters only, and hold no quotes. -/
structure Recased (t u : Text) : Prop where
  fold : t.asciiLower = u.asciiLower
  noQuote : '\'' ∉ t

namespace Recased

variable {t u : Text}

lemma noQuote_right (h : Recased t u) : '\'' ∉ u := by
  rw [← Text.mem_asciiLower_iff (by decide), ← h.fold, Text.mem_asciiLower_iff (by decide)]
  exact h.noQuote

/-- What does not change when a text is folded. -/
lemma congr {α : Type} {f : Text → α} (hf : ∀ t, f t.asciiLower = f t) (h : Recased t u) :
    f t = f u := by
  rw [← hf t, h.fold, hf u]

/-- A part of a text that is taken out whatever its letters are. -/
lemma part {f : Text → Text} (hf : ∀ t, f t.asciiLower = (f t).asciiLower)
    (hmem : ∀ {t c}, c ∈ f t → c ∈ t) (h : Recased t u) : Recased (f t) (f u) where
  fold := by rw [← hf, h.fold, hf]
  noQuote := fun hquote => h.noQuote (hmem hquote)

lemma trim (h : Recased t u) : Recased t.trim u.trim :=
  h.part Text.trim_asciiLower Text.mem_of_mem_trim

lemma stripComment (h : Recased t u) : Recased (stripComment t) (stripComment u) :=
  h.part stripComment_asciiLower fun hc =>
    (List.takeWhile_sublist _).subset (Text.mem_of_mem_trim hc)

lemma inner (h : Recased t u) : Recased (inner t) (inner u) :=
  h.part inner_asciiLower fun hc => List.mem_of_mem_drop ((List.dropLast_sublist _).subset hc)

lemma takeWhile_isWord (h : Recased t u) : Recased (t.takeWhile isWord) (u.takeWhile isWord) :=
  h.part (fun t => Text.takeWhile_asciiLower isWord_toLower t) fun hc =>
    (List.takeWhile_sublist _).subset hc

lemma dropWhile {p : Char → Bool} (hp : ∀ c, p c.toLower = p c) (h : Recased t u) :
    Recased (t.dropWhile p) (u.dropWhile p) :=
  h.part (fun t => Text.dropWhile_asciiLower hp t) fun hc => (List.dropWhile_sublist _).subset hc

lemma isEmpty (h : Recased t u) : t.isEmpty = u.isEmpty :=
  h.congr fun t => by cases t <;> rfl

/-- **The tokens of texts that differ in case differ in case.** -/
lemma tokens (h : Recased t u) :
    List.Forall₂ Recased (Instruction.tokens t) (Instruction.tokens u) := by
  have hfold : (Instruction.tokens t).map Text.asciiLower =
      (Instruction.tokens u).map Text.asciiLower := by
    rw [← tokens_asciiLower, h.fold, tokens_asciiLower]
  have hmem : ∀ token ∈ Instruction.tokens t, '\'' ∉ token := by
    intro token htoken hquote
    rw [Instruction.tokens] at htoken
    split_ifs at htoken
    · cases htoken
    · obtain ⟨piece, hpiece, rfl⟩ := List.mem_map.1 htoken
      exact h.noQuote (Text.mem_of_mem_cut hpiece (Text.mem_of_mem_trim hquote))
  have hall : List.Forall₂ (fun t u : Text => t.asciiLower = u.asciiLower) (Instruction.tokens t)
      (Instruction.tokens u) := by
    rwa [← List.forall₂_eq_eq_eq, List.forall₂_map_left_iff, List.forall₂_map_right_iff] at hfold
  exact ((List.forall₂_and_left _ _).2 ⟨hmem, hall⟩).imp fun token token' h => ⟨h.2, h.1⟩

lemma lower (h : Recased t u) : t.lower = u.lower := h.congr Text.lower_asciiLower

lemma isLabel (h : Recased t u) : isLabel t = isLabel u := h.congr isLabel_asciiLower

lemma isBracketed (h : Recased t u) : isBracketed t = isBracketed u :=
  h.congr isBracketed_asciiLower

lemma registerOf? (h : Recased t u) : registerOf? t = registerOf? u :=
  h.congr registerOf?_asciiLower

/-- **They are the same literal**, if they are one. -/
lemma parseLiteral (h : Recased t u) : parseLiteral t = parseLiteral u := by
  rw [parseLiteral_of_noQuote h.noQuote, parseLiteral_of_noQuote h.noQuote_right]
  exact h.trim.congr parseSigned_asciiLower

end Recased

end Asm16
