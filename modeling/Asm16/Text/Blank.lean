import Asm16.Text.Basic

/-!
# White space and trimming

A blank is a character of the Unicode white-space set together with the four information
separators U+001C to U+001F.  U+200B and U+FEFF are not blanks, and neither is U+0000.

* `isBlank` — the set, as a handful of ranges.
* `Text.trimLeft`, `Text.trimRight`, `Text.trim` — drop blanks at the ends.

What later proofs need of trimming is that the result has no blank at either end
(`head?_trim`, `getLast?_trim`), that such a text is left alone (`trim_eq_self`), and that
surrounding blanks never matter (`trim_surround`).
-/

namespace Asm16

def isBlank (c : Char) : Bool :=
  let n := c.toNat
  (9 ≤ n && n ≤ 13) || (0x1C ≤ n && n ≤ 0x20) || n == 0x85 || n == 0xA0 || n == 0x1680 ||
    (0x2000 ≤ n && n ≤ 0x200A) || n == 0x2028 || n == 0x2029 || n == 0x202F || n == 0x205F ||
    n == 0x3000

/-- Every character that core counts as white space is a blank. -/
theorem isBlank_of_isWhitespace {c : Char} (h : c.isWhitespace) : isBlank c := by
  simp only [Char.isWhitespace, Bool.or_eq_true, decide_eq_true_eq] at h
  rcases h with ((rfl | rfl) | rfl) | rfl <;> decide

namespace Text

def trimLeft (t : Text) : Text := t.dropWhile isBlank

def trimRight (t : Text) : Text := (t.reverse.dropWhile isBlank).reverse

/-- Without the blanks at either end. -/
def trim (t : Text) : Text := trimRight (trimLeft t)

/-! ## One end at a time -/

theorem trimLeft_append {w : Text} (h : ∀ c ∈ w, isBlank c) (t : Text) :
    trimLeft (w ++ t) = trimLeft t := by
  induction w with
  | nil => rfl
  | cons c cs ih =>
    have hc : isBlank c = true := h c (by simp)
    have := ih fun x hx => h x (by simp [hx])
    simpa [trimLeft, hc] using this

/-- A text that does not start with a blank is left alone. -/
theorem trimLeft_eq_self {t : Text} (h : ∀ c, t.head? = some c → isBlank c = false) :
    trimLeft t = t := by
  cases t with
  | nil => rfl
  | cons c cs => simp [trimLeft, h c rfl]

theorem head?_trimLeft {t : Text} {c : Char} (h : (trimLeft t).head? = some c) :
    isBlank c = false := by
  induction t with
  | nil => simp [trimLeft] at h
  | cons d ds ih =>
    cases hd : isBlank d with
    | true => exact ih (by simpa [trimLeft, hd] using h)
    | false =>
      simp [trimLeft, hd] at h
      exact h ▸ hd

/-- Trimming the end is trimming the front of the reversed text. -/
theorem trimRight_eq_reverse (t : Text) : trimRight t = (trimLeft t.reverse).reverse := rfl

theorem trimRight_append {w : Text} (h : ∀ c ∈ w, isBlank c) (t : Text) :
    trimRight (t ++ w) = trimRight t := by
  rw [trimRight_eq_reverse, trimRight_eq_reverse, List.reverse_append,
    trimLeft_append fun c hc => h c (by simpa using hc)]

theorem trimRight_eq_self {t : Text} (h : ∀ c, t.getLast? = some c → isBlank c = false) :
    trimRight t = t := by
  rw [trimRight_eq_reverse, trimLeft_eq_self (by simpa using h), List.reverse_reverse]

theorem getLast?_trimRight {t : Text} {c : Char} (h : (trimRight t).getLast? = some c) :
    isBlank c = false :=
  head?_trimLeft (t := t.reverse) (by simpa [trimRight_eq_reverse] using h)

/-- Trimming the end keeps the front: either nothing is left or the first character stays. -/
theorem head?_trimRight (t : Text) : trimRight t = [] ∨ (trimRight t).head? = t.head? := by
  obtain ⟨w, hw⟩ : ∃ w, t = trimRight t ++ w := by
    refine ⟨(t.reverse.takeWhile isBlank).reverse, ?_⟩
    rw [trimRight, ← List.reverse_append, List.takeWhile_append_dropWhile, List.reverse_reverse]
  cases h : trimRight t with
  | nil => exact .inl rfl
  | cons c cs => right; rw [hw, h]; rfl

/-! ## Both ends -/

theorem getLast?_trim {t : Text} {c : Char} (h : (trim t).getLast? = some c) :
    isBlank c = false := getLast?_trimRight h

theorem head?_trim {t : Text} {c : Char} (h : (trim t).head? = some c) : isBlank c = false := by
  rcases head?_trimRight (trimLeft t) with hn | he
  · simp [trim, hn] at h
  · exact head?_trimLeft (he ▸ h)

/-- A text with no blank at either end is left alone. -/
theorem trim_eq_self {t : Text} (hl : ∀ c, t.head? = some c → isBlank c = false)
    (hr : ∀ c, t.getLast? = some c → isBlank c = false) : trim t = t := by
  rw [trim, trimLeft_eq_self hl, trimRight_eq_self hr]

@[simp] theorem trim_trim (t : Text) : trim (trim t) = trim t :=
  trim_eq_self (fun _ h => head?_trim h) (fun _ h => getLast?_trim h)

@[simp] theorem trim_nil : trim [] = [] := rfl

/-- Trimming a text that is all blanks leaves nothing. -/
theorem trim_eq_nil_of_blank {w : Text} (h : ∀ c ∈ w, isBlank c) : trim w = [] := by
  have := trimLeft_append h []
  rw [List.append_nil] at this
  rw [trim, this]; rfl

/-- Surrounding blanks never matter. -/
theorem trim_surround {u w : Text} (hu : ∀ c ∈ u, isBlank c) (hw : ∀ c ∈ w, isBlank c)
    (t : Text) : trim (u ++ t ++ w) = trim t := by
  rw [trim, List.append_assoc, trimLeft_append hu]
  by_cases hb : ∀ c ∈ t, isBlank c
  · rw [← trim, trim_eq_nil_of_blank hb, trim_eq_nil_of_blank]
    intro c hc
    rcases List.mem_append.1 hc with h | h
    · exact hb c h
    · exact hw c h
  · have hl : trimLeft (t ++ w) = trimLeft t ++ w := by
      induction t with
      | nil => simp at hb
      | cons c cs ih =>
        cases hc : isBlank c with
        | false => simp [trimLeft, hc]
        | true =>
          have := ih (by simpa [hc] using hb)
          simpa [trimLeft, hc] using this
    rw [hl, trimRight_append hw, trim]

end Text
end Asm16
