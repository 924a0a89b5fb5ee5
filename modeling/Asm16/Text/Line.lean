import Asm16.Text.Basic

/-!
# Lines

Program text is cut at every line break.  The breaks are line feed, carriage return, vertical tab,
form feed, the separators U+001C, U+001D and U+001E, U+0085, U+2028 and U+2029; a carriage return
followed by a line feed is one break.  A break ends a line rather than starting one, so there is no
empty last line after a final break, and an empty text has no line at all.

* `isBreak` — the single characters that end a line.
* `Text.lines` — the lines, without their breaks.

`not_isBreak_of_mem_lines` says that no line holds a break, and `lines_joinWith` that lines without
breaks come back when they are written with a line feed between them.
-/

namespace Asm16

/-- A character that ends a line. -/
def isBreak (c : Char) : Bool :=
  let n := c.toNat
  (0xA ≤ n && n ≤ 0xD) || (0x1C ≤ n && n ≤ 0x1E) || n == 0x85 || n == 0x2028 || n == 0x2029

namespace Text

/-- Put a character in front of the first line, which starts with it if there is none yet. -/
def prepend (c : Char) : List Text → List Text
  | [] => [[c]]
  | line :: rest => (c :: line) :: rest

def lines : Text → List Text
  | [] => []
  | '\r' :: '\n' :: rest => [] :: lines rest
  | c :: rest => if isBreak c then [] :: lines rest else prepend c (lines rest)

@[simp] theorem lines_nil : lines [] = [] := rfl

@[simp] theorem lines_crlf (rest : Text) : lines ('\r' :: '\n' :: rest) = [] :: lines rest := rfl

/-- A break other than a carriage return ends the line at once. -/
theorem lines_break {c : Char} (hb : isBreak c) (hr : c ≠ '\r') (rest : Text) :
    lines (c :: rest) = [] :: lines rest := by
  rw [lines]
  · simp [hb]
  · rintro _ rfl; exact fun _ => hr rfl

/-- Any other character belongs to the line that starts behind it. -/
theorem lines_cons {c : Char} (hb : isBreak c = false) (rest : Text) :
    lines (c :: rest) = prepend c (lines rest) := by
  have hr : c ≠ '\r' := by rintro rfl; simp [isBreak] at hb
  rw [lines]
  · simp [hb]
  · rintro _ rfl; exact fun _ => hr rfl

theorem mem_prepend {c d : Char} {ls : List Text} {line : Text} (h : line ∈ prepend c ls)
    (hd : d ∈ line) : d = c ∨ ∃ l ∈ ls, d ∈ l := by
  cases ls with
  | nil => simp_all [prepend]
  | cons first rest =>
    simp only [prepend, List.mem_cons] at h
    rcases h with rfl | h
    · rcases List.mem_cons.1 hd with rfl | hd
      · exact .inl rfl
      · exact .inr ⟨first, by simp, hd⟩
    · exact .inr ⟨line, by simp [h], hd⟩

theorem not_isBreak_of_mem_lines {t line : Text} (h : line ∈ lines t) :
    ∀ c ∈ line, isBreak c = false := by
  fun_induction lines t generalizing line with
  | case1 => simp at h
  | case2 rest ih =>
    rcases List.mem_cons.1 h with rfl | h
    · simp
    · exact ih h
  | case3 c rest _ _ ih =>
    rcases List.mem_cons.1 h with rfl | h
    · simp
    · exact ih h
  | case4 c rest _ hb ih =>
    intro d hd
    rcases mem_prepend h hd with rfl | ⟨l, hl, hdl⟩
    · simpa using hb
    · exact ih hl d hdl

/-- A line without breaks, ended by a line feed, comes back in front of the others. -/
theorem lines_append {line : Text} (h : ∀ c ∈ line, isBreak c = false) (rest : Text) :
    lines (line ++ '\n' :: rest) = line :: lines rest := by
  induction line with
  | nil => exact lines_break (by decide) (by decide) rest
  | cons c cs ih =>
    rw [List.cons_append, lines_cons (h c (by simp)), ih fun x hx => h x (by simp [hx])]
    rfl

/-- A text without breaks is its own only line, unless it is empty. -/
theorem lines_of_no_break {line : Text} (h : ∀ c ∈ line, isBreak c = false) (hne : line ≠ []) :
    lines line = [line] := by
  induction line with
  | nil => exact absurd rfl hne
  | cons c cs ih =>
    rw [lines_cons (h c (by simp))]
    cases cs with
    | nil => rfl
    | cons d ds => rw [ih (fun x hx => h x (by simp [hx])) (by simp)]; rfl

/-- Lines without breaks, with a line feed between them and a last line that is not empty, come
back. -/
theorem lines_joinWith {ls : List Text} (h : ∀ line ∈ ls, ∀ c ∈ line, isBreak c = false)
    (hlast : ls.getLast? ≠ some []) : lines (joinWith ['\n'] ls) = ls := by
  induction ls with
  | nil => rfl
  | cons line rest ih =>
    cases rest with
    | nil => exact lines_of_no_break (h line (by simp)) (by rintro rfl; simp at hlast)
    | cons next rest =>
      rw [joinWith_cons _ _ (by simp), List.append_assoc, List.singleton_append,
        lines_append (h line (by simp)),
        ih (fun l hl => h l (by simp [hl])) (by simpa using hlast)]

end Text
end Asm16
