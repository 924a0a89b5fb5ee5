/-!
# Text as a list of characters

Source lines, tokens and panels are read and written character by character, so they are kept as
lists: recursion on the list is recursion on the text, and every law below is an induction.  A
`String` appears only where text is finished, in messages and on the way out.

A character is a Unicode scalar value.  A host whose strings may also hold lone surrogates has texts
that are not among these; text that was decoded from bytes never holds one.

* `Text` — the type, with `text "…"` for a literal.
* `Text.cut` — cut at every occurrence of one character.
* `Text.joinWith` — put pieces together with a separator.

`cut` and `joinWith` are inverse to each other on pieces that hold no separator
(`cut_joinWith`), and `joinWith_cut` needs no condition: cutting loses nothing.
-/

namespace Asm16

/-- Text under analysis, one character a cell; there are no lone surrogates in it. -/
abbrev Text := List Char

/-- A literal as text. -/
abbrev text (s : String) : Text := s.toList

namespace Text

/-- The pieces of a text between the occurrences of `sep`; there is always at least one piece. -/
def cut (sep : Char) : Text → List Text
  | [] => [[]]
  | c :: cs =>
    if c = sep then [] :: cut sep cs
    else match cut sep cs with
      | [] => [[c]]
      | piece :: pieces => (c :: piece) :: pieces

/-- The pieces in order, with `sep` between neighbours. -/
def joinWith (sep : Text) : List Text → Text
  | [] => []
  | [piece] => piece
  | piece :: pieces => piece ++ sep ++ joinWith sep pieces

/-- The text before the first `sep`, all of it when there is none. -/
def before (sep : Char) (t : Text) : Text := t.takeWhile (· ≠ sep)

def endsWith (c : Char) (t : Text) : Bool := t.getLast? == some c

def startsWith (c : Char) (t : Text) : Bool := t.head? == some c

/-- Letters of the first alphabet in lower case, everything else as it is. -/
def asciiLower (t : Text) : Text := t.map Char.toLower

/-! ## Cutting and joining -/

theorem cut_ne_nil (sep : Char) (t : Text) : cut sep t ≠ [] := by
  cases t with
  | nil => simp [cut]
  | cons c cs =>
    unfold cut
    split
    · simp
    · split <;> simp

@[simp] theorem joinWith_singleton (sep piece : Text) : joinWith sep [piece] = piece := rfl

theorem joinWith_cons (sep piece : Text) {pieces : List Text} (h : pieces ≠ []) :
    joinWith sep (piece :: pieces) = piece ++ sep ++ joinWith sep pieces := by
  cases pieces with
  | nil => exact absurd rfl h
  | cons next rest => rfl

/-- Cutting loses nothing: the pieces, joined again, are the text. -/
theorem joinWith_cut (sep : Char) (t : Text) : joinWith [sep] (cut sep t) = t := by
  induction t with
  | nil => rfl
  | cons c cs ih =>
    by_cases h : c = sep
    · simp [cut, h, joinWith_cons _ _ (cut_ne_nil sep cs), ih]
    · rw [cut, if_neg h]
      split
      next heq => exact absurd heq (cut_ne_nil sep cs)
      next piece pieces heq =>
        rw [heq] at ih
        cases pieces with
        | nil => simpa using ih
        | cons next rest =>
          rw [joinWith_cons _ _ (by simp)] at ih ⊢
          simpa using ih

/-- A piece without the separator is cut off whole. -/
theorem cut_append (sep : Char) {piece : Text} (h : sep ∉ piece) (rest : Text) :
    cut sep (piece ++ sep :: rest) = piece :: cut sep rest := by
  induction piece with
  | nil => simp [cut]
  | cons c cs ih =>
    have hc : c ≠ sep := fun e => h (by simp [e])
    have hcs : sep ∉ cs := fun m => h (by simp [m])
    simp [cut, hc, ih hcs]

/-- A text without the separator is its own only piece. -/
theorem cut_of_not_mem (sep : Char) {t : Text} (h : sep ∉ t) : cut sep t = [t] := by
  induction t with
  | nil => rfl
  | cons c cs ih =>
    have hc : c ≠ sep := fun e => h (by simp [e])
    have hcs : sep ∉ cs := fun m => h (by simp [m])
    simp [cut, hc, ih hcs]

theorem not_mem_of_mem_cut {sep : Char} {t piece : Text} (h : piece ∈ cut sep t) :
    sep ∉ piece := by
  induction t generalizing piece with
  | nil => simp_all [cut]
  | cons c cs ih =>
    by_cases hc : c = sep
    · simp only [cut, hc, if_true, List.mem_cons] at h
      rcases h with rfl | h
      · simp
      · exact ih h
    · rw [cut, if_neg hc] at h
      split at h
      next heq => exact absurd heq (cut_ne_nil sep cs)
      next first pieces heq =>
        rcases List.mem_cons.1 h with rfl | h
        · have hfirst : first ∈ cut sep cs := by rw [heq]; simp
          simp [ih hfirst, Ne.symm hc]
        · exact ih (by rw [heq]; simp [h])

/-- Pieces without the separator come back from the joined text. -/
theorem cut_joinWith (sep : Char) {pieces : List Text} (hne : pieces ≠ [])
    (h : ∀ piece ∈ pieces, sep ∉ piece) : cut sep (joinWith [sep] pieces) = pieces := by
  induction pieces with
  | nil => exact absurd rfl hne
  | cons piece rest ih =>
    cases rest with
    | nil => simpa using cut_of_not_mem sep (h piece (by simp))
    | cons next rest =>
      rw [joinWith_cons _ _ (by simp), List.append_assoc, List.singleton_append,
        cut_append sep (h piece (by simp)), ih (by simp) (fun p hp => h p (by simp [hp]))]

end Text
end Asm16
