import Asm16.Text.Basic
import Asm16.Text.Digit

/-!
# Control sequences

A terminal takes some character sequences as commands.  When output does not go to a terminal they
are left out, wherever they come from.

* A control sequence is escape, an opening bracket, digits and semicolons, and an ASCII letter.
* A system command is escape, a closing bracket, and anything up to a bell.

Either may stand between U+0001 and U+0002, which mark text without width and go with it.

System commands are cut out first, each at the place where it stood in the whole text.  So with two
of them in one text the second cut comes as many characters too late as the first one has taken out.
-/

namespace Asm16.Text

/-- What follows digits, semicolons and a letter. -/
def afterParameters? : Text → Option Text
  | [] => none
  | c :: rest =>
    if isDecimalDigit c || c = ';' then afterParameters? rest
    else if c.isAlpha then some rest
    else none

/-- What follows the next bell. -/
def afterBell? : Text → Option Text
  | [] => none
  | '\x07' :: rest => some rest
  | _ :: rest => afterBell? rest

/-- Without a closing mark in front. -/
def dropMark : Text → Text
  | '\x02' :: rest => rest
  | t => t

/-- What follows a sequence of escape, the character `opening` and what `after?` recognises, between
marks or not. -/
def afterEscape? (opening : Char) (after? : Text → Option Text) : Text → Option Text
  | '\x01' :: '\x1b' :: c :: rest => if c = opening then (after? rest).map dropMark else none
  | '\x1b' :: c :: rest => if c = opening then (after? rest).map dropMark else none
  | _ => none

/-- What follows a control sequence that the text starts with. -/
def afterSequence? : Text → Option Text := afterEscape? '[' afterParameters?

/-- What follows a system command that the text starts with. -/
def afterCommand? : Text → Option Text := afterEscape? ']' afterBell?

/-! ## What follows is shorter -/

theorem length_afterParameters? {t rest : Text} (h : afterParameters? t = some rest) :
    rest.length < t.length := by
  induction t with
  | nil => simp [afterParameters?] at h
  | cons c cs ih =>
    rw [afterParameters?] at h
    split at h
    · exact Nat.lt_succ_of_lt (ih h)
    · split at h
      · cases h; exact Nat.lt_succ_self _
      · cases h

theorem length_afterBell? {t rest : Text} (h : afterBell? t = some rest) :
    rest.length < t.length := by
  fun_induction afterBell? t with
  | case1 => cases h
  | case2 => cases h; exact Nat.lt_succ_self _
  | case3 _ _ _ ih => exact Nat.lt_succ_of_lt (ih h)

theorem length_dropMark (t : Text) : (dropMark t).length ≤ t.length := by
  unfold dropMark
  split
  · exact Nat.le_succ _
  · exact Nat.le_refl _

theorem length_afterEscape? {opening : Char} {after? : Text → Option Text}
    (hafter : ∀ t rest, after? t = some rest → rest.length < t.length) {t rest : Text}
    (h : afterEscape? opening after? t = some rest) : rest.length < t.length := by
  have shorter {t rest : Text} (h : (after? t).map dropMark = some rest) :
      rest.length < t.length := by
    obtain ⟨u, hu, rfl⟩ := Option.map_eq_some_iff.1 h
    exact Nat.lt_of_le_of_lt (length_dropMark u) (hafter t u hu)
  unfold afterEscape? at h
  split at h
  · split at h
    · have := shorter h
      simp only [List.length_cons]; omega
    · cases h
  · split at h
    · have := shorter h
      simp only [List.length_cons]; omega
    · cases h
  · cases h

theorem length_afterSequence? {t rest : Text} (h : afterSequence? t = some rest) :
    rest.length < t.length := length_afterEscape? (fun _ _ => length_afterParameters?) h

theorem length_afterCommand? {t rest : Text} (h : afterCommand? t = some rest) :
    rest.length < t.length := length_afterEscape? (fun _ _ => length_afterBell?) h

/-! ## Leaving out -/

/-- A text without control sequences, behind characters that are kept, the last one first. -/
def withoutSequences (kept : Text) (t : Text) : Text :=
  match t with
  | [] => kept.reverse
  | c :: cs =>
    match _h : afterSequence? (c :: cs) with
    | some rest => withoutSequences kept rest
    | none => withoutSequences (c :: kept) cs
termination_by t.length
decreasing_by
  · exact length_afterSequence? _h
  · exact Nat.lt_succ_self _

/-- Where system commands stand, as start and length, in a text that begins at `start`. -/
def commands (start : Nat) (t : Text) : List (Nat × Nat) :=
  match t with
  | [] => []
  | c :: cs =>
    match _h : afterCommand? (c :: cs) with
    | some rest =>
      let length := (c :: cs).length - rest.length
      (start, length) :: commands (start + length) rest
    | none => commands (start + 1) cs
termination_by t.length
decreasing_by
  · exact length_afterCommand? _h
  · exact Nat.lt_succ_self _

/-- Cut one place after the other out of a text. -/
def cutPlaces (t : Text) (ps : List (Nat × Nat)) : Text :=
  ps.foldl (fun t p => t.take p.1 ++ t.drop (p.1 + p.2)) t

/-- The text without what a terminal would take as a command. -/
def withoutControls (t : Text) : Text := withoutSequences [] (cutPlaces t (commands 0 t))

end Asm16.Text
