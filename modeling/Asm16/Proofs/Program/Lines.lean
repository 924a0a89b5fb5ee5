import Asm16.Proofs.Machine.Interpretation
import Mathlib.Data.List.Basic

/-!
# How a text falls into lines

What it means to cut a text into lines is said here without a program that does it: which characters
end lines is a parameter, and a carriage return with the line feed behind it is one end.

* `Text.Splits` — a text falls into these lines.  `splits_iff` says that the lines of a program are
  the only ones that its text falls into, and `splits_newline_iff` when they are those between its
  newlines.
* `Text.IsLine`, `Text.countEnds` — a line in its place, and how many lines end in front of it.
* `lines_append_of_ended`, `exists_lines_comment` — what stands behind the end of a line, and what
  stands in a comment, does not reach further.
-/

namespace Asm16

/-- A line feed or a carriage return. -/
def isNewline (c : Char) : Bool := c == '\n' || c == '\r'

lemma isBreak_of_isNewline {c : Char} (h : isNewline c = true) : isBreak c = true := by
  simp only [isNewline, Bool.or_eq_true, beq_iff_eq] at h
  rcases h with rfl | rfl <;> rfl

namespace Text

/-- What ends a line in front of `rest`: a carriage return and a line feed, or one character that
ends lines.  A carriage return in front of a line feed is not the whole of it. -/
inductive IsEnd (ends : Char → Bool) : Text → Text → Prop
  | pair (rest : Text) : IsEnd ends ['\r', '\n'] rest
  | single {c : Char} {rest : Text} (h : ends c = true) (hpair : c = '\r' → rest.head? ≠ some '\n') :
      IsEnd ends [c] rest

/-- The text falls into these lines.  The last one need not be ended, but then it is not empty. -/
inductive Splits (ends : Char → Bool) : Text → List Text → Prop
  | nil : Splits ends [] []
  | last {line : Text} (hline : ∀ c ∈ line, ends c = false) (hne : line ≠ []) :
      Splits ends line [line]
  | line {line ending rest : Text} {others : List Text} (hline : ∀ c ∈ line, ends c = false)
      (hend : IsEnd ends ending rest) (hrest : Splits ends rest others) :
      Splits ends (line ++ ending ++ rest) (line :: others)

/-- How many lines end in a text. -/
def countEnds (ends : Char → Bool) : Text → Nat
  | [] => 0
  | '\r' :: '\n' :: rest => countEnds ends rest + 1
  | c :: rest => (if ends c then 1 else 0) + countEnds ends rest

/-- Nothing of a line is left open in front of `rest`. -/
def IsEnded (ends : Char → Bool) (t rest : Text) : Prop :=
  ∀ c, t.getLast? = some c → ends c = true ∧ (c = '\r' → rest.head? ≠ some '\n')

/-- What stands between the two texts is one whole line. -/
structure IsLine (ends : Char → Bool) (before line after : Text) : Prop where
  unbroken : ∀ c ∈ line, ends c = false
  begins : IsEnded ends before (line ++ after)
  stops : ∀ c, after.head? = some c → ends c = true
  some : line ++ after ≠ []

variable {ends : Char → Bool} {t line ending rest before after comment : Text} {ls : List Text}

/-! ## The lines of a text -/

lemma lines_of_end (h : IsEnd isBreak ending rest) : lines (ending ++ rest) = [] :: lines rest := by
  cases h with
  | pair => rfl
  | @single c rest h hpair =>
      by_cases hr : c = '\r'
      · subst hr
        cases rest with
        | nil => rfl
        | cons d rest =>
            have hd : d ≠ '\n' := by simpa using hpair rfl
            rw [List.singleton_append, lines]
            · rfl
            · rintro _ - ⟨rfl, -⟩
              exact hd rfl
      · exact lines_break h hr rest

lemma lines_line (hline : ∀ c ∈ line, isBreak c = false) (hend : IsEnd isBreak ending rest) :
    lines (line ++ ending ++ rest) = line :: lines rest := by
  induction line with
  | nil => exact lines_of_end hend
  | cons c cs ih =>
      rw [List.cons_append, List.cons_append, lines_cons (hline c (by simp)),
        ih fun x hx => hline x (by simp [hx])]
      rfl

lemma Splits.eq_lines (h : Splits isBreak t ls) : ls = lines t := by
  induction h with
  | nil => rfl
  | last hline hne => exact (lines_of_no_break hline hne).symm
  | line hline hend _ ih => rw [lines_line hline hend, ih]

lemma Splits.prepend {c : Char} (hc : ends c = false) (h : Splits ends t ls) :
    Splits ends (c :: t) (prepend c ls) := by
  have hcons : ∀ {line : Text}, (∀ d ∈ line, ends d = false) → ∀ d ∈ c :: line, ends d = false := by
    intro line hline d hd
    rcases List.mem_cons.1 hd with rfl | hd
    · exact hc
    · exact hline d hd
  cases h with
  | nil => exact .last (hcons (by simp)) (by simp)
  | last hline hne => exact .last (hcons hline) (by simp)
  | line hline hend hrest => exact .line (hcons hline) hend hrest

/-- The ends of the lines are found from left to right. -/
lemma splits_lines (t : Text) : Splits isBreak t (lines t) := by
  fun_induction lines t with
  | case1 => exact .nil
  | case2 rest ih =>
      have hline : ∀ c ∈ ([] : Text), isBreak c = false := by simp
      exact .line hline (.pair rest) ih
  | case3 c rest hpair hb ih =>
      have hline : ∀ c ∈ ([] : Text), isBreak c = false := by simp
      have hend : IsEnd isBreak [c] rest := by
        refine .single hb ?_
        rintro rfl hhead
        obtain ⟨tail, rfl⟩ := List.head?_eq_some_iff.1 hhead
        exact hpair tail rfl rfl
      exact .line hline hend ih
  | case4 c rest _ hb ih => exact .prepend (by simpa using hb) ih

/-- **The lines of a text are the only ones it falls into.** -/
theorem splits_iff : Splits isBreak t ls ↔ ls = lines t :=
  ⟨Splits.eq_lines, fun h => h ▸ splits_lines t⟩

/-- What the characters of the text do decides how it falls into lines. -/
lemma Splits.congr {ends' : Char → Bool} (h : Splits ends t ls) (hsame : ∀ c ∈ t, ends c = ends' c) :
    Splits ends' t ls := by
  induction h with
  | nil => exact .nil
  | last hline hne => exact .last (fun c hc => hsame c hc ▸ hline c hc) hne
  | @line line ending rest others hline hend _ ih =>
      refine .line (fun c hc => hsame c (by simp [hc]) ▸ hline c hc) ?_
        (ih fun c hc => hsame c (by simp [hc]))
      cases hend with
      | pair => exact .pair _
      | @single c _ h hpair => exact .single (hsame c (by simp) ▸ h) hpair

/-- Every character that ends lines somewhere ends one here, or stands in one. -/
lemma Splits.ends_of_mem (h : Splits isNewline t ls) {c : Char} (hc : c ∈ t)
    (hlines : ∀ line ∈ ls, c ∉ line) : isNewline c = true := by
  induction h with
  | nil => cases hc
  | last hline hne => exact absurd hc (hlines _ (by simp))
  | @line line ending rest others hline hend _ ih =>
      rcases List.mem_append.1 hc with hc | hc
      · rcases List.mem_append.1 hc with hc | hc
        · exact absurd hc (hlines _ (by simp))
        · cases hend with
          | pair =>
              simp only [List.mem_cons, List.not_mem_nil, or_false] at hc
              rcases hc with rfl | rfl <;> rfl
          | single h => exact List.mem_singleton.1 hc ▸ h
      · exact ih hc fun other hother => hlines other (by simp [hother])

/-- **The lines of a text are those between its newlines** just if it holds no other break. -/
theorem splits_newline_iff :
    Splits isNewline t (lines t) ↔ ∀ c ∈ t, isBreak c = true → isNewline c = true := by
  constructor
  · intro h c hc hb
    refine h.ends_of_mem hc fun line hline hmem => ?_
    rw [not_isBreak_of_mem_lines hline c hmem] at hb
    cases hb
  · intro h
    refine (splits_lines t).congr fun c hc => ?_
    cases hb : isBreak c with
    | true => exact (h c hc hb).symm
    | false =>
        cases hn : isNewline c with
        | true => rw [isBreak_of_isNewline hn] at hb; cases hb
        | false => rfl

/-! ## Where a line stands -/

lemma IsEnd.isEnded (hlf : ends '\n' = true) (h : IsEnd ends ending rest) (t : Text) :
    IsEnded ends (t ++ ending) rest := by
  intro c hc
  cases h with
  | pair =>
      rw [List.getLast?_append_of_ne_nil _ (by simp)] at hc
      cases hc
      exact ⟨hlf, fun hr => absurd hr (by decide)⟩
  | single h hpair =>
      rw [List.getLast?_append_of_ne_nil _ (by simp)] at hc
      cases hc
      exact ⟨h, hpair⟩

lemma countEnds_line (hcr : ends '\r' = true) (hline : ∀ c ∈ line, ends c = false) (t : Text) :
    countEnds ends (line ++ t) = countEnds ends t := by
  induction line with
  | nil => rfl
  | cons c cs ih =>
      have hc := hline c (by simp)
      have hr : c ≠ '\r' := by rintro rfl; rw [hcr] at hc; cases hc
      rw [List.cons_append, countEnds]
      · simp [hc, ih fun x hx => hline x (by simp [hx])]
      · rintro _ rfl; exact fun _ => hr rfl

/-- The end of a line counts once. -/
lemma countEnds_end (hend : IsEnd ends ending rest)
    (hhead : t.head? = some '\n' → rest.head? = some '\n') :
    countEnds ends (ending ++ t) = countEnds ends t + 1 := by
  cases hend with
  | pair => rfl
  | @single c rest h hpair =>
      rw [List.singleton_append, countEnds]
      · rw [if_pos h, Nat.add_comm]
      · rintro tail rfl rfl
        exact hpair rfl (hhead rfl)

/-- **Each line has its place**, and its index is the number of lines that end in front of it. -/
theorem Splits.exists_isLine (hcr : ends '\r' = true) (hlf : ends '\n' = true)
    (h : Splits ends t ls) : ∀ {i : Nat}, ls[i]? = some line → ∃ before after,
      t = before ++ line ++ after ∧ IsLine ends before line after ∧ countEnds ends before = i := by
  induction h with
  | nil => intro i hi; cases hi
  | @last first hline hne =>
      intro i hi
      cases i with
      | zero =>
          cases hi
          refine ⟨[], [], by simp, ⟨hline, ?_, ?_, by simpa using hne⟩, rfl⟩
          · rintro c ⟨⟩
          · rintro c ⟨⟩
      | succ i => cases hi
  | @line first ending rest others hline hend _ ih =>
      intro i hi
      cases i with
      | zero =>
          cases hi
          refine ⟨[], ending ++ rest, by simp, ⟨hline, ?_, ?_, ?_⟩, rfl⟩
          · rintro c ⟨⟩
          · intro c hc
            cases hend with
            | pair => cases hc; exact hcr
            | single h => cases hc; exact h
          · cases hend <;> simp
      | succ i =>
          obtain ⟨before, after, rfl, ⟨hunbroken, hbegins, hstops, hsome⟩, hcount⟩ := ih hi
          refine ⟨first ++ ending ++ before, after, by simp, ⟨hunbroken, ?_, hstops, hsome⟩, ?_⟩
          · intro c hc
            by_cases hbefore : before = []
            · -- the line begins right behind the end of the first one
              subst hbefore
              rw [List.append_nil] at hc
              exact hend.isEnded hlf first c hc
            · rw [List.getLast?_append_of_ne_nil _ hbefore] at hc
              exact hbegins c hc
          · rw [List.append_assoc, countEnds_line hcr hline, countEnds_end hend, hcount]
            intro hhead
            cases before with
            | nil => cases hhead
            | cons c cs => simpa using hhead

/-! ## What does not reach further -/

/-- Behind the end of a line the text falls into lines of its own. -/
lemma Splits.append {others : List Text} (h : Splits ends t ls) (hended : IsEnded ends t rest)
    (hrest : Splits ends rest others) : Splits ends (t ++ rest) (ls ++ others) := by
  induction h with
  | nil => exact hrest
  | @last line hline hne =>
      have hlast := (hended _ (List.getLast?_eq_some_getLast hne)).1
      rw [hline _ (List.getLast_mem hne)] at hlast
      cases hlast
  | @line line ending more others' hline hend _ ih =>
      rw [List.append_assoc, List.cons_append]
      by_cases hmore : more = []
      · subst hmore
        refine .line hline ?_ (ih (by rintro c ⟨⟩))
        cases hend with
        | pair => exact .pair _
        | @single c _ h hpair => exact .single h (hended c (by simp)).2
      · refine .line hline ?_ (ih fun c hc => hended c ?_)
        · cases hend with
          | pair => exact .pair _
          | single h hpair =>
              obtain ⟨d, ds, rfl⟩ := List.exists_cons_of_ne_nil hmore
              exact .single h hpair
        · rwa [List.getLast?_append_of_ne_nil _ hmore]

lemma lines_append_of_ended (h : IsEnded isBreak t rest) :
    lines (t ++ rest) = lines t ++ lines rest :=
  ((splits_lines t).append h (splits_lines rest)).eq_lines.symm

/-- A break is the end of a line, alone or with the line feed behind it. -/
lemma exists_isEnd {c : Char} (hc : ends c = true) (rest : Text) :
    ∃ ending more, c :: rest = ending ++ more ∧ IsEnd ends ending more := by
  by_cases hpair : c = '\r' ∧ rest.head? = some '\n'
  · obtain ⟨rfl, hhead⟩ := hpair
    obtain ⟨more, rfl⟩ := List.head?_eq_some_iff.1 hhead
    exact ⟨['\r', '\n'], more, rfl, .pair more⟩
  · exact ⟨[c], rest, rfl, .single hc fun hr hhead => hpair ⟨hr, hhead⟩⟩

/-- A line that has begun goes on up to the next break. -/
lemma lines_of_stops (hline : ∀ c ∈ line, isBreak c = false) (hne : line ≠ [])
    (hafter : ∀ c, after.head? = some c → isBreak c = true) :
    lines (line ++ after) = line :: (lines after).tail := by
  cases after with
  | nil => rw [List.append_nil, lines_of_no_break hline hne]; rfl
  | cons c rest =>
      obtain ⟨ending, more, hsame, hend⟩ := exists_isEnd (hafter c rfl) rest
      rw [hsame, ← List.append_assoc, lines_line hline hend, lines_of_end hend]
      rfl

/-- What is written in a comment is in its line and in no other. -/
lemma exists_lines_comment (hafter : ∀ c, after.head? = some c → isBreak c = true) (before : Text) :
    ∃ front start back, ∀ comment, (∀ c ∈ comment, isBreak c = false) →
      lines (before ++ ';' :: (comment ++ after)) =
        front ++ (start ++ ';' :: comment) :: back := by
  fun_induction lines before with
  | case1 =>
      refine ⟨[], [], (lines after).tail, fun comment hcomment => ?_⟩
      have hline : ∀ c ∈ ';' :: comment, isBreak c = false := by
        intro c hc
        rcases List.mem_cons.1 hc with rfl | hc
        · rfl
        · exact hcomment c hc
      exact lines_of_stops hline (by simp) hafter
  | case2 rest ih =>
      obtain ⟨front, start, back, h⟩ := ih
      exact ⟨[] :: front, start, back, fun comment hcomment => by simp [h comment hcomment]⟩
  | case3 c rest hpair hb ih =>
      obtain ⟨front, start, back, h⟩ := ih
      refine ⟨[] :: front, start, back, fun comment hcomment => ?_⟩
      have hend : lines ([c] ++ (rest ++ ';' :: (comment ++ after))) =
          [] :: lines (rest ++ ';' :: (comment ++ after)) := by
        refine lines_of_end (.single hb ?_)
        rintro rfl hhead
        cases rest with
        | nil => cases hhead
        | cons d ds => cases hhead; exact hpair ds rfl rfl
      rw [h comment hcomment] at hend
      exact hend
  | case4 c rest _ hb ih =>
      obtain ⟨front, start, back, h⟩ := ih
      have hc : isBreak c = false := by simpa using hb
      cases front with
      | nil =>
          refine ⟨[], c :: start, back, fun comment hcomment => ?_⟩
          rw [List.cons_append, lines_cons hc, h comment hcomment]
          rfl
      | cons first more =>
          refine ⟨(c :: first) :: more, start, back, fun comment hcomment => ?_⟩
          rw [List.cons_append, lines_cons hc, h comment hcomment]
          rfl

end Text

/-! ## Comments -/

lemma stripComment_append (start comment : Text) :
    stripComment (start ++ ';' :: comment) = stripComment start := by
  have hbefore : Text.before ';' (start ++ ';' :: comment) = Text.before ';' start := by
    induction start with
    | nil => rfl
    | cons c cs ih =>
        simp only [Text.before, List.cons_append, List.takeWhile_cons] at ih ⊢
        split_ifs
        · rw [ih]
        · rfl
  rw [stripComment, hbefore, stripComment]

namespace Machine

/-- A line does what the text in it says, whatever the comment. -/
lemma executeLine_congr {line line' : Text} (h : stripComment line = stripComment line')
    (m : Machine) : executeLine line m = executeLine line' m := by
  simp only [executeLine_apply, Instruction.decode, h]

lemma interpretFrom_congr : ∀ {ls ls' : List Text} (first : Nat) (m : Machine),
    ls.map stripComment = ls'.map stripComment → interpretFrom first ls m = interpretFrom first ls' m
  | [], [], _, _, _ => rfl
  | line :: ls, line' :: ls', first, m, h => by
      obtain ⟨hline, hrest⟩ := List.cons.inj h
      have hsame : interpretLine first line m = interpretLine first line' m := by
        simp only [interpretLine, executeLine_congr hline]
      simp only [interpretFrom, hsame, fun m => interpretFrom_congr (first + 1) m hrest]
  | [], _ :: _, _, _, h => by cases h
  | _ :: _, [], _, _, h => by cases h

end Machine

/-- **A comment goes on up to the next break**: nothing in it is carried out. -/
theorem interpret_comment {before comment after : Text} (hcomment : ∀ c ∈ comment, isBreak c = false)
    (hafter : ∀ c, after.head? = some c → isBreak c = true) (m : Machine) :
    m.interpret (Text.lines (before ++ ';' :: (comment ++ after))) =
      m.interpret (Text.lines (before ++ ';' :: after)) := by
  obtain ⟨front, start, back, h⟩ := Text.exists_lines_comment hafter before
  have hnone := h [] (by simp)
  rw [List.nil_append] at hnone
  rw [h comment hcomment, hnone, Machine.interpret, Machine.interpret]
  congr 1
  refine Machine.interpretFrom_congr 0 _ ?_
  simp [stripComment_append]

end Asm16
