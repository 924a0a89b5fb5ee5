import Asm16.Proofs.Run.Failure

/-!
# Lines that hold no instruction

Blank lines, comments and labels may be put into a program anywhere, and nothing about its run
changes but the numbers of its lines.

* `Padded` — a line of the longer program: one that was there before, or one that holds no
  instruction and carries the proof of that.
* `Ending.Moved` — how the two interpretations end: alike, except for the index of a failed line.
* `Machine.interpretFrom_padded` — the two interpretations, line by line.
* `Machine.interpretFrom_lines` — lines written one below the other are carried out as they are, even
  if the last one is empty and so is not a line of the text.
* `padding_changes_nothing` — the result for runs.

Batches begin and end elsewhere in the longer program.  They need no word here, since neither run
depends on them.
-/

namespace Asm16

/-- A line of a program to which lines were added. -/
inductive Padded
  | kept (line : Text)
  /-- A blank line, a comment or a label. -/
  | added (line : Text) (h : holdsInstruction line = false)

namespace Padded

def line : Padded → Text
  | kept line | added line _ => line

def isAdded : Padded → Bool
  | kept _ => false
  | added _ _ => true

/-- The line, if it was there before. -/
def kept? : Padded → Option Text
  | kept line => some line
  | added _ _ => none

/-- The program without the lines that were added. -/
def before (ls : List Padded) : List Text := ls.filterMap kept?

/-- The program with them. -/
def after (ls : List Padded) : List Text := ls.map line

end Padded

/-- Two interpretations end alike, the one of the lines that were there before and the one of all
lines; the line that fails is the same.  Indexes count from `i` in the one and from `j` in the other,
and they differ by the number of lines added in front. -/
inductive Ending.Moved (ls : List Padded) (i j : Nat) : Ending → Ending → Prop
  | done : Moved ls i j .done .done
  | escaped (error : Error) : Moved ls i j (.escaped error) (.escaped error)
  | failed {k : Nat} {line : Text} (fault : Fault) (hk : ls[k]? = some (.kept line)) :
      Moved ls i j (.failed (i + (Padded.before (ls.take k)).length) fault) (.failed (j + k) fault)

/-- Two interpretations come to the same, the one of the lines that were there before and the one of
all lines. -/
structure Interpretation.Moved (ls : List Padded) (i j : Nat) (plain padded : Interpretation) :
    Prop where
  machine : padded.machine = plain.machine
  executed : padded.executed = plain.executed
  shown : padded.shown = plain.shown
  ending : plain.ending.Moved ls i j padded.ending

/-- A line added in front moves the lines behind it. -/
lemma Ending.Moved.added {ls : List Padded} {i j : Nat} {e e' : Ending} {line : Text}
    (hline : holdsInstruction line = false) (h : e.Moved ls i (j + 1) e') :
    e.Moved (.added line hline :: ls) i j e' := by
  cases h with
  | done => exact .done
  | escaped error => exact .escaped error
  | @failed k line' fault hk =>
      have hkept : (.added line hline :: ls)[k + 1]? = some (.kept line') := hk
      have hmoved := Moved.failed (i := i) (j := j) fault hkept
      have hindex : j + 1 + k = j + (k + 1) := by omega
      rw [hindex]
      exact hmoved

/-- A line that was there in front counts in both programs. -/
lemma Ending.Moved.kept {ls : List Padded} {i j : Nat} {e e' : Ending} (line : Text)
    (h : e.Moved ls (i + 1) (j + 1) e') : e.Moved (.kept line :: ls) i j e' := by
  cases h with
  | done => exact .done
  | escaped error => exact .escaped error
  | @failed k line' fault hk =>
      have hkept : (.kept line :: ls)[k + 1]? = some (.kept line') := hk
      have hmoved := Moved.failed (i := i) (j := j) fault hkept
      have hbefore : (Padded.before ((.kept line :: ls).take (k + 1))).length =
          (Padded.before (ls.take k)).length + 1 := rfl
      have hindex : j + 1 + k = j + (k + 1) := by omega
      have hindex' : i + 1 + (Padded.before (ls.take k)).length =
          i + ((Padded.before (ls.take k)).length + 1) := by omega
      rw [hbefore] at hmoved
      rw [hindex, hindex']
      exact hmoved

lemma Ending.Moved.done_iff {ls : List Padded} {i j : Nat} {e e' : Ending} (h : e.Moved ls i j e') :
    e = .done ↔ e' = .done := by
  cases h <;> simp

namespace Machine

/-! ## Line by line -/

/-- No notice of a watcher waits to be handed out. -/
def IsSettled (m : Machine) : Prop := m.memory.journal = []

variable {m : Machine}

lemma IsSettled.settled_eq (h : m.IsSettled) : m.settled = m := by
  obtain ⟨registers, flags, cells, known, subscribed, journal⟩ := m
  cases h
  rfl

lemma isSettled_interpretLine (index : Nat) (line : Text) (m : Machine) :
    (interpretLine index line m).machine.IsSettled := by
  rw [interpretLine]
  cases executeLine line m with
  | ok i? m' => cases i? <;> rfl
  | error e m' => cases e <;> rfl

/-- A line that holds no instruction does nothing. -/
lemma interpretLine_of_none (hm : m.IsSettled) (index : Nat) {line : Text}
    (h : holdsInstruction line = false) : interpretLine index line m = { machine := m } := by
  have hnone : (stripComment line).isEmpty || isLabel (stripComment line) := by
    revert h
    rw [holdsInstruction]
    cases (stripComment line).isEmpty <;> simp
  have hdecode : Instruction.decode line = .ok none := by
    rw [Instruction.decode, if_pos hnone]
  rw [interpretLine, executeLine_apply, hdecode]
  simp only [hm.settled_eq]

/-- A line does the same wherever it stands. -/
lemma moved_interpretLine (i j : Nat) (line : Text) (ls : List Padded) (m : Machine) :
    (interpretLine i line m).Moved (.kept line :: ls) i j (interpretLine j line m) := by
  rw [interpretLine, interpretLine]
  cases executeLine line m with
  | ok i? m' => cases i? <;> exact ⟨rfl, rfl, rfl, .done⟩
  | error e m' =>
      cases e with
      | fault fault =>
          exact ⟨rfl, rfl, rfl, .failed (k := 0) fault rfl⟩
      | _ => exact ⟨rfl, rfl, rfl, .escaped _⟩

/-- **Added lines that hold no instruction** change nothing but the indexes of lines. -/
theorem interpretFrom_padded : ∀ (ls : List Padded) (i j : Nat) {m : Machine}, m.IsSettled →
    (interpretFrom i (Padded.before ls) m).Moved ls i j (interpretFrom j (Padded.after ls) m)
  | [], _, _, _, _ => ⟨rfl, rfl, rfl, .done⟩
  | .added line hline :: ls, i, j, m, hm => by
      have hrest := interpretFrom_padded ls i (j + 1) hm
      have hskip : interpretFrom j (Padded.after (.added line hline :: ls)) m =
          interpretFrom (j + 1) (Padded.after ls) m := by
        show interpretFrom j (line :: Padded.after ls) m = _
        rw [interpretFrom, interpretLine_of_none hm j hline]
        exact Interpretation.nil_followedBy _ _
      rw [hskip]
      exact ⟨hrest.machine, hrest.executed, hrest.shown, hrest.ending.added hline⟩
  | .kept line :: ls, i, j, m, hm => by
      have hfirst := moved_interpretLine i j line ls m
      show (interpretFrom i (line :: Padded.before ls) m).Moved _ i j
        (interpretFrom j (line :: Padded.after ls) m)
      have hdone := hfirst.ending.done_iff
      simp only [interpretFrom]
      by_cases h : (interpretLine i line m).ending = .done
      · have hrest := interpretFrom_padded ls (i + 1) (j + 1) (isSettled_interpretLine i line m)
        rw [if_pos h, if_pos (hdone.1 h), hfirst.machine]
        exact ⟨hrest.machine, congrArg₂ (· + ·) hfirst.executed hrest.executed,
          congrArg₂ (· ++ ·) hfirst.shown hrest.shown, hrest.ending.kept line⟩
      · rw [if_neg h, if_neg fun h' => h (hdone.2 h')]
        exact hfirst

/-- **Lines written one below the other** are carried out as they are.  An empty last line is no line
of the text, but it does nothing either. -/
theorem interpretFrom_lines : ∀ {ls : List Text}, (∀ line ∈ ls, ∀ c ∈ line, isBreak c = false) →
    ∀ (i : Nat) {m : Machine}, m.IsSettled →
      interpretFrom i (Text.lines (Text.joinWith ['\n'] ls)) m = interpretFrom i ls m
  | [], _, _, _, _ => rfl
  | [line], hbreaks, i, m, hm => by
      rw [Text.joinWith_singleton]
      by_cases hempty : line = []
      · subst hempty
        rw [Text.lines_nil, interpretFrom_singleton, interpretLine_of_none hm i rfl]
        rfl
      · rw [Text.lines_of_no_break (hbreaks line (by simp)) hempty]
  | line :: next :: rest, hbreaks, i, m, _ => by
      have hnext : ∀ other ∈ next :: rest, ∀ c ∈ other, isBreak c = false := fun other hother =>
        hbreaks other (List.mem_cons_of_mem line hother)
      have hrest := interpretFrom_lines hnext (i + 1) (isSettled_interpretLine i line m)
      rw [Text.joinWith_cons _ _ (by simp), List.append_assoc, List.singleton_append,
        Text.lines_append (hbreaks line (by simp)), interpretFrom, interpretFrom, hrest]

end Machine

/-! ## Accounts of runs -/

/-- The accounts of two runs, or the errors they ended in: alike, but for the number of the line that
failed.  It is the same line, and its number has grown by that of the lines added in front. -/
def SameAccount (ls : List Padded) : Except Error RunResult → Except Error RunResult → Prop
  | .ok r, .ok r' => r'.status = r.status ∧ r'.executed = r.executed ∧
      (r.failure = none ∧ r'.failure = none ∨ ∃ (k : Nat) (line : Text) (fault : Fault) (f f' : Int),
        r.failure = some ⟨f, fault⟩ ∧ r'.failure = some ⟨f', fault⟩ ∧
          ls[k]? = some (.kept line) ∧ f' = k + 1 ∧ f' = f + (ls.take k).countP (·.isAdded))
  | .error e, .error e' => e' = e
  | _, _ => False

/-- What is done to the errors of two runs alike leaves their accounts alike. -/
lemma SameAccount.mapError {ls : List Padded} {outcome outcome' : Except Error RunResult}
    (h : SameAccount ls outcome outcome') (f : Error → Error) :
    SameAccount ls (outcome.mapError f) (outcome'.mapError f) := by
  cases outcome with
  | ok r =>
      cases outcome' with
      | ok r' => exact h
      | error e' => exact absurd h id
  | error e =>
      cases outcome' with
      | ok r' => exact absurd h id
      | error e' => exact congrArg f h

lemma Padded.length_before (ls : List Padded) :
    (before ls).length + ls.countP (·.isAdded) = ls.length := by
  induction ls with
  | nil => rfl
  | cons first rest ih =>
      cases first with
      | kept line =>
          have hbefore : (before (.kept line :: rest)).length = (before rest).length + 1 := rfl
          rw [hbefore, List.countP_cons_of_neg (by simp [isAdded]), List.length_cons]
          omega
      | added line hline =>
          have hbefore : (before (.added line hline :: rest)).length = (before rest).length := rfl
          rw [hbefore, List.countP_cons_of_pos (by simp [isAdded]), List.length_cons]
          omega

/-- Interpretations that come to the same have the same account. -/
lemma Interpretation.Moved.sameAccount {ls : List Padded} {plain padded : Interpretation}
    (h : plain.Moved ls 0 0 padded) (program program' : Program) :
    SameAccount ls (plain.answer program) (padded.answer program') := by
  obtain ⟨machine, executed, shown, ending⟩ := plain
  obtain ⟨machine', executed', shown', ending'⟩ := padded
  obtain ⟨-, hexecuted, -, hending⟩ := h
  cases hending with
  | done => exact ⟨rfl, hexecuted, .inl ⟨rfl, rfl⟩⟩
  | escaped error => exact (rfl : error = error)
  | @failed k line fault hk =>
      refine ⟨rfl, hexecuted, .inr ⟨k, line, fault, _, _, rfl, rfl, hk, ?_, ?_⟩⟩
      · rw [Nat.zero_add]
      · have hlength := Padded.length_before (ls.take k)
        obtain ⟨hlt, -⟩ := List.getElem?_eq_some_iff.1 hk
        rw [List.length_take_of_le (Nat.le_of_lt hlt)] at hlength
        omega

namespace Scheduler

/-- **Lines that hold no instruction change nothing.**  Two schedulers at rest, with machines that are
the same after a reset and hooks that only record, run a program and the same program with blank
lines, comments and labels added anywhere, in batches of any size.  The runs end alike, with the same
count of instructions, the same snapshots and the same registers, flags and memory.  If one fails so
does the other, with the same fault in the same line, whose number has grown by that of the lines
added in front of it. -/
theorem padding_changes_nothing {s s' : Scheduler} (hidle : s.isBusy = false)
    (hidle' : s'.isBusy = false) (hhooks : s.hooks.Recording) (hhooks' : s'.hooks.Recording)
    (hsize : 1 ≤ s.batchSize) (hsize' : 1 ≤ s'.batchSize)
    (hmachine : s'.machine.reset = s.machine.reset) (hsettled : s.machine.IsSettled)
    {ls : List Padded} (hbreaks : ∀ l ∈ ls, ∀ c ∈ l.line, isBreak c = false)
    {others others' : List (List Demand)}
    (hothers : ∀ demands ∈ others, ∀ demand ∈ demands, demand.IsHarmless)
    (hothers' : ∀ demands ∈ others', ∀ demand ∈ demands, demand.IsHarmless)
    (hlength : (Text.lines (Text.joinWith ['\n'] (Padded.before ls))).length ≤ others.length)
    (hlength' : (Text.lines (Text.joinWith ['\n'] (Padded.after ls))).length ≤ others'.length) :
    let plain := Text.joinWith ['\n'] (Padded.before ls)
    let padded := Text.joinWith ['\n'] (Padded.after ls)
    ∃ outcome outcome' t t' shown,
      t = Step.final (runAmid plain others) s ∧ t' = Step.final (runAmid padded others') s' ∧
      Step.outcome (runAmid plain others) s = outcome.map (fun r => some (.finished r)) ∧
      Step.outcome (runAmid padded others') s' = outcome'.map (fun r => some (.finished r)) ∧
      SameAccount ls outcome outcome' ∧ t'.machine.view = t.machine.view ∧
      t.views = s.views ++ s.hooks.sees shown ∧ t'.views = s'.views ++ s'.hooks.sees shown := by
  intro plain padded
  obtain ⟨outcome, hrefines, houtcome⟩ :=
    outcome_of_ends (runAmid_refines hidle hhooks hsize plain hothers hlength)
  obtain ⟨outcome', hrefines', houtcome'⟩ :=
    outcome_of_ends (runAmid_refines hidle' hhooks' hsize' padded hothers' hlength')
  have hbefore : ∀ line ∈ Padded.before ls, ∀ c ∈ line, isBreak c = false := by
    intro line hline
    obtain ⟨l, hl, hkept⟩ := List.mem_filterMap.1 hline
    cases l with
    | kept line' => cases hkept; exact hbreaks _ hl
    | added => cases hkept
  have hafter : ∀ line ∈ Padded.after ls, ∀ c ∈ line, isBreak c = false := by
    intro line hline
    obtain ⟨l, hl, rfl⟩ := List.mem_map.1 hline
    exact hbreaks l hl
  have hstart : s.machine.reset.IsSettled := hsettled
  have hplain : s.machine.reset.interpretFrom 0 (Program.load plain).lines.toList =
      s.machine.reset.interpretFrom 0 (Padded.before ls) := Machine.interpretFrom_lines hbefore 0 hstart
  have hpadded : s'.machine.reset.interpretFrom 0 (Program.load padded).lines.toList =
      s.machine.reset.interpretFrom 0 (Padded.after ls) := by
    rw [hmachine]
    exact Machine.interpretFrom_lines hafter 0 hstart
  have hmoved := Machine.interpretFrom_padded ls 0 0 hstart
  have hshown := hrefines.views
  have hshown' := hrefines'.views
  rw [hplain, List.append_assoc, ← Hooks.sees_append] at hshown
  rw [hpadded, hmoved.shown, List.append_assoc, ← Hooks.sees_append, hmachine] at hshown'
  refine ⟨outcome, outcome', _, _, _, rfl, rfl, houtcome, houtcome', ?_, ?_, hshown, hshown'⟩
  · rw [hrefines.outcome, hrefines'.outcome, hplain, hpadded]
    exact (hmoved.sameAccount _ _).mapError Error.outOfRun
  · rw [hrefines.machine, hrefines'.machine, hplain, hpadded, hmoved.machine]

/-- Two lines, the second of which fails, among a blank line and a label. -/
def twoLinesPadded : List Padded :=
  [.added [] rfl, .kept ['m', 'u', 'l', ' ', 'a', 'x'], .added ['l', ':'] (by decide),
   .kept ['p', 'o', 'p', ' ', 'z']]

/-- The second line fails as the fourth. -/
theorem second_line_fails_as_fourth :
    let s : Scheduler := { machine := .initial 16, batchSize := 1 }
    let s' : Scheduler := { machine := .initial 16, batchSize := 3 }
    ∃ r r' t t' fault,
      runAmid (Text.joinWith ['\n'] (Padded.before twoLinesPadded)) [[], []] s =
        .ok (some (.finished r)) t ∧
      runAmid (Text.joinWith ['\n'] (Padded.after twoLinesPadded)) [[], [], [], []] s' =
        .ok (some (.finished r')) t' ∧
      SameAccount twoLinesPadded (.ok r) (.ok r') ∧
      r.failure = some ⟨2, fault⟩ ∧ r'.failure = some ⟨4, fault⟩ := by
  intro s s'
  have hplain : (ended? (runAmid (Text.joinWith ['\n'] (Padded.before twoLinesPadded)) [[], []] s)).map
      (fun last => last.1.failure) = some (some ⟨2, ⟨.unknownRegister, some ['z']⟩⟩) := by
    decide +kernel
  have hpadded : (ended? (runAmid (Text.joinWith ['\n'] (Padded.after twoLinesPadded))
      [[], [], [], []] s')).map (fun last => last.1.failure) =
        some (some ⟨4, ⟨.unknownRegister, some ['z']⟩⟩) := by decide +kernel
  obtain ⟨r, t, hrun, hr⟩ := exists_of_ended? hplain
  obtain ⟨r', t', hrun', hr'⟩ := exists_of_ended? hpadded
  have hidle : s.isBusy = false := rfl
  have hidle' : s'.isBusy = false := rfl
  have hbreaks : ∀ l ∈ twoLinesPadded, ∀ c ∈ l.line, isBreak c = false := by
    simp [twoLinesPadded, Padded.line, isBreak]
  have hothers : ∀ demands ∈ [([] : List Demand), []], ∀ demand ∈ demands, demand.IsHarmless := by
    simp
  have hothers' : ∀ demands ∈ [([] : List Demand), [], [], []],
      ∀ demand ∈ demands, demand.IsHarmless := by simp
  obtain ⟨outcome, outcome', -, -, -, -, -, houtcome, houtcome', hsame, -⟩ :=
    padding_changes_nothing hidle hidle' (Hooks.only_none HookAction.IsRecording)
      (Hooks.only_none HookAction.IsRecording) (by decide) (by decide) rfl rfl hbreaks hothers hothers'
      (by decide +kernel) (by decide +kernel)
  have hok : outcome = .ok r := by
    rw [Step.outcome, hrun] at houtcome
    cases outcome <;> cases houtcome
    rfl
  have hok' : outcome' = .ok r' := by
    rw [Step.outcome, hrun'] at houtcome'
    cases outcome' <;> cases houtcome'
    rfl
  rw [hok, hok'] at hsame
  exact ⟨r, r', t, t', _, hrun, hrun', hsame, hr, hr'⟩

end Scheduler
end Asm16
