import Asm16.Proofs.Machine.Overlong
import Asm16.Proofs.Run.Refinement

/-!
# How a run can end

A run that nobody stops ends with an account of itself, completed or failed, unless a line is
reached that needs a decimal numeral beyond the limit.  Then the error goes through the run.

* `Machine.Reaches` — plain interpretation gets as far as a line.
* `Machine.ending_of_overlong`, `Machine.ending_of_no_overlong` — how interpretation ends.
* `account_of_refines`, `run_ends_in_account` — how a run ends, with the exact condition.
-/

namespace Asm16

namespace Machine

variable {m : Machine} {lines : List Text}

/-- The line at an index is reached: those before it are carried out. -/
def Reaches (m : Machine) (lines : List Text) (i : Nat) (line : Text) : Prop :=
  lines[i]? = some line ∧ (m.upTo lines i).ending = .done

/-- Nobody watches a machine only because lines were carried out on it. -/
lemma unwatched_upTo (h : m.memory.subscribed = []) (lines : List Text) (i : Nat) :
    (m.upTo lines i).machine.memory.subscribed = [] :=
  ((Twins.refl h).interpretFrom (lines.take i) 0).machine.unwatched

/-- **An overlong line that is reached** ends the interpretation with the error about it. -/
theorem ending_of_overlong (h : m.memory.subscribed = []) {i : Nat} {line : Text}
    (hreach : m.Reaches lines i line) (hover : IsOverlong line) :
    (m.interpretFrom 0 lines).ending = .escaped .longNumeral := by
  have hforetold := foretold_executeLine (unwatched_upTo h lines i) line
  have hline : ((m.upTo lines i).machine.interpretLine i line).ending = .escaped .longNumeral := by
    rw [interpretLine]
    rw [hover] at hforetold
    generalize executeLine line (m.upTo lines i).machine = r at hforetold
    cases hforetold with
    | ok hc => cases hc
    | bound hc => cases hc; rfl
    | fault hc => cases hc
  have hstop : ((m.upTo lines i).machine.interpretLine i line).ending ≠ .done := by
    rw [hline]
    exact Ending.noConfusion
  rw [interpretFrom_of_stopped hreach.1 hreach.2 hstop]
  exact hline

/-- **Without an overlong line** the interpretation comes to its end, or a line fails. -/
theorem ending_of_no_overlong (h : m.memory.subscribed = [])
    (hnone : ∀ i line, m.Reaches lines i line → ¬ IsOverlong line) :
    (m.interpretFrom 0 lines).ending = .done ∨
      ∃ i line fault m', m.Reaches lines i line ∧
        executeLine line (m.upTo lines i).machine = .error (.fault fault) m' ∧
        (m.interpretFrom 0 lines).ending = .failed i fault := by
  by_cases hdone : (m.interpretFrom 0 lines).ending = .done
  · exact .inl hdone
  · obtain ⟨i, line, hline, hbefore, hstop⟩ := exists_of_stopped lines 0 m hdone
    have hreach : m.Reaches lines i line := ⟨hline, hbefore⟩
    rw [Nat.zero_add] at hstop
    cases hr : executeLine line (m.upTo lines i).machine with
    | ok i? m' =>
        refine absurd ?_ hdone
        rw [← hstop]
        show ((m.upTo lines i).machine.interpretLine i line).ending = .done
        rw [interpretLine, hr]
        cases i? <;> rfl
    | error e m' =>
        rcases error_of_executeLine (unwatched_upTo h lines i) hr with hfault | ⟨-, hover⟩
        · cases e with
          | fault fault =>
              refine .inr ⟨i, line, fault, m', hreach, hr, ?_⟩
              rw [← hstop]
              show ((m.upTo lines i).machine.interpretLine i line).ending = .failed i fault
              rw [interpretLine, hr]
          | _ => exact absurd hfault id
        · exact absurd hover (hnone i line hreach)

end Machine

namespace Scheduler

/-- The result says of the lines what is true of them: all were carried out, or one was reached that
failed, with that number and fault. -/
def IsAccount (start : Machine) (lines : List Text) (r : RunResult) : Prop :=
  r.status = .completed ∧ r.failure = none ∨
    ∃ i line fault m', start.Reaches lines i line ∧
      Machine.executeLine line (start.upTo lines i).machine = .error (.fault fault) m' ∧
      r.status = .failed ∧ r.failure = some ⟨i + 1, fault⟩

/-- **How a run that is plain interpretation ends**: in the error about an overlong line if such a
line is reached, and else in an account, completed or failed at a line that is reached. -/
theorem account_of_refines {start : Machine} {source : Text} {attached : Hooks} {before : List View}
    {outcome : Except Error RunResult} {t : Scheduler} (hunwatched : start.memory.subscribed = [])
    (h : Refines start (Program.load source) attached before outcome t) :
    ((∃ i line, start.Reaches (Text.lines source) i line ∧ IsOverlong line) →
        outcome = .error .longNumeral) ∧
      ((∀ i line, start.Reaches (Text.lines source) i line → ¬ IsOverlong line) →
        ∃ r, outcome = .ok r ∧ IsAccount start (Text.lines source) r) := by
  have houtcome : outcome =
      (start.interpretFrom 0 (Text.lines source)).answer (Program.load source) :=
    h.outcome.trans (answer_outOfRun hunwatched _ _)
  refine ⟨?_, ?_⟩
  · rintro ⟨i, line, hreach, hover⟩
    rw [houtcome, Interpretation.answer, Machine.ending_of_overlong hunwatched hreach hover]
  · intro hnone
    rcases Machine.ending_of_no_overlong hunwatched hnone with
      hending | ⟨i, line, fault, m', hreach, hline, hending⟩
    · rw [Interpretation.answer, hending] at houtcome
      exact ⟨_, houtcome, .inl ⟨rfl, rfl⟩⟩
    · rw [Interpretation.answer, hending] at houtcome
      exact ⟨_, houtcome, .inr ⟨i, line, fault, m', hreach, hline, rfl, rfl⟩⟩

/-- **A run that reaches an overlong line** ends in the error about it. -/
theorem outcome_of_overlong {s : Scheduler} (hidle : s.isBusy = false) (hhooks : s.hooks.Recording)
    (hsize : 1 ≤ s.batchSize) (hunwatched : s.machine.memory.subscribed = []) {source : Text}
    {others : List (List Demand)}
    (hothers : ∀ demands ∈ others, ∀ demand ∈ demands, demand.IsHarmless)
    (hlength : (Text.lines source).length ≤ others.length) {i : Nat} {line : Text}
    (hreach : s.machine.reset.Reaches (Text.lines source) i line) (hover : IsOverlong line) :
    Step.outcome (runAmid source others) s = .error .longNumeral := by
  obtain ⟨ended, hrefines, houtcome⟩ :=
    outcome_of_ends (runAmid_refines hidle hhooks hsize source hothers hlength)
  have hstart : s.machine.reset.memory.subscribed = [] := hunwatched
  have hended := (account_of_refines hstart hrefines).1 ⟨i, line, hreach, hover⟩
  rw [houtcome, hended]
  rfl

/-- **How a run ends when nobody stops it**, without hooks and watchers.  A line can only end in a
fault, or in the error about a numeral that is too long, and in the latter just if it is overlong.
If such a line is reached, the run ends in that error.  If none is, the run gives an account of
itself: it is completed, or it failed at a line that was reached, with that line's number and fault.
-/
theorem run_ends_in_account {s : Scheduler} (hidle : s.isBusy = false) (hhooks : s.hooks = .none)
    (hsize : 1 ≤ s.batchSize) (hunwatched : s.machine.memory.subscribed = []) (source : Text)
    (others : List (List Demand))
    (hothers : ∀ demands ∈ others, ∀ demand ∈ demands, demand.IsHarmless)
    (hlength : (Text.lines source).length ≤ others.length) :
    let lines := Text.lines source
    let start := s.machine.reset
    let outcome := Step.outcome (runAmid source others) s
    (∀ (m : Machine) line e m', m.memory.subscribed = [] →
        Machine.executeLine line m = .error e m' → e.IsFault ∨ e = .longNumeral ∧ IsOverlong line) ∧
      ((∃ i line, start.Reaches lines i line ∧ IsOverlong line) → outcome = .error .longNumeral) ∧
      ((∀ i line, start.Reaches lines i line → ¬ IsOverlong line) →
        ∃ r : RunResult, outcome = .ok (some (.finished r)) ∧
          (r.status = .completed ∧ r.failure = none ∨
            ∃ i line fault m', start.Reaches lines i line ∧
              Machine.executeLine line (start.upTo lines i).machine = .error (.fault fault) m' ∧
              r.status = .failed ∧ r.failure = some ⟨i + 1, fault⟩)) := by
  intro lines start outcome
  have hrecording : s.hooks.Recording := hhooks ▸ Hooks.only_none _
  obtain ⟨ended, hrefines, houtcome⟩ :=
    outcome_of_ends (runAmid_refines hidle hrecording hsize source hothers hlength)
  have hstart : start.memory.subscribed = [] := hunwatched
  obtain ⟨hoverlong, haccount⟩ := account_of_refines hstart hrefines
  refine ⟨?_, ?_, ?_⟩
  · intro m line e m' hm he
    exact error_of_executeLine hm he
  · intro hreached
    have hended := hoverlong hreached
    rw [hended] at houtcome
    exact houtcome
  · intro hnone
    obtain ⟨r, hended, hr⟩ := haccount hnone
    rw [hended] at houtcome
    exact ⟨r, houtcome, hr⟩

/-- A program with a second line that fails gives an account of that. -/
theorem run_of_two_lines_ends_in_account :
    ∃ r : RunResult,
      Step.outcome (runAmid ['m', 'u', 'l', ' ', 'a', 'x', '\n', 'p', 'o', 'p', ' ', 'z'] [[], []])
        { machine := .initial 16, batchSize := 1 } = .ok (some (.finished r)) := by
  have hnone : ∀ line ∈ Text.lines ['m', 'u', 'l', ' ', 'a', 'x', '\n', 'p', 'o', 'p', ' ', 'z'],
      ¬ checkLine line = .error .longNumeral := by decide +kernel
  obtain ⟨r, hr, -⟩ := (run_ends_in_account (s := { machine := .initial 16, batchSize := 1 }) rfl rfl
    (by decide) rfl ['m', 'u', 'l', ' ', 'a', 'x', '\n', 'p', 'o', 'p', ' ', 'z'] [[], []]
    (by simp) (by decide +kernel)).2.2
    fun i line hreach => hnone line (List.mem_of_getElem? hreach.1)
  exact ⟨r, hr⟩

/-- A program of one line that pushes a numeral of too many digits ends in the error about it. -/
lemma outcome_push {digits : Text} (h : ∀ c ∈ digits, c ∈ decimalDigits)
    (hlong : decimalLimit < digits.length) {s : Scheduler} (hidle : s.isBusy = false)
    (hhooks : s.hooks.Recording) (hsize : 1 ≤ s.batchSize)
    (hunwatched : s.machine.memory.subscribed = []) :
    Step.outcome (runAmid (['p', 'u', 's', 'h', ' '] ++ digits) [[]]) s = .error .longNumeral := by
  have hne : digits ≠ [] := by
    rintro rfl
    exact absurd hlong (Nat.not_lt_zero _)
  have hbreak : ∀ c ∈ ['p', 'u', 's', 'h', ' '] ++ digits, isBreak c = false := by
    intro c hc
    rcases List.mem_append.1 hc with hc | hc
    · have hall : ['p', 'u', 's', 'h', ' '].all (fun c => !isBreak c) = true := by decide
      simpa using List.all_eq_true.1 hall c hc
    · simpa using of_decimalDigits (p := fun c => !isBreak c) (by decide) (h c hc)
  have hlines := Text.lines_of_no_break hbreak (List.cons_ne_nil _ _)
  have hover := (isOverlong_push h hne).2 hlong
  exact outcome_of_overlong hidle hhooks hsize hunwatched (by simp)
    (by rw [hlines]; exact Nat.le_refl 1) (i := 0) ⟨by rw [hlines]; rfl, rfl⟩ hover

/-- One digit too many is enough, on a scheduler that has never run anything. -/
theorem overlong_numeral_escapes :
    Step.outcome (runAmid (['p', 'u', 's', 'h', ' '] ++ List.replicate (decimalLimit + 1) '1') [[]])
      { machine := .initial defaultSize, batchSize := defaultBatchSize } = .error .longNumeral := by
  refine outcome_push (fun c hc => ?_) ?_ rfl (Hooks.only_none HookAction.IsRecording) (by decide) rfl
  · rw [List.eq_of_mem_replicate hc]
    decide
  · rw [List.length_replicate]
    exact Nat.lt_succ_self _

end Scheduler
end Asm16
