import Asm16.Proofs.Run.Loop
import Asm16.Proofs.Run.Outcome

/-!
# A run of the script is plain interpretation

The script of a session runs a program in turns, and passes its turn at each suspension.  Tasks that
get theirs meanwhile can only ask for runs of their own, which are rejected.  So the run comes to
what plain interpretation of its lines comes to, and the turns that it is granted are enough.

* `Session.Awaits` — the invariant: the run follows its lines, and no task is in the middle of a
  run.
* `awaits_pass` — to pass the turn keeps it.
* `run_refines`, `run_ends` — what the run comes to, and how it ends.
-/

namespace Asm16
namespace Session

open Scheduler

variable {start : Machine} {program : Program} {attached : Hooks} {before : List View}

/-- The run of the script waits at line `j`, and no task is in the middle of a run. -/
structure Awaits (start : Machine) (program : Program) (attached : Hooks) (before : List View)
    (j : Nat) (s : Session) : Prop where
  follows : FollowsAt start program attached before j s.scheduler
  alone : s.pending = []

/-! ## Turns of tasks -/

/-- A rejected run leaves a run that waits where it is, and so does the adoption of tasks. -/
lemma follows_rejected {j : Nat} {s : Scheduler} (h : FollowsAt start program attached before j s)
    (entries : Log) :
    FollowsAt start program attached before j { s.write entries with launched := [] } := by
  obtain ⟨hfollows, hprocessed⟩ := h
  exact ⟨⟨hfollows.running, hfollows.hooks, hfollows.batchSize, hfollows.total, hfollows.done,
    hfollows.machine, hfollows.executed, hfollows.views⟩, hprocessed⟩

/-- A task whose turn comes while the run of the script waits is rejected, if it asks for anything.
-/
lemma awaits_advance {j : Nat} {s : Session} (h : Awaits start program attached before j s)
    (number : Nat) : Awaits start program attached before j (s.advance number) := by
  rw [advance]
  cases ht : s.tasks[number]? with
  | none => exact h
  | some t =>
      have hall : t.pending ++ s.others number = [] :=
        List.perm_nil.1 (h.alone ▸ pending_perm ht).symm
      obtain ⟨hown, hothers⟩ := List.append_eq_nil_iff.1 hall
      obtain ⟨source, stage, cancelled⟩ := t
      cases stage with
      | ended outcome => exact h
      | suspended program => cases hown
      | fresh =>
          cases cancelled with
          | true =>
              obtain ⟨hscheduler, htasks⟩ := s.finish_eq number (.error .cancelled)
              refine ⟨hscheduler ▸ h.follows, ?_⟩
              rw [pending, htasks]
              have hperm := pending_update ht fun t => { t with stage := .ended (.error .cancelled) }
              rw [hothers] at hperm
              exact List.perm_nil.1 hperm
          | false =>
              have hbusy : s.scheduler.isBusy = true := by
                rw [isBusy, h.follows.1.running]
                rfl
              obtain ⟨hscheduler, htasks⟩ := s.giveTurn_eq number (begin source)
              have hbegin := begin_of_busy source hbusy
              refine ⟨?_, ?_⟩
              · rw [hscheduler, Step.final_of_ok hbegin]
                exact follows_rejected h.follows _
              · rw [pending, htasks]
                have hperm := pending_update_adopt
                  (s := { s with scheduler := Step.final (begin source) s.scheduler }) ht
                  fun t => { t with stage := Stage.after (begin source s.scheduler) }
                have hothers' : ({ s with scheduler := Step.final (begin source) s.scheduler } :
                    Session).others number = [] := hothers
                rw [hothers', hbegin] at hperm
                rw [hbegin]
                exact List.perm_nil.1 hperm

lemma awaits_giveTurns {j : Nat} : ∀ (turns : List Turn) {s : Session},
    Awaits start program attached before j s →
      Awaits start program attached before j (giveTurns turns s).2
  | [], _, h => h
  | .script :: _, _, h => ⟨h.follows, h.alone⟩
  | .task number :: rest, _, h => awaits_giveTurns rest (awaits_advance h number)

/-- The script gets its turn if it is in the queue. -/
lemma giveTurns_of_script : ∀ (turns : List Turn) (s : Session), .script ∈ turns →
    (giveTurns turns s).1 = true
  | [], _, h => by cases h
  | .script :: _, _, _ => rfl
  | .task number :: rest, s, h => by
      have hrest : .script ∈ rest := by simpa using h
      exact giveTurns_of_script rest (s.advance number) hrest

/-- To pass the turn is to give the others theirs, once each. -/
lemma pass_apply (s : Session) : pass s = .ok () (s.enqueue .script).round.2 := by
  have hcame : (s.enqueue .script).round.1 = true :=
    giveTurns_of_script _ _ (List.mem_append_right _ List.mem_cons_self)
  simp only [pass, Step.bind_apply, Step.modify_apply, await, rounds]
  cases hr : (s.enqueue .script).round with
  | mk came t =>
      rw [hr] at hcame
      cases hcame
      rfl

/-- The run of the script still waits where it waited when its turn comes again. -/
lemma awaits_pass {j : Nat} {s : Session} (h : Awaits start program attached before j s) :
    Awaits start program attached before j (s.enqueue .script).round.2 :=
  awaits_giveTurns _ ⟨h.follows, h.alone⟩

/-! ## The run -/

/-- What is said of the end of a run, said of the session that it ends in. -/
def Concludes (post : Except Error RunResult → Scheduler → Prop) :
    EStateM.Result Error Session RunResult → Prop
  | .ok result s => post (.ok result) s.scheduler
  | .error e s => post (.error e) s.scheduler

/-- To adopt tasks takes nothing from the end of a run. -/
lemma refines_adopt {outcome : Except Error RunResult} {s : Session} {t : Scheduler}
    (h : Refines start program attached before outcome t) :
    Refines start program attached before outcome
      ({ s with scheduler := t } : Session).adopt.scheduler := by
  rw [scheduler_adopt]
  exact ⟨h.outcome, h.machine, h.views⟩

lemma awaits_adopt {j : Nat} {s : Session} {t : Scheduler}
    (h : FollowsAt start program attached before j t) (halone : s.pending = []) :
    Awaits start program attached before j ({ s with scheduler := t } : Session).adopt := by
  refine ⟨?_, by rw [pending_adopt]; exact halone⟩
  rw [scheduler_adopt]
  exact follows_rejected h []

/-- **The rest of a run.**  Each turn takes it further, so one turn more than lines are left is
enough. -/
theorem continueRun_follows (hr : attached.Recording) : ∀ (bound : Nat) {i : Nat} {s : Session},
    i ≤ program.size → program.size - i < bound → Awaits start program attached before i s →
      Concludes (Refines start program attached before) (continueRun bound program s)
  | 0, _, _, _, hbound, _ => absurd hbound (Nat.not_lt_zero _)
  | bound + 1, i, s, hi, hbound, h => by
      have hawaits := awaits_pass h
      have hturn := resume_follows hr hi hawaits.follows
      simp only [continueRun, Step.bind_apply, pass_apply]
      generalize (s.enqueue .script).round.2 = t at hawaits hturn
      cases hres : resume program t.scheduler with
      | error e v =>
          rw [hres] at hturn
          simp only [onScheduler_of_error hres]
          exact refines_adopt hturn
      | ok a v =>
          rw [hres] at hturn
          simp only [onScheduler_of_ok hres]
          cases a with
          | finished result => exact refines_adopt hturn
          | suspended next =>
              obtain ⟨hnext, j, hij, hj, hfollows⟩ := hturn
              rw [hnext]
              exact continueRun_follows hr bound hj (by omega) (awaits_adopt hfollows hawaits.alone)

/-- A run of the script goes to its end, and ends as plain interpretation does. -/
theorem run_follows {s : Session} (hidle : s.scheduler.isBusy = false) (halone : s.pending = [])
    (hhooks : s.scheduler.hooks.Recording) (hsize : 1 ≤ s.scheduler.batchSize) (source : Text) :
    ∃ outcome, Step.outcome (run source) s = outcome.map some ∧
      Refines s.scheduler.machine.reset (Program.load source) s.scheduler.hooks
        (s.scheduler.views ++ s.scheduler.hooks.sees [s.scheduler.machine.reset.view]) outcome
        (Step.final (run source) s).scheduler := by
  have hlines : (Program.load source).size = (Text.lines source).length := by
    simp [Program.load, Program.ofLines, Program.size]
  have hfirst := begin_follows source hhooks hsize
  have hbegin := begin_of_idle source hidle
  -- the number of turns granted is too large to be computed with
  obtain ⟨bound, hbound, henough⟩ :
      ∃ bound, patience source = bound ∧ (Text.lines source).length ≤ bound :=
    ⟨_, rfl, Nat.le_add_right _ _⟩
  rw [Step.outcome, Step.final, run, hbound, Step.bind_apply]
  cases ht : turn (firstTurn source) (s.scheduler.enter .running) with
  | error e t =>
      rw [ht] at hfirst hbegin
      rw [onScheduler_of_error hbegin]
      exact ⟨.error e, rfl, refines_adopt hfirst⟩
  | ok a t =>
      rw [ht] at hfirst hbegin
      rw [onScheduler_of_ok hbegin]
      cases a with
      | finished result => exact ⟨.ok result, rfl, refines_adopt hfirst⟩
      | suspended program =>
          obtain ⟨rfl, j, hj, hjn, hfollows⟩ := hfirst
          have hend := continueRun_follows hhooks bound hjn (by omega) (awaits_adopt hfollows halone)
          simp only [Step.bind_apply]
          cases hc : continueRun bound (Program.load source)
            ({ s with scheduler := t } : Session).adopt with
          | error e v =>
              rw [hc] at hend
              exact ⟨.error e, rfl, hend⟩
          | ok result v =>
              rw [hc] at hend
              exact ⟨.ok result, rfl, hend⟩

/-- **A run of the script refines plain interpretation**, whatever tasks ask for while it waits.  No
task may be in the middle of a run when it begins. -/
theorem run_refines {s : Session} (hidle : s.scheduler.isBusy = false) (halone : s.pending = [])
    (hhooks : s.scheduler.hooks.Recording) (hsize : 1 ≤ s.scheduler.batchSize)
    (hunwatched : s.scheduler.machine.memory.subscribed = []) (source : Text) {m : Machine}
    (hm : m.memory.subscribed = [])
    (hcells : m.memory.cells.size = s.scheduler.machine.memory.cells.size) :
    let i := m.interpret (Text.lines source)
    let t := (Step.final (run source) s).scheduler
    Step.outcome (run source) s = (i.answer (Program.load source)).map some ∧
      t.machine.view = i.machine.view ∧
      t.views = s.scheduler.views ++ s.scheduler.hooks.sees i.shown := by
  intro i t
  obtain ⟨outcome, houtcome, hrefines⟩ := run_follows hidle halone hhooks hsize source
  obtain ⟨hanswer, hview, hviews⟩ := refines_interpret hrefines hunwatched hm hcells
  exact ⟨by rw [houtcome, hanswer], hview, hviews⟩

/-- **How a run of the script ends**: in an account of its lines, unless an overlong line is
reached. -/
theorem run_ends {s : Session} (hidle : s.scheduler.isBusy = false) (halone : s.pending = [])
    (hhooks : s.scheduler.hooks.Recording) (hsize : 1 ≤ s.scheduler.batchSize)
    (hunwatched : s.scheduler.machine.memory.subscribed = []) (source : Text) :
    let lines := Text.lines source
    let start := s.scheduler.machine.reset
    let outcome := Step.outcome (run source) s
    ((∃ i line, start.Reaches lines i line ∧ IsOverlong line) → outcome = .error .longNumeral) ∧
      ((∀ i line, start.Reaches lines i line → ¬ IsOverlong line) →
        ∃ r, outcome = .ok (some r) ∧ IsAccount start lines r) := by
  intro lines start outcome
  obtain ⟨ended, houtcome, hrefines⟩ := run_follows hidle halone hhooks hsize source
  have hstart : start.memory.subscribed = [] := hunwatched
  obtain ⟨hoverlong, haccount⟩ := account_of_refines hstart hrefines
  refine ⟨fun hreached => ?_, fun hnone => ?_⟩
  · rw [hoverlong hreached] at houtcome
    exact houtcome
  · obtain ⟨r, hended, hr⟩ := haccount hnone
    rw [hended] at houtcome
    exact ⟨r, houtcome, hr⟩

end Session
end Asm16
