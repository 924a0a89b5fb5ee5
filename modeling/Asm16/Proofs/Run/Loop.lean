import Asm16.Run.Session
import Asm16.Proofs.Run.Shared
import Mathlib.Data.List.Perm.Basic

/-!
# The loop is one of the schedules

A session gives turns to tasks and to its script in the order of a queue.  Whatever the script asks
for, the scheduler of a session goes through one of the lists of happenings that a shared scheduler
can go through, and so all that is known of these is known of sessions.

* `Stage.pending`, `Session.pending`, `Shared.pending` — the runs that wait, each with its source.
* `Session.Plays` — a session and a shared scheduler in step with each other.  Runs of the script
  wait in no task, and are listed apart.
* `Session.Leads` — what is done in a session is done in happenings.
* `Session.play`, `plays_play` — a script, command by command, and that it is a schedule.
* `Session.alone_of_play` — of all tasks at most one waits, at the end of a batch.
-/

namespace Asm16

/-! ## Runs that wait -/

/-- The run that waits in a stage, with its source. -/
def Stage.pending (source : Text) : Stage → List (Text × Program)
  | .suspended program => [(source, program)]
  | _ => []

/-- The stage in which a turn leaves its task. -/
def Stage.after : EStateM.Result Error Scheduler (Option Advance) → Stage
  | .ok none _ => .ended (.ok none)
  | .ok (some (.finished result)) _ => .ended (.ok (some result))
  | .ok (some (.suspended program)) _ => .suspended program
  | .error e _ => .ended (.error e)

def Task.pending (t : Task) : List (Text × Program) := t.stage.pending t.source

def Session.pending (s : Session) : List (Text × Program) := s.tasks.flatMap Task.pending

/-- A run that was accepted, as the loop knows it. -/
def Accepted.pending (r : Accepted) : Text × Program := (r.source, r.program)

def Shared.pending (w : Shared) : List (Text × Program) := w.waiting.map Accepted.pending

namespace Shared

open Scheduler

variable {w : Shared} {source : Text} {program : Program} {rest : List (Text × Program)}

/-- Wherever a run waits in the loop, it has a place among the runs that wait. -/
lemma exists_place (h : w.pending.Perm ((source, program) :: rest)) :
    ∃ place r, w.waiting[place]? = some r ∧ r.pending = (source, program) ∧
      ((w.waiting.eraseIdx place).map Accepted.pending).Perm rest ∧
      ∀ r', ((w.waiting.set place r').map Accepted.pending).Perm (r'.pending :: rest) := by
  have hmem : (source, program) ∈ w.pending := h.mem_iff.2 List.mem_cons_self
  obtain ⟨r, hr, hpending⟩ := List.mem_map.1 hmem
  obtain ⟨place, hplace, hget⟩ := List.mem_iff_getElem.1 hr
  have herase : ((w.waiting.eraseIdx place).map Accepted.pending).Perm rest := by
    have hcons := ((List.getElem_cons_eraseIdx_perm hplace).map Accepted.pending).trans h
    rw [hget, List.map_cons, hpending] at hcons
    exact hcons.cons_inv
  refine ⟨place, r, List.getElem?_eq_some_iff.2 ⟨hplace, hget⟩, hpending, herase, fun r' => ?_⟩
  exact ((List.set_perm_cons_eraseIdx hplace r').map Accepted.pending).trans (herase.cons _)

lemma happen_run (w : Shared) (source : Text) :
    (w.happen (.run source)).scheduler = Step.final (begin source) w.scheduler ∧
      (w.happen (.run source)).pending.Perm
        ((Stage.after (begin source w.scheduler)).pending source ++ w.pending) := by
  rw [Step.final]
  simp only [happen]
  cases begin source w.scheduler with
  | error e t => exact ⟨rfl, .refl _⟩
  | ok a? t =>
      cases a? with
      | none => exact ⟨rfl, .refl _⟩
      | some a =>
          cases a with
          | finished result => exact ⟨rfl, .refl _⟩
          | suspended program =>
              refine ⟨rfl, ?_⟩
              rw [Shared.pending, List.map_append]
              exact List.perm_append_comm

lemma exists_turn (h : w.pending.Perm ((source, program) :: rest)) :
    ∃ place, (w.happen (.turn place)).scheduler = Step.final (some <$> resume program) w.scheduler ∧
      (w.happen (.turn place)).pending.Perm
        ((Stage.after
          ((some <$> resume program : Step Scheduler (Option Advance)) w.scheduler)).pending source ++
            rest) := by
  obtain ⟨place, r, hr, hpending, herase, hset⟩ := exists_place h
  have hsource : r.source = source := congrArg Prod.fst hpending
  have hprogram : r.program = program := congrArg Prod.snd hpending
  refine ⟨place, ?_⟩
  rw [Step.final]
  simp only [happen, hr, hprogram, Step.map_apply]
  cases resume program w.scheduler with
  | error e t => exact ⟨rfl, herase⟩
  | ok a t =>
      cases a with
      | finished result => exact ⟨rfl, herase⟩
      | suspended next =>
          refine ⟨rfl, ?_⟩
          rw [← hsource]
          exact hset _

lemma exists_cancel (h : w.pending.Perm ((source, program) :: rest)) :
    ∃ place, (w.happen (.cancel place)).scheduler = w.scheduler.release ∧
      (w.happen (.cancel place)).pending.Perm rest := by
  obtain ⟨place, r, hr, -, herase, -⟩ := exists_place h
  have hplace : place < w.waiting.length := (List.getElem?_eq_some_iff.1 hr).1
  refine ⟨place, ?_⟩
  rw [happen, if_pos hplace]
  exact ⟨rfl, herase⟩

lemma after_append (w : Shared) (past next : List Happening) :
    w.after (past ++ next) = (w.after past).after next := List.foldl_append

end Shared

namespace Session

/-! ## Tasks -/

/-- The runs of all tasks but one that wait. -/
def others (s : Session) (number : Nat) : List (Text × Program) :=
  (s.tasks.eraseIdx number).flatMap Task.pending

/-- The runs that wait are that of one task and those of the others. -/
lemma pending_perm {s : Session} {number : Nat} {t : Task} (ht : s.tasks[number]? = some t) :
    s.pending.Perm (t.pending ++ s.others number) := by
  obtain ⟨hnumber, rfl⟩ := List.getElem?_eq_some_iff.1 ht
  exact ((List.getElem_cons_eraseIdx_perm hnumber).flatMap_right Task.pending).symm

/-- A change of one task does not touch the others. -/
lemma pending_update {s : Session} {number : Nat} {t : Task} (ht : s.tasks[number]? = some t)
    (f : Task → Task) : (s.update number f).pending.Perm ((f t).pending ++ s.others number) := by
  have hchanged : (s.update number f).tasks[number]? = some (f t) := by
    rw [update, List.getElem?_modify_eq, ht]
    rfl
  have hothers : (s.update number f).others number = s.others number := by
    rw [others, others, update, List.eraseIdx_modify_of_eq]
  rw [← hothers]
  exact pending_perm hchanged

/-- Tasks that are created stand behind those that are there, and none of them waits. -/
lemma tasks_foldl_create : ∀ (sources : List Text) (s : Session),
    ∃ new, (sources.foldl create s).tasks = s.tasks ++ new ∧ new.flatMap Task.pending = []
  | [], s => ⟨[], (List.append_nil _).symm, rfl⟩
  | source :: sources, s => by
      obtain ⟨new, hnew, hpending⟩ := tasks_foldl_create sources (s.create source)
      refine ⟨{ source } :: new, ?_, ?_⟩
      · rw [List.foldl_cons, hnew, create, List.append_assoc]
        rfl
      · rw [List.flatMap_cons, hpending]
        rfl

lemma scheduler_foldl_create : ∀ (sources : List Text) (s : Session),
    (sources.foldl create s).scheduler = s.scheduler
  | [], _ => rfl
  | source :: sources, s => scheduler_foldl_create sources (s.create source)

lemma scheduler_adopt (s : Session) :
    s.adopt.scheduler = { s.scheduler with launched := [] } := scheduler_foldl_create _ _

lemma tasks_adopt (s : Session) :
    ∃ new, s.adopt.tasks = s.tasks ++ new ∧ new.flatMap Task.pending = [] := tasks_foldl_create _ _

lemma pending_adopt (s : Session) : s.adopt.pending = s.pending := by
  obtain ⟨new, hnew, hpending⟩ := s.tasks_adopt
  rw [pending, hnew, List.flatMap_append, hpending, List.append_nil]
  rfl

/-- To adopt tasks changes nothing about a task that is there. -/
lemma pending_update_adopt {s : Session} {number : Nat} {t : Task} (ht : s.tasks[number]? = some t)
    (f : Task → Task) :
    (s.adopt.update number f).pending.Perm ((f t).pending ++ s.others number) := by
  obtain ⟨new, hnew, hpending⟩ := s.tasks_adopt
  have hnumber := (List.getElem?_eq_some_iff.1 ht).1
  have hsame : s.adopt.tasks[number]? = some t := by
    rw [hnew, List.getElem?_append_left hnumber, ht]
  have hothers : s.adopt.others number = s.others number := by
    rw [others, others, hnew, List.eraseIdx_append_of_lt_length hnumber, List.flatMap_append,
      hpending, List.append_nil]
  rw [← hothers]
  exact pending_update hsame f

/-- Once a task has ended, all that changes besides is the queue. -/
lemma finish_eq (s : Session) (number : Nat) (outcome : Except Error (Option RunResult)) :
    (s.finish number outcome).scheduler = s.scheduler ∧
      (s.finish number outcome).tasks =
        (s.update number fun t => { t with stage := .ended outcome }).tasks := by
  simp only [finish]
  split_ifs <;> exact ⟨rfl, rfl⟩

/-- A turn of a task: the scheduler first, then the stage of the task. -/
lemma giveTurn_eq (s : Session) (number : Nat) (step : Step Scheduler (Option Advance)) :
    (s.giveTurn number step).scheduler =
        { Step.final step s.scheduler with launched := [] } ∧
      (s.giveTurn number step).tasks =
        (({ s with scheduler := Step.final step s.scheduler } : Session).adopt.update number fun t =>
          { t with stage := Stage.after (step s.scheduler) }).tasks := by
  simp only [giveTurn, onScheduler, Step.within, Step.final]
  cases step s.scheduler with
  | error e t =>
      have hfinish := finish_eq ({ s with scheduler := t } : Session).adopt number (.error e)
      exact ⟨hfinish.1.trans (scheduler_adopt _), hfinish.2⟩
  | ok a? t =>
      cases a? with
      | none =>
          have hfinish := finish_eq ({ s with scheduler := t } : Session).adopt number (.ok none)
          exact ⟨hfinish.1.trans (scheduler_adopt _), hfinish.2⟩
      | some a =>
          cases a with
          | suspended program => exact ⟨scheduler_adopt _, rfl⟩
          | finished result =>
              have hfinish :=
                finish_eq ({ s with scheduler := t } : Session).adopt number (.ok (some result))
              exact ⟨hfinish.1.trans (scheduler_adopt _), hfinish.2⟩

lemma onScheduler_of_ok {α : Type} {step : Step Scheduler α} {s : Session} {a : α} {t : Scheduler}
    (h : step s.scheduler = .ok a t) :
    onScheduler step s = .ok a ({ s with scheduler := t } : Session).adopt := by
  simp only [onScheduler, Step.within, h]

lemma onScheduler_of_error {α : Type} {step : Step Scheduler α} {s : Session} {e : Error}
    {t : Scheduler} (h : step s.scheduler = .error e t) :
    onScheduler step s = .error e ({ s with scheduler := t } : Session).adopt := by
  simp only [onScheduler, Step.within, h]

/-! ## In step -/

/-- A session and a shared scheduler are in step: it is the same scheduler, and the same runs wait.
Those in `own` are runs of the script. -/
structure Plays (own : List (Text × Program)) (s : Session) (w : Shared) : Prop where
  scheduler : w.scheduler = s.scheduler
  pending : w.pending.Perm (own ++ s.pending)

/-- What leads from one state of a session to another can be done in happenings. -/
def Leads (own own' : List (Text × Program)) (s s' : Session) : Prop :=
  ∀ w, Plays own s w → ∃ past, (∀ event ∈ past, event.IsCourteous) ∧ Plays own' s' (w.after past)

variable {own own' own'' : List (Text × Program)} {s s' s'' : Session}

/-- Queue and flags are nothing to the scheduler. -/
lemma Leads.of_eq (hscheduler : s'.scheduler = s.scheduler) (hpending : s'.pending.Perm s.pending) :
    Leads own own s s' := by
  intro w h
  exact ⟨[], by simp, h.scheduler.trans hscheduler.symm,
    h.pending.trans (hpending.symm.append_left own)⟩

lemma Leads.refl : Leads own own s s := .of_eq rfl (.refl _)

lemma Leads.trans (h : Leads own own' s s') (h' : Leads own' own'' s' s'') :
    Leads own own'' s s'' := by
  intro w hw
  obtain ⟨past, hpast, hmid⟩ := h w hw
  obtain ⟨next, hnext, hlast⟩ := h' _ hmid
  refine ⟨past ++ next, ?_, by rw [Shared.after_append]; exact hlast⟩
  intro event hevent
  rcases List.mem_append.1 hevent with hevent | hevent
  · exact hpast event hevent
  · exact hnext event hevent

/-- Something that happens to the scheduler, after which tasks are adopted. -/
lemma Leads.of_happening {t : Scheduler}
    (h : ∀ w, Plays own s w → ∃ event : Happening, event.IsCourteous ∧
      (w.happen event).scheduler = t ∧ (w.happen event).pending.Perm (own' ++ s'.pending))
    (hscheduler : s'.scheduler = { t with launched := [] }) : Leads own own' s s' := by
  intro w hw
  obtain ⟨event, hevent, ht, hpending⟩ := h w hw
  refine ⟨[event, .adopt], ?_, ?_, hpending⟩
  · intro other hother
    rcases List.mem_cons.1 hother with rfl | hother
    · exact hevent
    · rw [List.mem_singleton.1 hother]
      trivial
  · rw [hscheduler, ← ht]
    rfl

/-! ## Turns -/

/-- The turn of a task that has one. -/
lemma leads_giveTurn {number : Nat} {t : Task} (ht : s.tasks[number]? = some t)
    {step : Step Scheduler (Option Advance)}
    (h : ∀ w, Plays own s w → ∃ event : Happening, event.IsCourteous ∧
      (w.happen event).scheduler = Step.final step s.scheduler ∧
      (w.happen event).pending.Perm
        ((Stage.after (step s.scheduler)).pending t.source ++ (own ++ s.others number))) :
    Leads own own s (s.giveTurn number step) := by
  obtain ⟨hscheduler, htasks⟩ := s.giveTurn_eq number step
  have hpending : (s.giveTurn number step).pending.Perm
      ((Stage.after (step s.scheduler)).pending t.source ++ s.others number) := by
    rw [pending, htasks]
    exact pending_update_adopt (s := { s with scheduler := Step.final step s.scheduler }) ht _
  refine .of_happening (fun w hw => ?_) hscheduler
  obtain ⟨event, hevent, hfinal, hperm⟩ := h w hw
  refine ⟨event, hevent, hfinal, hperm.trans ?_⟩
  refine (List.perm_append_comm_assoc _ _ _).trans ?_
  exact hpending.symm.append_left own

theorem leads_advance (number : Nat) : Leads own own s (s.advance number) := by
  rw [advance]
  cases ht : s.tasks[number]? with
  | none => exact .refl
  | some t =>
      have hpending := pending_perm ht
      obtain ⟨source, stage, cancelled⟩ := t
      cases stage with
      | ended outcome => exact .refl
      | fresh =>
          cases cancelled with
          | true =>
              have hfinish := s.finish_eq number (.error .cancelled)
              refine .of_eq hfinish.1 ?_
              rw [pending, hfinish.2]
              exact (pending_update ht _).trans hpending.symm
          | false =>
              refine leads_giveTurn ht fun w hw => ⟨.run source, trivial, ?_, ?_⟩
              · rw [(w.happen_run source).1, hw.scheduler]
              · have hrun := (w.happen_run source).2
                rw [hw.scheduler] at hrun
                exact hrun.trans ((hw.pending.trans (hpending.append_left own)).append_left _)
      | suspended program =>
          have hwaits : ∀ w, Plays own s w →
              w.pending.Perm ((source, program) :: (own ++ s.others number)) := by
            intro w hw
            have hall := hw.pending.trans (hpending.append_left own)
            exact hall.trans (List.perm_append_comm_assoc _ _ _)
          cases cancelled with
          | true =>
              have hfinish := ({ s with scheduler := s.scheduler.release } : Session).finish_eq number
                (.error .cancelled)
              intro w hw
              obtain ⟨place, hscheduler, hperm⟩ := Shared.exists_cancel (hwaits w hw)
              refine ⟨[.cancel place], by simp [Happening.IsCourteous], ?_, ?_⟩
              · exact hscheduler.trans (hw.scheduler ▸ hfinish.1.symm)
              · have hothers : (({ s with scheduler := s.scheduler.release } : Session).finish number
                    (.error .cancelled)).pending.Perm (s.others number) := by
                  rw [pending, hfinish.2]
                  exact pending_update (s := { s with scheduler := s.scheduler.release }) ht _
                exact hperm.trans (hothers.symm.append_left own)
          | false =>
              refine leads_giveTurn ht fun w hw => ?_
              obtain ⟨place, hscheduler, hperm⟩ := Shared.exists_turn (hwaits w hw)
              rw [hw.scheduler] at hscheduler hperm
              exact ⟨.turn place, trivial, hscheduler, hperm⟩

/-- A step of the scheduler that the script takes. -/
lemma leads_onScheduler {α : Type} {step : Step Scheduler α}
    (h : ∀ w, Plays own s w → ∃ event : Happening, event.IsCourteous ∧
      (w.happen event).scheduler = Step.final step s.scheduler ∧
      (w.happen event).pending.Perm (own' ++ s.pending)) :
    Leads own own' s (Step.final (onScheduler step) s) := by
  rw [onScheduler, Step.final_within]
  refine .of_happening (fun w hw => ?_) (scheduler_adopt _)
  rw [pending_adopt]
  exact h w hw

variable (own)

lemma leads_giveTurns : ∀ (turns : List Turn) (s : Session), Leads own own s (giveTurns turns s).2
  | [], _ => .refl
  | .script :: _, _ => .of_eq rfl (.refl _)
  | .task number :: rest, s => (leads_advance number).trans (leads_giveTurns rest (s.advance number))

lemma leads_round (s : Session) : Leads own own s s.round.2 := by
  have hqueue : Leads own own s { s with queue := [] } := .of_eq rfl (.refl _)
  exact hqueue.trans (leads_giveTurns own s.queue _)

lemma leads_rounds : ∀ (bound : Nat) (s : Session), Leads own own s (rounds bound s).2
  | 0, _ => .refl
  | bound + 1, s => by
      have hround := leads_round own s
      rw [rounds]
      cases hr : s.round with
      | mk came t =>
          rw [hr] at hround
          cases came with
          | true => exact hround
          | false => exact hround.trans (leads_rounds bound t)

lemma leads_await (bound : Nat) (s : Session) : Leads own own s (Step.final (await bound) s) := by
  have hrounds := leads_rounds own bound s
  rw [Step.final, await]
  cases hr : rounds bound s with
  | mk came t =>
      rw [hr] at hrounds
      cases came <;> exact hrounds

/-- To pass the turn gives the others theirs. -/
lemma leads_pass (s : Session) : Leads own own s (Step.final pass s) := by
  have henqueue : Leads own own s (s.enqueue .script) := .of_eq rfl (.refl _)
  exact henqueue.trans (leads_await own 1 _)

/-! ## The script -/

/-- The script goes on with its own run.  If it gives up the run goes on waiting. -/
lemma leads_continueRun (source : Text) : ∀ (bound : Nat) (program : Program) (s : Session),
    ∃ own', Leads ((source, program) :: own) own' s (Step.final (continueRun bound program) s)
  | 0, _, _ => ⟨_, .refl⟩
  | bound + 1, program, s => by
      have hpass := leads_pass ((source, program) :: own) s
      rw [continueRun, Step.final_bind]
      rw [Step.final] at hpass
      cases hp : pass s with
      | error e t =>
          rw [hp] at hpass
          exact ⟨_, hpass⟩
      | ok u t =>
          rw [hp] at hpass
          have hturn : Leads ((source, program) :: own)
              ((Stage.after ((some <$> Scheduler.resume program : Step Scheduler (Option Advance))
                t.scheduler)).pending source ++ own) t
              (Step.final (onScheduler (some <$> Scheduler.resume program)) t) := by
            refine leads_onScheduler fun w hw => ?_
            obtain ⟨place, hscheduler, hperm⟩ := Shared.exists_turn hw.pending
            rw [hw.scheduler] at hscheduler hperm
            refine ⟨.turn place, trivial, hscheduler, ?_⟩
            rw [List.append_assoc]
            exact hperm
          simp only [Step.final, Step.bind_apply, onScheduler, Step.within, Step.map_apply] at hturn ⊢
          cases hr : Scheduler.resume program t.scheduler with
          | error e v =>
              rw [hr] at hturn
              exact ⟨_, hpass.trans hturn⟩
          | ok a v =>
              rw [hr] at hturn
              cases a with
              | finished result => exact ⟨_, hpass.trans hturn⟩
              | suspended next =>
                  obtain ⟨own', hrest⟩ := leads_continueRun source bound next
                    ({ t with scheduler := v } : Session).adopt
                  exact ⟨own', hpass.trans (hturn.trans hrest)⟩

lemma leads_run (source : Text) (s : Session) :
    ∃ own', Leads own own' s (Step.final (run source) s) := by
  have hbegin : Leads own
      ((Stage.after (Scheduler.begin source s.scheduler)).pending source ++ own) s
      (Step.final (onScheduler (Scheduler.begin source)) s) := by
    refine leads_onScheduler fun w hw => ⟨.run source, trivial, ?_, ?_⟩
    · rw [(w.happen_run source).1, hw.scheduler]
    · have hperm := (w.happen_run source).2
      rw [hw.scheduler] at hperm
      rw [List.append_assoc]
      exact hperm.trans (hw.pending.append_left _)
  rw [run]
  -- the number of turns granted is too large to be computed with
  obtain ⟨bound, hbound⟩ : ∃ bound, patience source = bound := ⟨_, rfl⟩
  rw [hbound]
  cases hr : Scheduler.begin source s.scheduler with
  | error e t =>
      rw [hr, Step.final_of_error (onScheduler_of_error hr)] at hbegin
      rw [Step.final_bind_of_error (onScheduler_of_error hr)]
      exact ⟨_, hbegin⟩
  | ok a? t =>
      rw [hr, Step.final_of_ok (onScheduler_of_ok hr)] at hbegin
      rw [Step.final_bind_of_ok (onScheduler_of_ok hr)]
      cases a? with
      | none => exact ⟨_, hbegin⟩
      | some a =>
          cases a with
          | finished result => exact ⟨_, hbegin⟩
          | suspended program =>
              obtain ⟨own', hrest⟩ := leads_continueRun own source bound program
                ({ s with scheduler := t } : Session).adopt
              refine ⟨own', hbegin.trans ?_⟩
              simp only
              rw [Step.final_bind_pure]
              exact hrest

/-- The scheduler is open to tasks, or it is not. -/
lemma leads_setLoop (loop : Bool) (s : Session) : Leads own own s (s.setLoop loop) := by
  intro w hw
  refine ⟨[.setLoop loop], by simp [Happening.IsCourteous], ?_, hw.pending⟩
  rw [setLoop, ← hw.scheduler]
  rfl

/-- All tasks are asked to end, and not one of them is changed before its turn. -/
lemma leads_cancelAll (s : Session) : Leads own own s s.cancelAll := by
  refine .of_eq rfl ?_
  rw [pending, cancelAll, List.flatMap_map]
  exact .refl _

lemma leads_close (s : Session) : Leads own own s s.close :=
  (leads_round own s).trans ((leads_cancelAll own _).trans (leads_round own _))

lemma leads_runAlone (source : Text) (s : Session) :
    ∃ own', Leads own own' s (Step.final (runAlone source) s) := by
  obtain ⟨own', hrun⟩ := leads_run own source (s.setLoop true)
  have hopened : Leads own own' s (Step.final (run source) (s.setLoop true)) :=
    (leads_setLoop own true s).trans hrun
  have hclosed := hopened.trans ((leads_close own' _).trans (leads_setLoop own' false _))
  refine ⟨own', ?_⟩
  rw [Step.final, runAlone]
  rw [Step.final] at hclosed
  cases hr : run source (s.setLoop true) <;> rw [hr] at hclosed <;> exact hclosed

lemma leads_join (number : Nat) (s : Session) : Leads own own s (Step.final (join number) s) := by
  rw [join, Step.final_bind]
  simp only [Step.get_apply]
  cases ht : s.tasks[number]? with
  | none => exact .refl
  | some t =>
      cases hstage : t.stage with
      | ended outcome =>
          simp only [hstage, Step.final_ofExcept]
          exact .refl
      | _ =>
          have hawaited : Leads own own s { s with awaited := some number } := .of_eq rfl (.refl _)
          simp only [hstage]
          obtain ⟨bound, hbound⟩ : ∃ bound, patience t.source = bound := ⟨_, rfl⟩
          rw [hbound]
          have hawait := leads_await own bound { s with awaited := some number }
          refine Step.rel_final_bind (P := Leads own own) Leads.trans hawaited fun _ v hv => ?_
          cases hv
          refine Step.rel_final_bind (P := Leads own own) Leads.trans hawait fun _ v _ => ?_
          rw [Step.final_bind]
          simp only [Step.get_apply]
          split
          · rw [Step.final_ofExcept]
            exact .refl
          · exact .refl

lemma leads_cancel (number : Nat) (s : Session) :
    Leads own own s (Step.final (cancel number) s) := by
  have hasked : Leads own own s (s.update number fun t => { t with cancelled := true }) := by
    refine .of_eq rfl ?_
    cases ht : s.tasks[number]? with
    | none => rw [update, List.modify_eq_self (List.getElem?_eq_none_iff.1 ht)]
    | some t => exact (pending_update ht _).trans (pending_perm ht).symm
  exact hasked.trans (leads_join own number _)

lemma leads_passTimes : ∀ (times : Nat) (s : Session),
    Leads own own s (Step.final (passTimes times) s)
  | 0, _ => .refl
  | times + 1, s =>
      Step.rel_final_bind (P := Leads own own) Leads.trans (leads_pass own s)
        fun _ t _ => leads_passTimes times t

/-- The command asks of the scheduler only what it offers to everybody. -/
def Command.IsCourteous : Command → Prop
  | .control request => (HookAction.control request).IsCourteous
  | _ => True

/-- **A command of the script** is done in happenings, whichever way it ends. -/
theorem leads_perform (s : Session) : ∀ {command : Command}, command.IsCourteous →
    ∃ own', Leads own own' s (Step.final (perform command) s)
  | .control request, hrequest => by
      rw [perform, Step.final_bind_pure]
      refine ⟨own, leads_onScheduler fun w hw => ⟨.control request, hrequest, ?_, hw.pending⟩⟩
      rw [Shared.happen, hw.scheduler]
  | .run source, _ => by
      rw [perform, Step.final_bind_pure]
      exact leads_run own source s
  | .runAlone source, _ => by
      rw [perform, Step.final_bind_pure]
      exact leads_runAlone own source s
  | .start source, _ => by
      refine ⟨own, .of_eq rfl ?_⟩
      show (s.create source).pending.Perm s.pending
      rw [pending, create, List.flatMap_append]
      simp only [List.flatMap_cons, List.flatMap_nil, Task.pending, Stage.pending, List.append_nil]
      exact .refl _
  | .pass times, _ => by
      rw [perform, Step.final_bind_pure]
      exact ⟨own, leads_passTimes own times s⟩
  | .join number, _ => by
      rw [perform, Step.final_bind_pure]
      exact ⟨own, leads_join own number s⟩
  | .cancel number, _ => by
      rw [perform, Step.final_bind_pure]
      exact ⟨own, leads_cancel own number s⟩

def play (s : Session) (commands : List Command) : Session :=
  commands.foldl (fun s command => Step.final (perform command) s) s

/-- **Every script is a schedule.** -/
theorem leads_play : ∀ (commands : List Command) (own : List (Text × Program)) {s : Session},
    (∀ command ∈ commands, command.IsCourteous) → ∃ own', Leads own own' s (s.play commands)
  | [], _, _, _ => ⟨_, .refl⟩
  | command :: rest, own, s, hcommands => by
      obtain ⟨mid, hfirst⟩ := leads_perform own s (hcommands command (by simp))
      obtain ⟨own', hrest⟩ := leads_play rest mid (s := Step.final (perform command) s)
        fun other hother => hcommands other (by simp [hother])
      exact ⟨own', hfirst.trans hrest⟩

/-- **Of all tasks of a session at most one waits**, and then a run is in progress.  It is the run
of its own source, it stands at the end of a batch, and machine and counters are those of its first
lines. -/
theorem alone_of_play {scheduler : Scheduler} (hidle : scheduler.isBusy = false)
    (hhooks : scheduler.hooks.Courteous) (hsize : 1 ≤ scheduler.batchSize) {commands : List Command}
    (hcommands : ∀ command ∈ commands, command.IsCourteous) :
    let s := play { scheduler } commands
    s.pending.length ≤ (if s.scheduler.isBusy then 1 else 0) ∧
      ∀ t ∈ s.tasks, ∀ program, t.stage = .suspended program →
        program = Program.load t.source ∧ ∃ found batches, 1 ≤ batches ∧
          Scheduler.AtLine (Machine.reset found) (Text.lines t.source)
            (min (Text.lines t.source).length (batches * scheduler.batchSize.toNat)) s.scheduler := by
  intro s
  obtain ⟨own, hplay⟩ := leads_play commands [] (s := { scheduler }) hcommands
  obtain ⟨past, hpast, hscheduler, hpending⟩ := hplay { scheduler } ⟨rfl, .refl _⟩
  have hsound := Shared.sound_after hsize past hpast (Shared.Sound.of_idle hidle hhooks)
  rcases hsound.alone with ⟨hrest, hwaiting⟩ | ⟨r, hwaiting, hr⟩
  · rw [Shared.pending, hwaiting] at hpending
    have hnone : s.pending = [] := (List.append_eq_nil_iff.1 (List.nil_perm.1 hpending)).2
    refine ⟨by simp [hnone], fun t ht program hstage => ?_⟩
    have hnothing := List.flatMap_eq_nil_iff.1 hnone t ht
    rw [Task.pending, hstage] at hnothing
    cases hnothing
  · rw [Shared.pending, hwaiting] at hpending
    have hlength : s.pending.length ≤ 1 :=
      calc s.pending.length ≤ (own ++ s.pending).length := by simp
        _ = 1 := hpending.length_eq.symm
    have hbusy : s.scheduler.isBusy = true := hscheduler ▸ hr.course.busy
    refine ⟨by rw [hbusy]; exact hlength, fun t ht program hstage => ?_⟩
    have hmem : (t.source, program) ∈ own ++ s.pending := by
      refine List.mem_append_right own (List.mem_flatMap.2 ⟨t, ht, ?_⟩)
      rw [Task.pending, hstage]
      exact List.mem_singleton.2 rfl
    have hsame := List.mem_singleton.1 (hpending.mem_iff.2 hmem)
    obtain rfl : program = r.program := congrArg Prod.snd hsame
    have hsource : t.source = r.source := congrArg Prod.fst hsame
    rw [hsource, ← hscheduler]
    exact ⟨hr.own, r.found, r.batches, hr.batches, hr.atLine⟩

end Session
end Asm16
