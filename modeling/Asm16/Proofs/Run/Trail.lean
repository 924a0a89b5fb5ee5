import Asm16.Proofs.Run.Failure
import Asm16.Proofs.Run.Loop

/-!
# The trail of run states

The run state is changed in six places: by the run itself, by the way out of it, and by requests of
hooks and of others.  What each of them may do is said of one change (`Shared.Passage`, with a
constructor for each edge and what led to it), and the trail shows that nothing else happens.

* `Trod` — between two states of a scheduler the trail has every change of the run state, and a
  given relation allows each of them.
* `Moves.trod`, `trod_fail`, `trod_runLine`, `trod_proceed` — hooks, failures, lines and turns.
* `Shared.ending`, `Shared.atLoop` — how the run ends that has the turn, and the state in which its
  loop is entered.
* `Shared.Orderly` — what is said of one happening, and `orderly` that it is true of each.
* `moves_along_edges` — the result for all schedules; `trod_play` for sessions.

While a turn is being carried out nobody knows yet how it will end, so the changes on the way are
those without an ending (`Passage.of_none`).
-/

namespace Asm16

/-- From a run state the standings on a path lead to another one, and each change is allowed. -/
inductive Treads (W : RunState → Standing → Prop) : RunState → List Standing → RunState → Prop
  | nil (r : RunState) : Treads W r [] r
  | cons {r last : RunState} {next : Standing} {path : List Standing} (h : W r next)
      (hrest : Treads W next.runState path last) : Treads W r (next :: path) last

namespace Treads

variable {W W' : RunState → Standing → Prop} {r r' r'' : RunState} {path path' : List Standing}

lemma append (h : Treads W r path r') (h' : Treads W r' path' r'') :
    Treads W r (path ++ path') r'' := by
  induction h with
  | nil => exact h'
  | cons hnext _ ih => exact .cons hnext (ih h')

lemma mono (hW : ∀ r t, W r t → W' r t) (h : Treads W r path r') : Treads W' r path r' := by
  induction h with
  | nil => exact .nil _
  | cons hnext _ ih => exact .cons (hW _ _ hnext) ih

end Treads

/-- The change is one that the run states allow, and a run comes to its end with all lines done. -/
def Edge (r : RunState) (t : Standing) : Prop :=
  t.runState ∈ r.next ∧ (t.runState = .haltedOk → t.processed = t.total)

namespace Scheduler

variable {W W' : RunState → Standing → Prop} {allowed : HookAction → Prop} {s t u : Scheduler}

/-! ## The trail between two states -/

/-- The trail has every change of the run state on the way, and each is allowed. -/
def Trod (W : RunState → Standing → Prop) (s t : Scheduler) : Prop :=
  ∃ path, t.trail = s.trail ++ path ∧ Treads W s.runState path t.runState

lemma Trod.of_eq (htrail : t.trail = s.trail) (hstate : t.runState = s.runState) : Trod W s t :=
  ⟨[], by rw [htrail, List.append_nil], hstate ▸ .nil _⟩

lemma Trod.refl (s : Scheduler) : Trod W s s := .of_eq rfl rfl

lemma Trod.trans (h : Trod W s t) (h' : Trod W t u) : Trod W s u := by
  obtain ⟨path, htrail, hpath⟩ := h
  obtain ⟨path', htrail', hpath'⟩ := h'
  exact ⟨path ++ path', by rw [htrail', htrail, List.append_assoc], hpath.append hpath'⟩

lemma Trod.mono (hW : ∀ r t, W r t → W' r t) (h : Trod W s t) : Trod W' s t := by
  obtain ⟨path, htrail, hpath⟩ := h
  exact ⟨path, htrail, hpath.mono hW⟩

/-- **Every change of the run state is on the trail.** -/
lemma Trod.enter {r : RunState}
    (h : s.runState ≠ r → W s.runState { s.toStanding with runState := r }) :
    Trod W s (s.enter r) := by
  rw [enter_eq]
  by_cases hr : s.runState = r
  · exact .of_eq (if_pos hr) hr.symm
  · exact ⟨_, if_neg hr, .cons (h hr) (.nil r)⟩

lemma Trod.write_enter {entries : Log} {r : RunState}
    (h : s.runState ≠ r → W s.runState { s.toStanding with runState := r }) :
    Trod W s ((s.write entries).enter r) := by
  have hwritten : Trod W s (s.write entries) := .of_eq rfl rfl
  exact hwritten.trans (.enter h)

/-! ## Hooks -/

/-- What hooks that take these actions can do to the run state is allowed. -/
structure Permits (W : RunState → Standing → Prop) (allowed : HookAction → Prop) : Prop where
  stop : allowed (.control .stop) → ∀ t : Standing, t.runState = .stopping → W .running t
  reset : MayReset allowed → ∀ r : RunState, r.isBusy = false → r ≠ .idle → W r {}

lemma Permits.cleared (hW : Permits W allowed) (hreset : MayReset allowed)
    (hidle : s.isBusy = false) : Trod W s s.cleared := by
  rw [Scheduler.cleared]
  set blank : Scheduler :=
    { s with machine := s.machine.reset, executed := 0, processed := 0, total := 0 }
  have hblank : Trod W s blank := .of_eq rfl rfl
  exact hblank.trans (.enter fun hne => hW.reset hreset _ hidle hne)

lemma Move.trod (hW : Permits W allowed) (h : Move allowed s t) : Trod W s t := by
  cases h with
  | stop hstop =>
      rw [Scheduler.stop]
      split_ifs with hrunning
      · refine .write_enter fun _ => ?_
        rw [hrunning]
        exact hW.stop hstop _ rfl
      · exact .refl s
  | clear hreset hidle => exact hW.cleared hreset hidle
  | reveal hreset hidle =>
      exact (hW.cleared hreset hidle).trans (.of_eq rfl rfl)
  | detach | launch | note => exact .of_eq rfl rfl

lemma Moves.trod (hW : Permits W allowed) (h : Moves allowed s t) : Trod W s t := by
  induction h with
  | refl => exact .refl s
  | tail _ hmove ih => exact ih.trans (hmove.trod hW)

lemma Heard.trod (hW : Permits W allowed) {kind : HookKind} {e : Event}
    (h : Heard allowed kind e s t) : Trod W s t := by
  rcases h with ⟨-, rfl⟩ | ⟨-, hmoves⟩
  · exact .refl _
  · have hcalled : Trod W s (s.called kind e) := .of_eq rfl rfl
    exact hcalled.trans (hmoves.trod hW)

section Hooks

variable (hcourteous : ∀ a, allowed a → a.IsCourteous) (hW : Permits W allowed)
  (hhooks : s.hooks.Only allowed)

include hcourteous hW hhooks

lemma trod_publish : Trod W s (Step.final publish s) := (heard_publish hcourteous hhooks).trod hW

lemma trod_callHook (kind : HookKind) (e : Event) :
    Trod W s (Step.final (callHook publish kind e) s) :=
  (heard_callHook hcourteous kind e hhooks).trod hW

/-- The opening of a run leaves the run state to hooks. -/
lemma trod_opening (source : Text) : Trod W s (Step.final (opening source) s) := by
  have hreset : Trod W s { s with machine := s.machine.reset } := .of_eq rfl rfl
  have hpublished := trod_publish (s := { s with machine := s.machine.reset }) hcourteous hW hhooks
  have hall := hreset.trans hpublished
  rw [Step.final] at hall ⊢
  rw [opening_apply]
  cases hp : publish { s with machine := s.machine.reset } with
  | error e t => rw [hp] at hall; exact hall
  | ok u t => rw [hp] at hall; exact hall.trans (.of_eq rfl rfl)

/-- **A failure**: the run state is changed once, and then by hooks only. -/
lemma trod_fail (program : Program) (f : Failure)
    (hhalt : W s.runState { s.toStanding with runState := .haltedError }) :
    Trod W s (Step.final (fail program f) s) := by
  have hfailing : Trod W s (s.failing f) := .write_enter fun _ => hhalt
  have hunmoved := unmoved_failing allowed f s
  have hhere := hhooks.of_within hunmoved.hooks
  have hpublished := trod_publish hcourteous hW hhere
  have hheard := heard_publish hcourteous hhere
  rw [Step.final, fail_eq]
  cases hp : publish (s.failing f) with
  | error e v =>
      rw [Step.final_of_error hp] at hpublished
      exact hfailing.trans hpublished
  | ok _ v =>
      rw [Step.final_of_ok hp] at hpublished hheard
      have hreported := trod_callHook hcourteous hW (hhere.of_within (hheard.unmoved rfl).hooks)
        .failure (.failure f.line f.fault.message)
      have hall := hfailing.trans (hpublished.trans hreported)
      rw [Step.final] at hall
      simp only
      cases hr : callHook publish .failure (.failure f.line f.fault.message) v <;>
        rw [hr] at hall <;> exact hall

end Hooks

/-! ## The end of a turn -/

lemma failed_of_runLines {program : Program} {r : RunResult} : ∀ (l : List Int) (s : Scheduler),
    runLines program l s = .ok (some r) t → r.status = .failed
  | [], s, h => by cases h
  | i :: rest, s, h => by
      rw [runLines_cons] at h
      cases hr : runLine program i s with
      | error e u => rw [hr] at h; cases h
      | ok r? u =>
          rw [hr] at h
          cases r? with
          | none => exact failed_of_runLines rest u h
          | some r' =>
              cases h
              obtain ⟨line, fault, v, -, -, hfail⟩ := exists_of_runLine_ended hr
              rw [result_of_fail hfail]
              rfl

/-- A batch that ends the run has a line that failed. -/
lemma failed_of_runBatch {program : Program} {r : RunResult}
    (h : runBatch program s = .ok (some r) t) : r.status = .failed := by
  rw [runBatch_apply] at h
  cases hr : runLines program (indexes s.processed (min (s.processed + s.batchSize) s.total)) s with
  | error e u => rw [hr] at h; cases h
  | ok r? u =>
      rw [hr] at h
      cases r? with
      | some r' => cases h; exact failed_of_runLines _ _ hr
      | none =>
          simp only [Step.bind_apply] at h
          split at h <;> cases h

lemma proceed_of_stopping (program : Program) (h : s.runState = .stopping) :
    proceed program s =
      .ok (.finished (s.result program .cancelled none))
        ((s.write s.cancelledEntries).enter .idle) := by
  rw [proceed_apply, if_neg (by simp [h]), if_pos h]

/-- **How a run ends by itself**: a line fails, or its loop is left. -/
theorem cases_of_proceed_finished {program : Program} {r : RunResult}
    (h : proceed program s = .ok (.finished r) t) :
    (s.runState = .running ∧ r.status = .failed) ∨
      (s.runState = .stopping ∧ r.status = .cancelled ∧ t.runState = .idle) ∨
      (s.runState ≠ .stopping ∧ r.status = .completed ∧ t.runState = .haltedOk) := by
  rw [proceed_apply] at h
  split_ifs at h with hbatch hstop
  · cases hr : runBatch program s with
    | error e u => rw [hr] at h; cases h
    | ok r? u =>
        rw [hr] at h
        cases r? with
        | none => cases h
        | some r' => cases h; exact .inl ⟨hbatch.2, failed_of_runBatch hr⟩
  · cases h
    exact .inr (.inl ⟨hstop, rfl, runState_enter _ _⟩)
  · cases h
    exact .inr (.inr ⟨hstop, rfl, runState_enter _ _⟩)

/-- **What the account of a run says of the run state**, once the run is left. -/
lemma status_of_resume {program : Program} {r : RunResult}
    (h : resume program s = .ok (.finished r) t) :
    (r.status = .cancelled ↔ s.runState = .stopping) ∧
      (r.status = .cancelled → t.runState = .idle) ∧
      (r.status = .completed → t.runState = .haltedOk) := by
  rw [resume, turn] at h
  cases hp : proceed program s with
  | error e u => rw [hp] at h; cases h
  | ok a u =>
      rw [hp] at h
      cases a with
      | suspended program' => cases h
      | finished r' =>
          cases h
          have hreleased : u.isBusy = false → u.release.runState = u.runState := by
            intro hidle
            rw [release_of_idle hidle]
          rcases cases_of_proceed_finished hp with
            ⟨hrunning, hr⟩ | ⟨hstopping, hr, hu⟩ | ⟨hnot, hr, hu⟩
          · simp [hr, hrunning]
          · have hidle := hreleased (by rw [isBusy, hu]; rfl)
            simp [hr, hstopping, hidle, hu]
          · have hidle := hreleased (by rw [isBusy, hu]; rfl)
            simp [hr, hnot, hidle, hu]

/-- A run that was asked to stop ends at the head of its loop. -/
lemma exists_of_stopping (program : Program) (h : s.runState = .stopping) :
    ∃ r t, resume program s = .ok (.finished r) t := by
  rw [resume, turn, proceed_of_stopping program h]
  exact ⟨_, _, rfl⟩

/-- A run that begins is opened, and then it goes on from the head of its loop. -/
lemma begin_of_idle_eq (source : Text) (hidle : s.isBusy = false) :
    begin source s =
      match opening source (s.enter .running) with
      | .ok program u => (some <$> resume program : Step Scheduler (Option Advance)) u
      | .error e u => .error e.outOfRun u.release := by
  rw [begin_of_idle source hidle, turn, firstTurn_eq, Step.bind_apply]
  cases opening source (s.enter .running) with
  | error e u => rfl
  | ok program u =>
      simp only [Step.map_apply, resume, turn]
      cases proceed program u with
      | error e t => rfl
      | ok a t => cases a <;> rfl

/-- How a run ends in a turn, if it does. -/
def endingOf : EStateM.Result Error Scheduler (Option Advance) → Option (Except Error RunResult)
  | .ok (some (.finished result)) _ => some (.ok result)
  | .ok _ _ => none
  | .error e _ => some (.error e)

end Scheduler

namespace Shared

open Scheduler

/-! ## What happens to the run state -/

/-- How the run ends that begins, goes on or is cancelled, if it ends. -/
def ending (w : Shared) : Happening → Option (Except Error RunResult)
  | .run source => endingOf (begin source w.scheduler)
  | .turn place => w.waiting[place]?.bind fun r =>
      endingOf ((some <$> resume r.program : Step Scheduler (Option Advance)) w.scheduler)
  | .cancel place => if place < w.waiting.length then some (.error .cancelled) else none
  | _ => none

/-- The state in which a run comes to the head of its loop, where it goes into a batch or leaves. -/
def atLoop (w : Shared) : Happening → Option Scheduler
  | .run source =>
    if w.scheduler.isBusy then none
    else
      match opening source (w.scheduler.enter .running) with
      | .ok _ u => some u
      | .error _ _ => none
  | .turn place => w.waiting[place]?.map fun _ => w.scheduler
  | _ => none

/-- Somebody asks for the action during a happening: it is what happens, or a hook may ask for it. -/
inductive Asked (w : Shared) : Happening → HookAction → Prop
  | outright (request : Control) : Asked w (.control request) (.control request)
  | byHook {event : Happening} {kind : HookKind} {hook : Hook} {count : Nat} {told : Event}
      {a : HookAction} (hhook : w.scheduler.hooks.get kind = some hook) (ha : a ∈ hook count told) :
      Asked w event a

/-- What may change the run state during a happening, and into what.  A run that ends in it ends as
given. -/
inductive Passage (w : Shared) (event : Happening) (ending : Option (Except Error RunResult)) :
    RunState → Standing → Prop
  | accepted {r : RunState} {t : Standing} {source : Text} (hevent : event = .run source)
      (hidle : r.isBusy = false) (ht : t.runState = .running) : Passage w event ending r t
  | stopped {t : Standing} (hasked : w.Asked event (.control .stop)) (ht : t.runState = .stopping) :
      Passage w event ending .running t
  | completed {t : Standing} {result : RunResult} (ht : t.runState = .haltedOk)
      (hall : t.processed = t.total) (hending : ending = some (.ok result))
      (hstatus : result.status = .completed) : Passage w event ending .running t
  /-- A line failed, when it was carried out on the machine that the lines before it leave. -/
  | failed {r : RunState} {t : Standing} {found : Machine} {source line : Text} {i : Nat}
      {fault : Fault} {m' : Machine} (hbusy : r.isBusy = true) (ht : t.runState = .haltedError)
      (hrun : w.runOf event = some (found, source))
      (hreach : found.reset.Reaches (Text.lines source) i line)
      (hline : Machine.executeLine line (found.reset.upTo (Text.lines source) i).machine =
        .error (.fault fault) m') (hprocessed : t.processed = i) : Passage w event ending r t
  | cancelled {t : Standing} {result : RunResult} (ht : t.runState = .idle)
      (hending : ending = some (.ok result)) (hstatus : result.status = .cancelled) :
      Passage w event ending .stopping t
  /-- An error went through the run, or its task was cancelled. -/
  | cut {r : RunState} {t : Standing} {e : Error} (hbusy : r.isBusy = true) (ht : t.runState = .idle)
      (hending : ending = some (.error e)) : Passage w event ending r t
  | reset {r : RunState} (hasked : MayReset (w.Asked event)) (hidle : r.isBusy = false)
      (hne : r ≠ .idle) : Passage w event ending r {}

variable {w : Shared} {event : Happening} {ending : Option (Except Error RunResult)} {size : Int}
  {s t u : Scheduler} {found : Machine} {source : Text}

/-- **Every change goes along an edge.** -/
theorem Passage.edge {r : RunState} {next : Standing} (h : Passage w event ending r next) :
    Edge r next := by
  cases h with
  | accepted _ hidle ht => cases r <;> simp_all [Edge, RunState.next, RunState.isBusy]
  | stopped _ ht | cancelled ht => simp [Edge, RunState.next, ht]
  | completed ht hall => simp [Edge, RunState.next, ht, hall]
  | failed hbusy ht | cut hbusy ht => cases r <;> simp_all [Edge, RunState.next, RunState.isBusy]
  | reset _ hidle hne => cases r <;> simp_all [Edge, RunState.next, RunState.isBusy]

/-- What happens before the end of a run is known may happen however it ends. -/
lemma Passage.of_none : ∀ (r : RunState) (next : Standing), Passage w event none r next →
    Passage w event ending r next := by
  intro r next h
  cases h with
  | accepted hevent hidle ht => exact .accepted hevent hidle ht
  | stopped hasked ht => exact .stopped hasked ht
  | failed hbusy ht hrun hreach hline hprocessed =>
      exact .failed hbusy ht hrun hreach hline hprocessed
  | reset hasked hidle hne => exact .reset hasked hidle hne
  | completed _ _ hending | cancelled _ hending | cut _ _ hending => cases hending

/-- The actions that courteous hooks may take during a happening, and the request that is made. -/
def Admitted (w : Shared) (event : Happening) (a : HookAction) : Prop :=
  a.IsCourteous ∧ w.Asked event a

lemma Admitted.isCourteous : ∀ a, w.Admitted event a → a.IsCourteous := fun _ h => h.1

lemma only_admitted (hc : w.scheduler.hooks.Courteous) (event : Happening) :
    w.scheduler.hooks.Only (w.Admitted event) := by
  intro kind hook hk count told a ha
  exact ⟨hc kind hook hk count told a ha, .byHook hk ha⟩

lemma permits_passage (w : Shared) (event : Happening) (ending : Option (Except Error RunResult)) :
    Permits (Passage w event ending) (w.Admitted event) where
  stop hasked _ ht := .stopped hasked.2 ht
  reset hasked _ hidle hne := .reset (hasked.imp And.right And.right) hidle hne

/-! ## Turns of a run -/

lemma trod_executeLine {W : RunState → Standing → Prop} (line : Text) (s : Scheduler) :
    Trod W s (Step.final (executeLine line) s) := by
  rw [Step.final, executeLine_apply]
  cases Machine.executeLine line s.machine <;> exact .of_eq rfl rfl

/-- **A line of the run** changes the run state if it fails, and hooks may change it then. -/
lemma trod_runLine (hrun : w.runOf event = some (found, source))
    (hhooks : s.hooks.Only (w.Admitted event)) {i : Nat} (hi : i < (Program.load source).size)
    (hcourse : OnCourse found.reset (Program.load source) i s) :
    Trod (Passage w event none) s (Step.final (runLine (Program.load source) i) s) := by
  obtain ⟨line, hline⟩ : ∃ line, (Program.load source).lines[i]? = some line :=
    ⟨_, Array.getElem?_eq_getElem hi⟩
  have htrod := trod_executeLine (W := Passage w event none) line s
  have hhere := hhooks.of_within (unmoved_executeLine (w.Admitted event) line s).hooks
  rw [Step.final, runLine_apply hline]
  cases he : executeLine line s with
  | ok i? t =>
      rw [Step.final_of_ok he] at htrod hhere
      cases i? with
      | none => exact htrod
      | some instruction =>
          have hcounted : Trod (Passage w event none) t { t with executed := t.executed + 1 } :=
            .of_eq rfl rfl
          have hpublished := trod_publish (s := { t with executed := t.executed + 1 })
            Admitted.isCourteous (permits_passage w event none) hhere
          simp only
          rw [← Step.final, Step.final_bind_pure]
          exact htrod.trans (hcounted.trans hpublished)
  | error e t =>
      rw [Step.final_of_error he] at htrod hhere
      cases e with
      | fault fault =>
          obtain ⟨m', hm', hcarried, -⟩ := exists_of_executeLine_error (w.Admitted event) he
          have hbusy : t.runState.isBusy = true := by
            rw [hcarried.standing]
            exact hcourse.busy
          have hreach : found.reset.Reaches (Text.lines source) i line :=
            ⟨lines_of_line? (by rw [Program.line?_natCast, hline]), hcourse.done⟩
          have hnoted : Trod (Passage w event none) t { t with processed := (i : Int) } :=
            .of_eq rfl rfl
          have hfail := trod_fail (s := { t with processed := (i : Int) }) Admitted.isCourteous
            (permits_passage w event none) hhere (Program.load source) ⟨i + 1, fault⟩
            (.failed hbusy rfl hrun hreach (hcourse.machine ▸ hm') rfl)
          simp only
          rw [← Step.final, Step.final_bind_pure]
          exact htrod.trans (hnoted.trans hfail)
      | _ => exact htrod

/-- The trail at the end of a run, before the run is left. -/
def TrodTo (w : Shared) (event : Happening) : Except Error RunResult → Scheduler → Prop
  | .ok result, t => t.isBusy = false ∧ Trod (Passage w event (some (.ok result))) w.scheduler t
  | .error _, t => Trod (Passage w event none) w.scheduler t

/-- The run is over, and the trail shows how. -/
def TrodOut (w : Shared) (event : Happening) (outcome : Except Error RunResult) (t : Scheduler) :
    Prop := t.isBusy = false ∧ Trod (Passage w event (some outcome)) w.scheduler t

/-- The run that has the turn has come to the head of its loop with `i` lines done. -/
structure AtHead (w : Shared) (event : Happening) (found : Machine) (source : Text) (i : Nat)
    (u : Scheduler) : Prop where
  run : w.runOf event = some (found, source)
  course : OnCourse found.reset (Program.load source) i u
  processed : u.processed = i
  le : i ≤ (Program.load source).size
  size : 1 ≤ u.batchSize
  kept : Kept (Event.OfCourse found.reset (Text.lines source)) w.scheduler u
  trod : Trod (Passage w event none) w.scheduler u

/-- **A turn of the run** takes the trail from the head of the loop to the next suspension, or to the
end of the run. -/
theorem trod_proceed (hc : w.scheduler.hooks.Courteous) {i : Nat}
    (h : AtHead w event found source i u) :
    Turns (Program.load source) (Trod (Passage w event none) w.scheduler) (TrodTo w event)
      (proceed (Program.load source) u) := by
  have hhooks : ∀ {t}, Kept (Event.OfCourse found.reset (Text.lines source)) w.scheduler t →
      t.hooks.Only (w.Admitted event) := fun h => (only_admitted hc event).of_within h.hooks
  refine proceed_rule (fun k t => OnCourse found.reset (Program.load source) k t ∧
    Kept (Event.OfCourse found.reset (Text.lines source)) w.scheduler t ∧
    Trod (Passage w event none) w.scheduler t) rfl h.processed h.course.total h.le h.size
    ⟨h.course, h.kept, h.trod⟩ ?line ?progress ?cancelled ?completed
  case line =>
    rintro k hk t ⟨hcourse, hkept, htrod⟩
    have hline := runLine_onCourse hk hcourse hkept
    have hgone := htrod.trans (trod_runLine h.run (hhooks hkept) hk hcourse)
    cases hr : runLine (Program.load source) k t with
    | error e v =>
        rw [Step.final_of_error hr] at hgone
        exact hgone
    | ok r? v =>
        rw [hr] at hline
        rw [Step.final_of_ok hr] at hgone
        cases r? with
        | none => exact ⟨hline.1, hline.2, hgone⟩
        | some r => exact ⟨hline.1, hgone.mono Passage.of_none⟩
  case progress =>
    rintro - t ⟨-, hkept, htrod⟩
    set counted : Scheduler :=
      { t with processed := (batchEnd (Program.load source) u.batchSize i : Int) }
    have hcounted : Trod (Passage w event none) w.scheduler counted := htrod.trans (.of_eq rfl rfl)
    have hcalled := hcounted.trans (trod_callHook (s := counted) Admitted.isCourteous
      (permits_passage w event none) (hhooks (t := t) hkept) .progress
      (.progress (batchEnd (Program.load source) u.batchSize i) t.total))
    rw [Step.bind_apply]
    rw [Step.final] at hcalled
    cases hp : callHook publish .progress
        (.progress (batchEnd (Program.load source) u.batchSize i) t.total) counted <;>
      rw [hp] at hcalled <;> exact hcalled
  case cancelled =>
    intro hstopping
    refine ⟨by rw [isBusy, runState_enter]; rfl, ?_⟩
    refine (h.trod.mono Passage.of_none).trans (.write_enter fun _ => ?_)
    rw [hstopping]
    exact .cancelled rfl rfl rfl
  case completed =>
    intro hnot hall
    have hrunning := (RunState.isBusy_iff.1 h.course.busy).resolve_right hnot
    have hdone : u.processed = u.total := by rw [h.processed, h.course.total, hall hrunning]
    refine ⟨by rw [isBusy, runState_enter]; rfl, ?_⟩
    refine (h.trod.mono Passage.of_none).trans (.write_enter fun _ => ?_)
    rw [hrunning]
    exact .completed rfl hdone rfl rfl

/-- On the way out of a run its run state is changed if it was cut short. -/
lemma trodOut_leave : ∀ outcome t, TrodTo w event outcome t →
    TrodOut w event (outcome.mapError Error.outOfRun) (leave outcome t)
  | .ok result, t, ⟨hidle, htrod⟩ => by
      refine ⟨isBusy_release t, htrod.trans ?_⟩
      rw [leave, release_of_idle hidle]
      exact .of_eq rfl rfl
  | .error e, t, htrod => by
      refine ⟨isBusy_release t, Trod.trans (htrod.mono Passage.of_none) ?_⟩
      rw [leave, release]
      split_ifs with hbusy
      · exact .enter fun _ => .cut hbusy rfl rfl
      · exact .refl t

/-- **A run from the head of its loop** up to where it waits again, or to its end. -/
lemma trod_resume (hc : w.scheduler.hooks.Courteous) {i : Nat}
    (h : AtHead w event found source i u) :
    Turns (Program.load source) (Trod (Passage w event none) w.scheduler) (TrodOut w event)
      (resume (Program.load source) u) :=
  turn_rule (trod_proceed hc h) trodOut_leave

/-! ## One happening -/

/-- The run state changes in order during a happening. -/
structure Orderly (w : Shared) (event : Happening) : Prop where
  /-- Every change has its cause. -/
  changes : Trod (Passage w event (w.ending event)) w.scheduler (w.happen event).scheduler
  /-- When a run has ended, by an account or by an error, none is in progress. -/
  free : (w.ending event).isSome = true → (w.happen event).scheduler.isBusy = false
  completed : ∀ result, w.ending event = some (.ok result) → result.status = .completed →
    (w.happen event).scheduler.runState = .haltedOk
  /-- A run is given up just if it comes to the head of its loop when it was asked to stop. -/
  cancelled : (∃ result, w.ending event = some (.ok result) ∧ result.status = .cancelled) ↔
    ∃ u, w.atLoop event = some u ∧ u.runState = .stopping
  idle : ∀ result, w.ending event = some (.ok result) → result.status = .cancelled →
    (w.happen event).scheduler.runState = .idle

/-- Where no run has the turn. -/
lemma Orderly.of_none (hending : w.ending event = none) (hloop : w.atLoop event = none)
    (htrod : Trod (Passage w event none) w.scheduler (w.happen event).scheduler) :
    Orderly w event where
  changes := hending ▸ htrod
  free h := by rw [hending] at h; cases h
  completed result h := by rw [hending] at h; cases h
  cancelled := by simp [hending, hloop]
  idle result h := by rw [hending] at h; cases h

/-- Where a run ends before it comes to the head of its loop. -/
lemma Orderly.of_error {e : Error} (hending : w.ending event = some (.error e))
    (hloop : w.atLoop event = none)
    (htrod : TrodOut w event (.error e) (w.happen event).scheduler) : Orderly w event where
  changes := hending ▸ htrod.2
  free _ := htrod.1
  completed result h := by rw [hending] at h; cases h
  cancelled := by simp [hending, hloop]
  idle result h := by rw [hending] at h; cases h

/-- Where a run comes to the head of its loop, in the state `u`. -/
lemma Orderly.of_loop {program : Program} (hloop : w.atLoop event = some u)
    (hending : w.ending event =
      endingOf ((some <$> resume program : Step Scheduler (Option Advance)) u))
    (hfinal : (w.happen event).scheduler = Step.final (resume program) u)
    (htrod : Turns program (Trod (Passage w event none) w.scheduler) (TrodOut w event)
      (resume program u)) : Orderly w event := by
  have hnot : (∀ r t, resume program u ≠ .ok (.finished r) t) → u.runState ≠ .stopping := by
    intro hgoes hstopping
    obtain ⟨r, t, hr⟩ := exists_of_stopping program hstopping
    exact hgoes r t hr
  rw [Step.map_apply] at hending
  cases hr : resume program u with
  | error e t =>
      rw [hr] at hending htrod hnot
      rw [Step.final_of_error hr] at hfinal
      refine ⟨hending ▸ hfinal ▸ htrod.2, fun _ => hfinal ▸ htrod.1, ?_, ?_, ?_⟩ <;>
        simp [hending, hloop, endingOf, hnot]
  | ok a t =>
      rw [hr] at hending htrod hnot
      rw [Step.final_of_ok hr] at hfinal
      cases a with
      | suspended program' =>
          refine ⟨hending ▸ hfinal ▸ htrod.2, ?_, ?_, ?_, ?_⟩ <;>
            simp [hending, hloop, endingOf, hnot]
      | finished r =>
          obtain ⟨hcancelled, hidle, hcompleted⟩ := status_of_resume hr
          refine ⟨hending ▸ hfinal ▸ htrod.2, fun _ => hfinal ▸ htrod.1, ?_, ?_, ?_⟩
          · simpa [hending, endingOf, hfinal] using hcompleted
          · simp [hending, hloop, endingOf, hcancelled]
          · simpa [hending, endingOf, hfinal] using hidle

/-- **A program is to be run.** -/
lemma orderly_run (hsize : 1 ≤ size) (h : Sound size w) (source : Text) :
    Orderly w (.run source) := by
  have hfinal := (w.happen_run source).1
  cases hbusy : w.scheduler.isBusy with
  | true =>
      have hbegin := begin_of_busy source hbusy
      rw [Step.final_of_ok hbegin] at hfinal
      refine .of_none (by rw [ending, hbegin]; rfl) (by rw [atLoop, if_pos hbusy]) ?_
      rw [hfinal]
      exact .of_eq rfl rfl
  | false =>
      have hrun : w.runOf (.run source) = some (w.scheduler.machine, source) := by
        simp [runOf, hbusy]
      have haccepted : Trod (Passage w (.run source) none) w.scheduler
          (w.scheduler.enter .running) := .enter fun _ => .accepted rfl hbusy rfl
      have hkept : Kept (Event.OfCourse w.scheduler.machine.reset (Text.lines source)) w.scheduler
          (w.scheduler.enter .running) := kept_enter _ _
      have hmachine : (w.scheduler.enter .running).machine = w.scheduler.machine := by rw [enter_eq]
      have hhooks := (only_admitted h.courteous (.run source)).of_within hkept.hooks
      have hopening := opening_onCourse source (by rw [isBusy, runState_enter]; rfl)
        (h.courteous.of_within hkept.hooks) (hmachine.symm ▸ hkept)
      have hopened := haccepted.trans
        (trod_opening Admitted.isCourteous (permits_passage ..) hhooks source)
      have hbegin := begin_of_idle_eq source hbusy
      rw [hmachine] at hopening
      cases ho : opening source (w.scheduler.enter .running) with
      | error e t =>
          rw [Step.final_of_error ho] at hopened
          rw [ho] at hbegin
          rw [Step.final_of_error hbegin] at hfinal
          have hout : TrodOut w (.run source) (.error e.outOfRun) t.release :=
            trodOut_leave (.error e) t hopened
          exact .of_error (by rw [ending, hbegin]; rfl) (by simp [atLoop, hbusy, ho]) (hfinal ▸ hout)
      | ok program u =>
          rw [ho] at hopening hbegin
          rw [Step.final_of_ok ho] at hopened
          obtain ⟨rfl, hcourse, hprocessed, hkept⟩ := hopening
          have hbatch : 1 ≤ u.batchSize := by rw [hkept.batchSize, h.batchSize]; exact hsize
          have hresume := trod_resume h.courteous
            ⟨hrun, hcourse, hprocessed, Nat.zero_le _, hbatch, hkept, hopened⟩
          rw [Step.final, hbegin, ← Step.final, Step.final_map] at hfinal
          exact .of_loop (by simp [atLoop, hbusy, ho]) (by rw [ending, hbegin]) hfinal hresume

/-- **A run gets its turn.** -/
lemma orderly_turn (hsize : 1 ≤ size) (h : Sound size w) (place : Nat) :
    Orderly w (.turn place) := by
  cases hplace : w.waiting[place]? with
  | none =>
      refine .of_none (by rw [ending, hplace]; rfl) (by rw [atLoop, hplace]; rfl) ?_
      simp only [happen, hplace]
      exact .refl _
  | some r =>
      obtain ⟨-, -, hr⟩ := h.of_waiting hplace
      have hrun : w.runOf (.turn place) = some (r.found, r.source) := by simp [runOf, hplace]
      have hcourse := hr.course
      have hi := r.reached_le size
      rw [hr.own] at hcourse hi
      have hbatch : 1 ≤ w.scheduler.batchSize := by rw [h.batchSize]; exact hsize
      have hresume := trod_resume h.courteous
        ⟨hrun, hcourse, hr.processed, hi, hbatch, .refl _, .refl _⟩
      rw [← hr.own] at hresume
      refine .of_loop (by rw [atLoop, hplace]; rfl) (by rw [ending, hplace]; rfl) ?_ hresume
      rw [Step.final]
      simp only [happen, hplace]
      cases resume r.program w.scheduler with
      | error e t => rfl
      | ok a t => cases a <;> rfl

/-- **A run is cancelled.** -/
lemma orderly_cancel (w : Shared) (place : Nat) : Orderly w (.cancel place) := by
  by_cases hplace : place < w.waiting.length
  · have hfinal : (w.happen (.cancel place)).scheduler = w.scheduler.release := by
      simp only [happen, if_pos hplace]
    have hout : TrodOut w (.cancel place) (.error .cancelled) w.scheduler.release :=
      trodOut_leave (.error .cancelled) w.scheduler (.refl _)
    exact .of_error (by rw [ending, if_pos hplace]) rfl (hfinal ▸ hout)
  · refine .of_none (by rw [ending, if_neg hplace]) rfl ?_
    simp only [happen, if_neg hplace]
    exact .refl _

/-- **A request is made.** -/
lemma orderly_control (h : Sound size w) {request : Control}
    (hrequest : (HookAction.control request).IsCourteous) : Orderly w (.control request) := by
  refine .of_none rfl rfl ?_
  have hmoves := moves_act Admitted.isCourteous
    (moves_publishWithin Admitted.isCourteous nestingLimit) ⟨hrequest, .outright request⟩ .state
    (only_admitted h.courteous (.control request))
  simp only [happen, final_control]
  exact hmoves.trod (permits_passage ..)

/-- **One happening changes the run state in order.** -/
theorem orderly (hsize : 1 ≤ size) (h : Sound size w) :
    ∀ {event : Happening}, event.IsCourteous → Orderly w event
  | .run source, _ => orderly_run hsize h source
  | .turn place, _ => orderly_turn hsize h place
  | .cancel place, _ => orderly_cancel w place
  | .control _, hrequest => orderly_control h hrequest
  | .adopt, _ | .setLoop _, _ => .of_none rfl rfl (.of_eq rfl rfl)

/-- **Any number of happenings go along the edges.** -/
lemma trod_after (hsize : 1 ≤ size) : ∀ (past : List Happening) {w : Shared},
    (∀ event ∈ past, event.IsCourteous) → Sound size w →
      Trod Edge w.scheduler (w.after past).scheduler
  | [], _, _, _ => .refl _
  | event :: past, w, hpast, h => by
      have hevent := hpast event (by simp)
      have hfirst := (orderly hsize h hevent).changes.mono fun _ _ => Passage.edge
      exact hfirst.trans (trod_after hsize past (w := w.happen event)
        (fun other hother => hpast other (by simp [hother])) (sound_happen hsize h hevent).1)

/-- **The run state moves along its edges only.**  Whatever has happened, the trail leads from the run
state that the scheduler had at first to the one that it has now, each step of it goes along an edge,
and a run has come to its end only with all lines done.  And whatever happens next, each change of
the run state has the cause that belongs to its edge: a run that is accepted, a stop, a failed line,
a run that is given up or cut short, a reset.  After a run that has ended in any way none is in
progress; one that has an account of completion leaves the run state of that, and one is given up
just if it was asked to stop when it came to the head of its loop. -/
theorem moves_along_edges {s : Scheduler} (hidle : s.isBusy = false) (hhooks : s.hooks.Courteous)
    (hsize : 1 ≤ s.batchSize) {past : List Happening} (hpast : ∀ event ∈ past, event.IsCourteous) :
    Trod Edge s (after { scheduler := s } past).scheduler ∧
      ∀ event : Happening, event.IsCourteous → Orderly (after { scheduler := s } past) event := by
  have hstart := Sound.of_idle hidle hhooks
  have hsound := sound_after hsize past hpast hstart
  exact ⟨trod_after hsize past hpast hstart, fun event hevent => orderly hsize hsound hevent⟩

/-- A run that was asked to stop while it waited is given up at its next turn. -/
theorem moves_along_edges_in_unrest :
    let w := after { scheduler := restless } unrest
    Trod Edge restless w.scheduler ∧
      ∃ result, w.ending (.turn 0) = some (.ok result) ∧ result.status = .cancelled ∧
        (w.happen (.turn 0)).scheduler.runState = .idle := by
  intro w
  obtain ⟨htrod, horderly⟩ :=
    moves_along_edges (s := restless) rfl courteous_restless (by decide) courteous_unrest
  have hturn := horderly (.turn 0) trivial
  have hstopping : (w.atLoop (.turn 0)).map (fun u => u.runState) = some .stopping := by
    decide +kernel
  obtain ⟨u, hu, hstop⟩ := Option.map_eq_some_iff.1 hstopping
  obtain ⟨result, hending, hstatus⟩ := hturn.cancelled.2 ⟨u, hu, hstop⟩
  exact ⟨htrod, result, hending, hstatus, hturn.idle result hending hstatus⟩

end Shared

namespace Session

/-- **Sessions move along the edges**, whatever their script and their tasks do. -/
theorem trod_play {scheduler : Scheduler} (hidle : scheduler.isBusy = false)
    (hhooks : scheduler.hooks.Courteous) (hsize : 1 ≤ scheduler.batchSize) {commands : List Command}
    (hcommands : ∀ command ∈ commands, command.IsCourteous) :
    Scheduler.Trod Edge scheduler (play { scheduler } commands).scheduler := by
  obtain ⟨own, hplay⟩ := leads_play commands [] (s := { scheduler }) hcommands
  obtain ⟨past, hpast, hscheduler, -⟩ := hplay { scheduler } ⟨rfl, .refl _⟩
  rw [← hscheduler]
  exact Shared.trod_after hsize past hpast (Shared.Sound.of_idle hidle hhooks)

end Session
end Asm16
