import Asm16.Proofs.Run.Failure
import Asm16.Proofs.Run.Script

/-!
# A run that has a session to itself

Where there are no tasks and no hook asks for any, the queue of a session holds nothing but the turn
of the script.  To pass the turn is then to get it back, and a run of the script is a run that nobody
disturbs, whether or not a loop is opened for it alone.

* `Unasked` — no task was asked for; hooks that only record keep it so (`throughout_unasked`).
* `Session.run_of_vacant`, `runAlone_of_vacant` — the run of the scheduler is the run of the session.
* `Silent` — hooks that are told of everything and do nothing.
* `fail_tells`, `reports_of_finished` — among silent hooks the report of a failure is told once and
  last, and without a failure there is none.
-/

namespace Asm16

open Step (Keeps)

namespace Scheduler

/-! ## No task is asked for -/

/-- These hooks are attached, and they have asked for no task that is not there yet. -/
structure Unasked (attached : Hooks) (s : Scheduler) : Prop where
  hooks : s.hooks = attached
  launched : s.launched = []

variable {attached : Hooks} {s t : Scheduler}

lemma Unasked.recorded (h : Unasked attached s) (ht : Recorded s t) : Unasked attached t :=
  ⟨ht.hooks.trans h.hooks, ht.launched.trans h.launched⟩

/-- **Hooks that only record ask for no task**, in whatever part of a run. -/
lemma throughout_unasked (hr : attached.Recording) : Throughout (Unasked attached) where
  line line s hs := by
    have hcarried := carried_executeLine line s
    exact ⟨hcarried.hooks.trans hs.hooks, hcarried.launched.trans hs.launched⟩
  publish s hs := by
    obtain ⟨t, ht, hrecorded, -⟩ := publish_of_recording (hs.hooks ▸ hr)
    rw [Step.final_of_ok ht]
    exact hs.recorded hrecorded
  call kind event s hs := by
    obtain ⟨t, ht, hrecorded, -⟩ :=
      callHook_of_recording Scheduler.publish kind event (hs.hooks ▸ hr)
    rw [Step.final_of_ok ht]
    exact hs.recorded hrecorded
  between hs hhooks hlaunched _ := ⟨hhooks.trans hs.hooks, hlaunched.trans hs.launched⟩

end Scheduler

namespace Session

open Scheduler

/-! ## Nobody else is there -/

/-- There are no tasks, and nobody waits for a turn. -/
structure Vacant (s : Session) : Prop where
  tasks : s.tasks = []
  queue : s.queue = []

variable {s : Session} {attached : Hooks}

lemma Vacant.holding (h : s.Vacant) (t : Scheduler) : ({ s with scheduler := t } : Session).Vacant :=
  ⟨h.tasks, h.queue⟩

/-- Whoever passes the turn and is alone gets it back. -/
lemma pass_of_vacant (h : s.Vacant) : pass s = .ok () s := by
  rw [pass_apply]
  obtain ⟨scheduler, tasks, queue, awaited⟩ := s
  obtain rfl : queue = [] := h.queue
  rfl

/-- The end of a loop that holds no tasks changes nothing. -/
lemma close_of_vacant (h : s.Vacant) : s.close = s := by
  obtain ⟨scheduler, tasks, queue, awaited⟩ := s
  obtain rfl : queue = [] := h.queue
  obtain rfl : tasks = [] := h.tasks
  rfl

lemma adopt_of_unasked (h : Unasked attached s.scheduler) : s.adopt = s := by
  obtain ⟨scheduler, tasks, queue, awaited⟩ := s
  have hlaunched : scheduler.launched = [] := h.launched
  rw [adopt, hlaunched, List.foldl_nil, ← hlaunched]

/-- A turn of the scheduler, if it asks for no task. -/
lemma onScheduler_of_unasked {α : Type} {step : Step Scheduler α} {a : α} {t : Scheduler}
    (hstep : step s.scheduler = .ok a t) (h : Unasked attached t) :
    onScheduler step s = .ok a { s with scheduler := t } := by
  rw [onScheduler_of_ok hstep, adopt_of_unasked h]

/-! ## The run -/

/-- **The rest of a run.**  If the scheduler, left to itself, ends it within so many turns, the script
does, by induction on the turns. -/
theorem continueRun_of_vacant (hr : attached.Recording) {result : RunResult} {t : Scheduler} :
    ∀ (bound : Nat) {program : Program} {s : Session}, s.Vacant → Unasked attached s.scheduler →
      carryOn program (List.replicate bound []) s.scheduler = .ok (.finished result) t →
        continueRun bound program s = .ok result { s with scheduler := t } ∧ Unasked attached t
  | 0, _, _, _, _, hrun => by cases hrun
  | bound + 1, program, s, hs, hun, hrun => by
      have hkept := (throughout_unasked hr).resume program s.scheduler hun
      simp only [List.replicate_succ, carryOn, Step.bind_apply, Step.modify_apply,
        List.foldl_nil] at hrun
      simp only [continueRun, Step.bind_apply, pass_of_vacant hs]
      cases hturn : resume program s.scheduler with
      | error e u => rw [hturn] at hrun; cases hrun
      | ok a u =>
          rw [Step.final_of_ok hturn] at hkept
          rw [hturn] at hrun
          rw [onScheduler_of_unasked hturn hkept]
          cases a with
          | finished result => cases hrun; exact ⟨rfl, hkept⟩
          | suspended next => exact continueRun_of_vacant hr bound (hs.holding u) hkept hrun

/-- **A run of the script** in a session of its own is a run of the scheduler that nobody disturbs.
The number of turns granted has a name of its own, because it is too large to be computed with. -/
theorem run_of_vacant (hs : s.Vacant) (hhooks : s.scheduler.hooks.Recording)
    (hlaunched : s.scheduler.launched = []) {source : Text} {bound : Nat}
    (hbound : patience source = bound) {result : RunResult} {t : Scheduler}
    (hrun : runAmid source (List.replicate bound []) s.scheduler =
      .ok (some (.finished result)) t) :
    run source s = .ok (some result) { s with scheduler := t } := by
  have hkept := (throughout_unasked hhooks).begin source s.scheduler ⟨rfl, hlaunched⟩
  simp only [runAmid, Step.bind_apply] at hrun
  rw [run, hbound, Step.bind_apply]
  cases hturn : begin source s.scheduler with
  | error e u => rw [hturn] at hrun; cases hrun
  | ok a? u =>
      rw [Step.final_of_ok hturn] at hkept
      rw [hturn] at hrun
      rw [onScheduler_of_unasked hturn hkept]
      cases a? with
      | none => cases hrun
      | some a =>
          cases a with
          | finished result => cases hrun; rfl
          | suspended program =>
              simp only [Step.bind_apply] at hrun ⊢
              cases hc : carryOn program (List.replicate bound []) u with
              | error e v => rw [hc] at hrun; cases hrun
              | ok a v =>
                  rw [hc] at hrun
                  cases hrun
                  rw [(continueRun_of_vacant hhooks bound (hs.holding u) hkept hc).1]
                  rfl

/-- The same on a loop that is opened for the run and closed behind it. -/
theorem runAlone_of_vacant (hs : s.Vacant) (hhooks : s.scheduler.hooks.Recording)
    (hlaunched : s.scheduler.launched = []) {source : Text} {bound : Nat}
    (hbound : patience source = bound) {result : RunResult} {t : Scheduler}
    (hrun : runAmid source (List.replicate bound []) { s.scheduler with loop := true } =
      .ok (some (.finished result)) t) :
    runAlone source s = .ok (some result) { s with scheduler := { t with loop := false } } := by
  have hvacant : (setLoop true s).Vacant := ⟨hs.tasks, hs.queue⟩
  have hopened := run_of_vacant hvacant hhooks hlaunched hbound hrun
  have hclosed : ({ setLoop true s with scheduler := t } : Session).close = _ :=
    close_of_vacant ⟨hs.tasks, hs.queue⟩
  rw [runAlone, hopened]
  simp only [hclosed]
  rfl

/-- A run that ends in an error in its first turn. -/
lemma runAlone_of_begin_error {source : Text} {e : Error} {t : Scheduler}
    (hbegin : begin source { s.scheduler with loop := true } = .error e t) :
    ∃ s', runAlone source s = .error e s' := by
  have hrun := onScheduler_of_error (s := setLoop true s) hbegin
  rw [runAlone, run, Step.bind_apply, hrun]
  exact ⟨_, rfl⟩

end Session

/-! ## Silent hooks -/

/-- The hooks are told of everything and do nothing. -/
def Hooks.Silent (hooks : Hooks) : Prop := hooks.Only fun _ => False

lemma Hooks.Silent.recording {hooks : Hooks} (h : hooks.Silent) : hooks.Recording :=
  Hooks.Only.mono h fun _ => False.elim

/-- What a hook for failures is told of the account of a run. -/
def RunResult.reports (r : RunResult) : List Event :=
  (r.failure.map fun f => .failure f.line f.fault.message).toList

namespace Scheduler

variable {source : Text} {s t : Scheduler} {r : RunResult}

/-- A failure is shown, and then it is reported. -/
lemma fail_tells (hr : s.hooks.Recording) (hhook : s.hooks.failure.isSome = true) {program : Program}
    {f : Failure} (hfail : fail program f s = .ok r t) :
    ∃ told, t.events = told ++ r.reports ∧ told.filterMap Event.failure? = s.failures := by
  have hresult := result_of_fail hfail
  obtain ⟨logged, trail, hfailing⟩ := failing_eq f s
  rw [fail_eq, hfailing, publish_apply] at hfail
  set halted : Scheduler := { s with runState := .haltedError, logged, trail } with hhalted
  obtain ⟨u, hu, hrecorded, htold⟩ := callHook_of_recording (publishWithin (nestingLimit - 1)) .state
    (.state halted.machine.snapshot halted.machine.memory.cells halted.toStanding) (s := halted) hr
  obtain ⟨v, hv, -, htold'⟩ := callHook_of_recording publish .failure
    (.failure f.line f.fault.message) (hrecorded.hooks ▸ hr)
  rw [hu] at hfail
  simp only [hv] at hfail
  cases hfail
  have hattached : (u.hooks.get .failure).isSome = true := by
    rw [hrecorded.hooks]
    exact hhook
  refine ⟨u.events, ?_, ?_⟩
  · rw [events, htold', if_pos hattached, List.reverse_append, hresult]
    rfl
  · rw [events, htold, List.reverse_append, List.filterMap_append]
    split_ifs <;> simp [Event.failure?, failures, events, hhalted]

/-- **The report of a failure is the last thing told**, and there is none if no line failed. -/
theorem reports_of_finished (hidle : s.isBusy = false) (hhooks : s.hooks.Silent)
    (hhook : s.hooks.failure.isSome = true) (hsize : 1 ≤ s.batchSize) {others : List (List Demand)}
    (hothers : ∀ demands ∈ others, ∀ demand ∈ demands, demand.IsCourteous)
    (hrun : runAmid source others s = .ok (some (.finished r)) t) :
    ∃ told, t.events = told ++ r.reports ∧ told.filterMap Event.failure? = s.failures := by
  have hfirst : Comes source s [] .opening _ := .accepted
  obtain ⟨met, place, v, hmet, hcomes, hcloses⟩ := hfirst.exists_closes others
  rw [← hfirst.runAmid_eq hidle, List.nil_append, hrun] at hcloses
  rw [List.nil_append] at hmet
  obtain ⟨-, hunmoved⟩ := hcomes.standsAt (fun _ => False.elim) hhooks hsize
    fun demands hdemands => hothers demands (hmet.subset hdemands)
  have hattached := hunmoved.attached id
  have hevents : ∀ {u : Scheduler}, u.release.events = u.events := fun {u} => by
    rw [release]
    split_ifs
    · rw [enter_eq]
      rfl
    · rfl
  cases hcloses with
  | @ended _ u hleg =>
      have hlast : ({ u.release with lastResult := some r } : Scheduler).events = u.events := hevents
      rw [hlast, ← hunmoved.failures]
      cases Place.passes_of_leg hleg with
      | cancelled | completed =>
          rw [enter_eq]
          exact ⟨_, (List.append_nil _).symm, rfl⟩
      | failed =>
          obtain ⟨line, fault, w, -, -, he, hfail⟩ := exists_of_line_ended hleg
          obtain ⟨-, -, hcarried, hcounted⟩ := exists_of_executeLine_error (fun _ => False) he
          have hsame := hcarried.hooks.trans hattached
          obtain ⟨told, htold, hnone⟩ := fail_tells (s := { w with processed := _ })
            (by rw [hsame]; exact hhooks.recording) (by rw [hsame]; exact hhook) hfail
          exact ⟨told, htold, hnone.trans hcounted.failures⟩

end Scheduler
end Asm16
