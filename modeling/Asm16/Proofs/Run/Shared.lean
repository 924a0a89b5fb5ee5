import Asm16.Proofs.Run.Course

/-!
# A scheduler that many share

A task keeps the turn until it suspends itself, so what any number of tasks do to one scheduler is a
list of happenings, one after the other: a run is asked for, a run that waits gets its next turn, a
run that waits is cancelled, a request is made, or the loop takes over tasks that hooks have asked
for.  Which task does it is of no matter to the scheduler, and the order is free.

* `Accepted` — a run that was accepted and waits for its turn, with what it found when it began.
* `Shared` — a scheduler and all the runs that wait.  Nothing in its definition says that there is
  at most one of them.
* `Shared.happen`, `Shared.after` — one happening, and a list of them.
* `Shared.Sound` — the invariant: either no run is in progress and none waits, or one run waits, on
  its course at the end of one of its batches.

The lock of a scheduler is its run state alone, and it is given back in the middle of a turn when a
line fails.  `sound_happen` shows that it suffices, for hooks that are courteous.
-/

namespace Asm16

/-- A run that was accepted and waits for its next turn. -/
structure Accepted where
  source : Text
  program : Program
  /-- The machine as it was when the run was accepted. -/
  found : Machine
  /-- The account of the run before it. -/
  lastResult : Option RunResult
  batches : Nat

namespace Accepted

/-- The number of lines in the batches that are done. -/
def reached (r : Accepted) (size : Int) : Nat := min r.program.size (r.batches * size.toNat)

def goneOn (r : Accepted) (program : Program) : Accepted :=
  { r with program, batches := r.batches + 1 }

end Accepted

/-- Something that happens to a scheduler. -/
inductive Happening
  | run (source : Text)
  /-- The run that waits in a place gets its turn. -/
  | turn (place : Nat)
  /-- The run that waits in a place is cancelled. -/
  | cancel (place : Nat)
  | control (request : Control)
  /-- The loop takes over the tasks that hooks have asked for. -/
  | adopt
  /-- From now on a loop is there that can take tasks, or none is. -/
  | setLoop (loop : Bool)

/-- The scheduler is reached only through what it offers to everybody. -/
def Happening.IsCourteous : Happening → Prop
  | .control request => (HookAction.control request).IsCourteous
  | _ => True

/-- A scheduler and the runs that wait for their turns. -/
structure Shared where
  scheduler : Scheduler
  waiting : List Accepted := []

namespace Shared

def happen (w : Shared) : Happening → Shared
  | .run source =>
    match Scheduler.begin source w.scheduler with
    | .ok (some (.suspended program)) s =>
      { scheduler := s
        waiting := w.waiting ++
          [{ source, program, found := w.scheduler.machine, lastResult := w.scheduler.lastResult,
             batches := 1 }] }
    | .ok _ s => { w with scheduler := s }
    | .error _ s => { w with scheduler := s }
  | .turn place =>
    match w.waiting[place]? with
    | none => w
    | some r =>
      match Scheduler.resume r.program w.scheduler with
      | .ok (.suspended program) s =>
        { scheduler := s, waiting := w.waiting.set place (r.goneOn program) }
      | .ok (.finished _) s => { scheduler := s, waiting := w.waiting.eraseIdx place }
      | .error _ s => { scheduler := s, waiting := w.waiting.eraseIdx place }
  | .cancel place =>
    if place < w.waiting.length then
      { scheduler := w.scheduler.release, waiting := w.waiting.eraseIdx place }
    else w
  | .control request => { w with scheduler := Step.final (Scheduler.control request) w.scheduler }
  | .adopt => { w with scheduler := { w.scheduler with launched := [] } }
  | .setLoop loop => { w with scheduler := { w.scheduler with loop } }

def after (w : Shared) (past : List Happening) : Shared := past.foldl happen w

/-- The run that a happening begins or carries on: the machine that it found, and its source. -/
def runOf (w : Shared) : Happening → Option (Machine × Text)
  | .run source => if w.scheduler.isBusy then none else some (w.scheduler.machine, source)
  | .turn place => w.waiting[place]?.map fun r => (r.found, r.source)
  | _ => none

end Shared

/-- If the event is a snapshot of a run in progress, then of the given run, and of no other. -/
def Event.OfRun : Option (Machine × Text) → Event → Prop
  | none, e => e.IsResting
  | some (found, source), e => e.OfCourse found.reset (Text.lines source)

/-! ## The invariant -/

namespace Accepted

open Scheduler

/-- The run waits in a scheduler, on its course at the end of its last batch. -/
structure WaitsIn (r : Accepted) (size : Int) (s : Scheduler) : Prop where
  own : r.program = Program.load r.source
  batches : 1 ≤ r.batches
  course : OnCourse r.found.reset r.program (r.reached size) s
  processed : s.processed = r.reached size
  lastResult : s.lastResult = r.lastResult

variable {r : Accepted} {size : Int} {s t : Scheduler}

lemma WaitsIn.steered {P : Event → Prop} (h : r.WaitsIn size s) (ht : Steered P s t) :
    r.WaitsIn size t :=
  ⟨h.own, h.batches, h.course.steered ht, ht.processed.trans h.processed,
    ht.lastResult.trans h.lastResult⟩

lemma reached_le (r : Accepted) (size : Int) : r.reached size ≤ r.program.size := Nat.min_le_left _ _

lemma WaitsIn.atLine (h : r.WaitsIn size s) :
    AtLine r.found.reset (Text.lines r.source)
      (min (Text.lines r.source).length (r.batches * size.toNat)) s := by
  have hlines : r.program.lines.toList = Text.lines r.source := by rw [h.own]; rfl
  have hcount : r.reached size = min (Text.lines r.source).length (r.batches * size.toNat) := by
    rw [Accepted.reached, h.own]
    simp only [Program.size, Program.load, Program.ofLines, List.size_toArray]
  rw [← hcount, ← hlines]
  exact h.course.atLine h.processed

/-- The next batch ends where one more batch is done. -/
lemma batchEnd_reached (r : Accepted) (size : Int) :
    batchEnd r.program size (r.reached size) = (r.goneOn r.program).reached size := by
  have hbatches : (r.batches + 1) * size.toNat = r.batches * size.toNat + size.toNat :=
    Nat.succ_mul _ _
  simp only [batchEnd, reached, goneOn, hbatches]
  omega

end Accepted

namespace Shared

open Scheduler

/-- No run is in progress and none waits, or one run waits on its course. -/
structure Sound (size : Int) (w : Shared) : Prop where
  courteous : w.scheduler.hooks.Courteous
  batchSize : w.scheduler.batchSize = size
  alone : w.scheduler.isBusy = false ∧ w.waiting = [] ∨
    ∃ r, w.waiting = [r] ∧ r.WaitsIn size w.scheduler

variable {size : Int} {w : Shared} {s : Scheduler}

lemma Sound.of_idle (h : s.isBusy = false) (hc : s.hooks.Courteous) :
    Sound s.batchSize { scheduler := s } := ⟨hc, rfl, .inl ⟨h, rfl⟩⟩

/-- What a request does is what a hook does that makes it. -/
lemma final_control (request : Control) (s : Scheduler) :
    Step.final (control request) s = Step.final (act publish .state (.control request)) s := by
  have hact : act publish .state (.control request) = (do let _ ← control request) := rfl
  rw [hact, Step.final_bind, Step.final]
  cases control request s <;> rfl

/-- A run that comes to its end, or is cut short, leaves the scheduler to others. -/
lemma Sound.left (h : Sound size w) (hidle : s.isBusy = false)
    (hsize : s.batchSize = w.scheduler.batchSize) (hhooks : s.hooks.Within w.scheduler.hooks) :
    Sound size { scheduler := s } :=
  ⟨h.courteous.of_within hhooks, hsize.trans h.batchSize, .inl ⟨hidle, rfl⟩⟩

/-- What changes no more than hooks can during a run leaves a run that waits waiting, and a
scheduler at rest at rest. -/
lemma Sound.steered {P : Event → Prop} (h : Sound size w) (ht : Steered P w.scheduler s) :
    Sound size { w with scheduler := s } := by
  refine ⟨h.courteous.of_within ht.hooks, ht.batchSize.trans h.batchSize, ?_⟩
  rcases h.alone with ⟨hidle, hw⟩ | ⟨r, hw, hr⟩
  · refine .inl ⟨?_, hw⟩
    rcases ht.runState with hsame | ⟨hrunning, -⟩
    · rw [isBusy, hsame]
      exact hidle
    · rw [isBusy, hrunning] at hidle
      cases hidle
  · exact .inr ⟨r, hw, hr.steered ht⟩

/-- Whichever run waits is the only one. -/
lemma Sound.of_waiting (h : Sound size w) {place : Nat} {r : Accepted}
    (hr : w.waiting[place]? = some r) :
    w.waiting = [r] ∧ place = 0 ∧ r.WaitsIn size w.scheduler := by
  rcases h.alone with ⟨-, hw⟩ | ⟨r', hw, hr'⟩
  · simp [hw] at hr
  · rw [hw] at hr
    cases place with
    | zero => cases hr; exact ⟨hw, rfl, hr'⟩
    | succ n => cases hr

/-- **A program is to be run.**  It is rejected while a run waits; otherwise it is the only run. -/
lemma sound_run (hsize : 1 ≤ size) (h : Sound size w) (source : Text) :
    Sound size (w.happen (.run source)) ∧
      Tells (Event.OfRun (w.runOf (.run source))) w.scheduler (w.happen (.run source)).scheduler := by
  rcases h.alone with ⟨hidle, hw⟩ | ⟨r, hw, hr⟩
  · have hturn := begin_onCourse source h.courteous (by rw [h.batchSize]; exact hsize)
    simp only [happen, runOf, begin_of_idle source hidle, hidle, Bool.false_eq_true, if_false]
    cases ht : turn (firstTurn source) (w.scheduler.enter .running) with
    | error e t =>
        rw [ht] at hturn
        obtain ⟨hidle', hkept⟩ := hturn
        have hsound := h.left hidle' hkept.batchSize hkept.hooks
        exact ⟨hw ▸ hsound, hkept.told⟩
    | ok a t =>
        rw [ht] at hturn
        cases a with
        | finished result =>
            obtain ⟨hidle', hbatch, -, hhooks, htold⟩ := hturn
            have hsound := h.left hidle' hbatch hhooks
            exact ⟨hw ▸ hsound, htold⟩
        | suspended program =>
            obtain ⟨rfl, hcourse, hprocessed, hkept⟩ := hturn
            set r : Accepted :=
              { source, program := Program.load source, found := w.scheduler.machine,
                lastResult := w.scheduler.lastResult, batches := 1 } with hr
            have hend : batchEnd (Program.load source) w.scheduler.batchSize 0 = r.reached size := by
              rw [h.batchSize, hr]
              simp only [batchEnd, Accepted.reached]
              omega
            rw [hend] at hcourse hprocessed
            have hwaits : r.WaitsIn size t :=
              ⟨rfl, Nat.le_refl 1, hcourse, hprocessed, hkept.lastResult⟩
            refine ⟨⟨hcourse.courteous, hkept.batchSize.trans h.batchSize, .inr ⟨r, ?_, hwaits⟩⟩,
              hkept.told⟩
            rw [hw]
            rfl
  · have hsteered : Steered (Event.OfRun none) w.scheduler (w.scheduler.write rejectedEntries) :=
      ⟨rfl, rfl, rfl, rfl, rfl, rfl, .refl _, .inl rfl, .of_told_eq rfl⟩
    simp only [happen, runOf, begin_of_busy source hr.course.busy, hr.course.busy, if_true]
    exact ⟨h.steered hsteered, hsteered.told⟩

/-- **A run gets its turn.**  It is one batch further, or it is over. -/
lemma sound_turn (hsize : 1 ≤ size) (h : Sound size w) (place : Nat) :
    Sound size (w.happen (.turn place)) ∧
      Tells (Event.OfRun (w.runOf (.turn place))) w.scheduler (w.happen (.turn place)).scheduler := by
  cases hplace : w.waiting[place]? with
  | none =>
      simp only [happen, hplace]
      exact ⟨h, .refl _⟩
  | some r =>
      obtain ⟨hwaiting, rfl, hr⟩ := h.of_waiting hplace
      have hturn := resume_onCourse hr.course hr.processed (r.reached_le size)
        (by rw [h.batchSize]; exact hsize)
      rw [h.batchSize, r.batchEnd_reached] at hturn
      have hrun : w.runOf (.turn 0) = some (r.found, r.source) := by simp [runOf, hplace]
      have hlines : r.program.lines.toList = Text.lines r.source := by rw [hr.own]; rfl
      rw [hrun]
      simp only [happen, hplace]
      cases ht : resume r.program w.scheduler with
      | error e t =>
          rw [ht] at hturn
          obtain ⟨hidle, hkept⟩ := hturn
          have hsound := h.left hidle hkept.batchSize hkept.hooks
          rw [hlines] at hkept
          exact ⟨by rw [hwaiting]; exact hsound, hkept.told⟩
      | ok a t =>
          rw [ht] at hturn
          cases a with
          | finished result =>
              obtain ⟨hidle, hbatch, -, hhooks, htold⟩ := hturn
              have hsound := h.left hidle hbatch hhooks
              rw [hlines] at htold
              exact ⟨by rw [hwaiting]; exact hsound, htold⟩
          | suspended program =>
              obtain ⟨rfl, hcourse, hprocessed, hkept⟩ := hturn
              have hwaits : (r.goneOn r.program).WaitsIn size t :=
                ⟨hr.own, Nat.le_add_left 1 _, hcourse, hprocessed,
                  hkept.lastResult.trans hr.lastResult⟩
              have hsound : Sound size { scheduler := t, waiting := [r.goneOn r.program] } :=
                ⟨hcourse.courteous, hkept.batchSize.trans h.batchSize, .inr ⟨_, rfl, hwaits⟩⟩
              rw [hlines] at hkept
              exact ⟨by rw [hwaiting]; exact hsound, hkept.told⟩

/-- **A run is cancelled.**  The scheduler is free for the next one. -/
lemma sound_cancel (h : Sound size w) (place : Nat) :
    Sound size (w.happen (.cancel place)) ∧
      Tells (Event.OfRun (w.runOf (.cancel place))) w.scheduler
        (w.happen (.cancel place)).scheduler := by
  simp only [happen]
  split_ifs with hplace
  · have hkept : Kept (Event.OfRun none) w.scheduler w.scheduler.release := kept_release _
    have hsound := h.left (isBusy_release _) hkept.batchSize hkept.hooks
    refine ⟨?_, hkept.told⟩
    rcases h.alone with ⟨-, hw⟩ | ⟨r, hw, -⟩
    · simp [hw] at hplace
    · obtain rfl : place = 0 := by simpa [hw] using hplace
      rw [hw]
      exact hsound
  · exact ⟨h, .refl _⟩

/-- **A request is made.**  While a run waits it changes nothing that matters to that run. -/
lemma sound_control (h : Sound size w) {request : Control}
    (hrequest : (HookAction.control request).IsCourteous) :
    Sound size (w.happen (.control request)) ∧
      Tells (Event.OfRun (w.runOf (.control request))) w.scheduler
        (w.happen (.control request)).scheduler := by
  simp only [happen, final_control]
  rcases h.alone with ⟨hidle, hw⟩ | ⟨r, hw, hr⟩
  · have hrested := rested_act (rested_publishWithin nestingLimit) hrequest .state hidle h.courteous
    have hsound := h.left hrested.idle hrested.batchSize hrested.hooks
    exact ⟨hw ▸ hsound, hrested.told⟩
  · have hsteered :=
      steered_act (P := Event.OfRun none) trivial hrequest publish .state hr.course.busy
    exact ⟨h.steered hsteered, hsteered.told⟩

/-- **The loop takes tasks over, or is opened or closed.**  No run has to do with it. -/
lemma sound_loop (h : Sound size w) (launched : List Text) (loop : Bool) :
    Sound size { w with scheduler := { w.scheduler with launched, loop } } ∧
      Tells (Event.OfRun none) w.scheduler { w.scheduler with launched, loop } := by
  have hsteered : Steered (Event.OfRun none) w.scheduler { w.scheduler with launched, loop } :=
    ⟨rfl, rfl, rfl, rfl, rfl, rfl, .refl _, .inl rfl, .of_told_eq rfl⟩
  exact ⟨h.steered hsteered, hsteered.told⟩

/-- **One happening keeps the invariant**, and it publishes no snapshot during a run but of the run
that it begins or carries on. -/
theorem sound_happen (hsize : 1 ≤ size) (h : Sound size w) :
    ∀ {event : Happening}, event.IsCourteous → Sound size (w.happen event) ∧
      Tells (Event.OfRun (w.runOf event)) w.scheduler (w.happen event).scheduler
  | .run source, _ => sound_run hsize h source
  | .turn place, _ => sound_turn hsize h place
  | .cancel place, _ => sound_cancel h place
  | .control _, hrequest => sound_control h hrequest
  | .adopt, _ => sound_loop h [] _
  | .setLoop loop, _ => sound_loop h _ loop

/-- **Any number of happenings keep the invariant**, in whichever order they come. -/
theorem sound_after (hsize : 1 ≤ size) : ∀ (past : List Happening) {w : Shared},
    (∀ event ∈ past, event.IsCourteous) → Sound size w → Sound size (w.after past)
  | [], _, _, h => h
  | event :: past, w, hpast, h => by
      have hnext := (sound_happen hsize h (hpast event (by simp))).1
      exact sound_after hsize past (w := w.happen event)
        (fun other hother => hpast other (by simp [hother])) hnext

/-! ## What it comes to -/

/-- To leave a run in progress touches neither machine nor counters. -/
lemma atLine_release {start : Machine} {lines : List Text} {count : Nat}
    (h : AtLine start lines count s) : AtLine start lines count s.release := by
  rw [release]
  split_ifs
  · rw [enter_eq]
    exact ⟨h.total, h.processed, h.executed, h.done, h.machine⟩
  · exact h

/-- A scheduler whose hooks ask for everything that they may ask for. -/
def restless : Scheduler where
  machine := .initial 16
  batchSize := 1
  hooks :=
    { state := some fun _ _ => [.tryReset, .launch ['p', 'o', 'p']]
      progress := some fun _ _ => [.control .isBusy, .detach]
      failure := some fun _ _ => [.control .reset, .refuse .busy] }

lemma courteous_restless : restless.hooks.Courteous := by
  intro kind hook hk count event a ha
  cases kind <;> cases hk <;> rcases List.mem_cons.1 ha with rfl | ha <;>
    first | trivial | (obtain rfl := List.mem_singleton.1 ha; trivial)

/-- While a run of two lines waits, tasks are taken over and another run, a stop and a reset are
asked for. -/
def unrest : List Happening :=
  [.run ['m', 'u', 'l', ' ', 'a', 'x', '\n', 'p', 'o', 'p', ' ', 'a', 'x'], .adopt,
    .run ['p', 'o', 'p'], .control .stop, .control .reset]

lemma courteous_unrest : ∀ event ∈ unrest, event.IsCourteous := by
  simp [unrest, Happening.IsCourteous, HookAction.IsCourteous]

/-- **Wherever a run waits, it stands at the end of a batch**, whatever others have asked for
meanwhile: machine and counters are those of its own first lines, carried out from a machine that
was reset.  To cancel it there leaves just that behind, and the account of the run before it. -/
theorem waits_at_batch_end {s : Scheduler} (hidle : s.isBusy = false) (hhooks : s.hooks.Courteous)
    (hsize : 1 ≤ s.batchSize) {past : List Happening} (hpast : ∀ event ∈ past, event.IsCourteous)
    {place : Nat} {r : Accepted} (hr : (after { scheduler := s } past).waiting[place]? = some r) :
    let w := after { scheduler := s } past
    let left := (w.happen (.cancel place)).scheduler
    let lines := Text.lines r.source
    let count := min lines.length (r.batches * s.batchSize.toNat)
    1 ≤ r.batches ∧
      (w.scheduler.runState = .running ∨ w.scheduler.runState = .stopping) ∧
      AtLine r.found.reset lines count w.scheduler ∧ w.scheduler.lastResult = r.lastResult ∧
      left.runState = .idle ∧ AtLine r.found.reset lines count left ∧
      left.lastResult = r.lastResult := by
  intro w left lines count
  have hsound := sound_after hsize past hpast (Sound.of_idle hidle hhooks)
  obtain ⟨hwaiting, rfl, hwaits⟩ := hsound.of_waiting hr
  have hbusy := hwaits.course.busy
  have hleft : left = w.scheduler.release := by
    simp only [left, w, happen, hwaiting, List.length_singleton, Nat.zero_lt_one, if_true]
  have hat : AtLine r.found.reset lines count w.scheduler := hwaits.atLine
  have hkept : Kept (fun _ => True) w.scheduler w.scheduler.release := kept_release _
  refine ⟨hwaits.batches, ?_, hat, hwaits.lastResult, ?_, hleft ▸ atLine_release hat, ?_⟩
  · exact RunState.isBusy_iff.1 hbusy
  · rw [hleft, release_of_busy hbusy, runState_enter]
  · rw [hleft, hkept.lastResult]
    exact hwaits.lastResult

theorem waits_at_batch_end_of_unrest : ∃ r : Accepted,
    (after { scheduler := restless } unrest).waiting[0]? = some r ∧
      AtLine r.found.reset (Text.lines r.source) (min (Text.lines r.source).length (r.batches * 1))
        (after { scheduler := restless } unrest).scheduler := by
  have hsome : ((after { scheduler := restless } unrest).waiting[0]?).isSome = true := by
    decide +kernel
  obtain ⟨r, hr⟩ := Option.isSome_iff_exists.1 hsome
  have h := waits_at_batch_end (s := restless) rfl courteous_restless (by decide) courteous_unrest hr
  exact ⟨r, hr, h.2.2.1⟩

/-- **One run at a time.**  A run waits just if the run state says so, and it is the only one.
While it is in progress, a further run is rejected and a reset refused, from wherever it is asked
for, and neither leaves more than a warning in the log.  So all snapshots published during a run are
of that run. -/
theorem one_run_at_a_time {s : Scheduler} (hidle : s.isBusy = false) (hhooks : s.hooks.Courteous)
    (hsize : 1 ≤ s.batchSize) {past : List Happening} (hpast : ∀ event ∈ past, event.IsCourteous) :
    let w := after { scheduler := s } past
    w.waiting.length = (if w.scheduler.isBusy then 1 else 0) ∧
      (∀ t : Scheduler, t.isBusy = true →
        (∀ source, begin source t = .ok none (t.write rejectedEntries)) ∧
          ∀ publish, controlWith publish .reset t = .error .busy t) ∧
      ∀ event : Happening, event.IsCourteous →
        Tells (Event.OfRun (w.runOf event)) w.scheduler (w.happen event).scheduler := by
  intro w
  have hsound := sound_after hsize past hpast (Sound.of_idle hidle hhooks)
  refine ⟨?_, fun t ht => ⟨fun source => begin_of_busy source ht, fun publish => ?_⟩,
    fun event hevent => (sound_happen hsize hsound hevent).2⟩
  · rcases hsound.alone with ⟨hi, hw⟩ | ⟨r, hw, hr⟩
    · rw [hw, hi]; rfl
    · rw [hw, hr.course.busy]; rfl
  · simp only [controlWith, Step.bind_apply, resetWith_of_busy ht]

theorem one_run_at_a_time_in_unrest :
    (after { scheduler := restless } unrest).waiting.length =
      if (after { scheduler := restless } unrest).scheduler.isBusy then 1 else 0 :=
  (one_run_at_a_time (s := restless) rfl courteous_restless (by decide) courteous_unrest).1

end Shared
end Asm16
