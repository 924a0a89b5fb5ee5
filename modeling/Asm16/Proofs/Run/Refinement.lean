import Asm16.Proofs.Machine.Unwatched
import Asm16.Proofs.Run.Turn

/-!
# A run is plain interpretation

With hooks that only record, a run in batches comes to the same as carrying out its lines one after
the other: the same machine, the same account, the same snapshots and the same error if one goes
through it.  Neither the batches nor anything that came before the run can be seen in any of them.

* `Scheduler.views` — the snapshots that were published, in order.
* `Scheduler.Follows` — the invariant: machine, count and snapshots are those of the first lines.
* `Scheduler.Demand`, `runAmid` — a run whose turns are separated by demands of others.
* `run_refines_interpretation` — the result.
-/

namespace Asm16

/-- What a snapshot shows, if the event is one. -/
def Event.view? : Event → Option View
  | .state snapshot cells _ => some (snapshot, cells)
  | _ => none

/-- What is seen of the machine by whoever is attached. -/
def Hooks.sees (hooks : Hooks) (shown : List View) : List View :=
  if hooks.state.isSome then shown else []

lemma Hooks.sees_append (hooks : Hooks) (shown shown' : List View) :
    hooks.sees (shown ++ shown') = hooks.sees shown ++ hooks.sees shown' := by
  simp only [Hooks.sees]
  split_ifs <;> simp

@[simp] lemma Hooks.sees_nil (hooks : Hooks) : hooks.sees [] = [] := by simp [Hooks.sees]

namespace Scheduler

/-! ## Snapshots -/

/-- The snapshots that were published, in order. -/
def views (s : Scheduler) : List View := s.events.filterMap Event.view?

lemma views_of_told {s t : Scheduler} {new : List Event} (h : t.told = new ++ s.told) :
    t.views = s.views ++ new.reverse.filterMap Event.view? := by
  simp [views, events, h]

lemma Carried.views {s t : Scheduler} (h : Carried s t) : t.views = s.views := by
  obtain ⟨notices, hnotices⟩ := h.told
  have hnone : (notices.map Event.notice).reverse.filterMap Event.view? = [] := by
    rw [← List.map_reverse, List.filterMap_map]
    exact List.filterMap_eq_nil_iff.2 fun _ _ => rfl
  rw [views_of_told hnotices, hnone, List.append_nil]

/-- Hooks that only record are told of a report, and no snapshot is published. -/
lemma report_of_recording (publish : Step Scheduler Unit) (kind : HookKind) (event : Event)
    (he : event.view? = none) {s : Scheduler} (hr : s.hooks.Recording) :
    ∃ t, callHook publish kind event s = .ok () t ∧ Recorded s t ∧ t.views = s.views := by
  obtain ⟨t, ht, hrec, htold⟩ := callHook_of_recording publish kind event hr
  refine ⟨t, ht, hrec, ?_⟩
  rw [views_of_told htold]
  split_ifs <;> simp [he]

/-- A hook that only records sees the machine when it is published. -/
lemma publish_of_recording {s : Scheduler} (hr : s.hooks.Recording) :
    ∃ t, publish s = .ok () t ∧ Recorded s t ∧
      t.views = s.views ++ s.hooks.sees [s.machine.view] := by
  rw [publish_apply]
  obtain ⟨t, ht, hrec, htold⟩ := callHook_of_recording (publishWithin (nestingLimit - 1)) .state
    (.state s.machine.snapshot s.machine.memory.cells s.toStanding) hr
  refine ⟨t, ht, hrec, ?_⟩
  have hstate : s.hooks.get .state = s.hooks.state := rfl
  rw [views_of_told htold, hstate, Hooks.sees]
  split_ifs <;> rfl

/-! ## The invariant -/

/-- A run that began with the machine `start` has carried out its first `i` lines, and `before` and
then the machine after each instruction have been seen. -/
structure Follows (start : Machine) (program : Program) (attached : Hooks) (before : List View)
    (i : Nat) (s : Scheduler) : Prop where
  running : s.runState = .running
  hooks : s.hooks = attached
  batchSize : 1 ≤ s.batchSize
  total : s.total = program.size
  done : (start.upTo program.lines.toList i).ending = .done
  machine : s.machine = (start.upTo program.lines.toList i).machine
  executed : s.executed = (start.upTo program.lines.toList i).executed
  views : s.views = before ++ attached.sees (start.upTo program.lines.toList i).shown

/-- The run has ended as plain interpretation of its lines does. -/
structure Refines (start : Machine) (program : Program) (attached : Hooks) (before : List View)
    (outcome : Except Error RunResult) (s : Scheduler) : Prop where
  outcome : outcome =
    ((start.interpretFrom 0 program.lines.toList).answer program).mapError Error.outOfRun
  machine : s.machine = (start.interpretFrom 0 program.lines.toList).machine
  views : s.views = before ++ attached.sees (start.interpretFrom 0 program.lines.toList).shown

/-- The same while the run is not left yet, when the error that ends it has still to come out. -/
def RefinesWithin (start : Machine) (program : Program) (attached : Hooks) (before : List View)
    (outcome : Except Error RunResult) (s : Scheduler) : Prop :=
  Refines start program attached before (outcome.mapError Error.outOfRun) s

variable {start : Machine} {program : Program} {attached : Hooks} {before : List View}

/-- Recording leaves a run where it is. -/
lemma Follows.recorded {i : Nat} {s t : Scheduler} (h : Follows start program attached before i s)
    (ht : Recorded s t) (hviews : t.views = s.views) : Follows start program attached before i t where
  running := (congrArg Standing.runState ht.standing).trans h.running
  hooks := ht.hooks.trans h.hooks
  batchSize := ht.batchSize h.batchSize
  total := (congrArg Standing.total ht.standing).trans h.total
  done := h.done
  machine := ht.machine.trans h.machine
  executed := (congrArg Standing.executed ht.standing).trans h.executed
  views := hviews.trans h.views

/-- A line that is carried out takes a run one line further. -/
lemma Follows.next {i n : Nat} {line : Text} {shown : List View} {s s' t : Scheduler}
    (h : Follows start program attached before i s) (hline : program.lines.toList[i]? = some line)
    (hcarried : Carried s s')
    (hone : s.machine.interpretLine i line = { machine := s'.machine, executed := n, shown := shown })
    (ht : Recorded { s' with executed := s.executed + n } t)
    (hviews : t.views = s'.views ++ attached.sees shown) :
    Follows start program attached before (i + 1) t := by
  have hupTo := Machine.upTo_succ hline h.done
  rw [← h.machine, hone] at hupTo
  have hstanding := ht.standing
  refine ⟨?_, ?_, ?_, ?_, ?_, ?_, ?_, ?_⟩
  · have hrunning := congrArg Standing.runState hcarried.standing
    exact (congrArg Standing.runState hstanding).trans (hrunning.trans h.running)
  · exact ht.hooks.trans (hcarried.hooks.trans h.hooks)
  · exact ht.batchSize (hcarried.batchSize ▸ h.batchSize)
  · have htotal := congrArg Standing.total hcarried.standing
    exact (congrArg Standing.total hstanding).trans (htotal.trans h.total)
  · rw [hupTo]; rfl
  · rw [hupTo]
    exact ht.machine
  · rw [hupTo, Interpretation.followedBy_executed, ← h.executed]
    exact congrArg Standing.executed hstanding
  · rw [hviews, hcarried.views, h.views, hupTo, Interpretation.followedBy_shown, Hooks.sees_append,
      List.append_assoc]

/-- A line that is not carried out ends a run as it ends plain interpretation. -/
lemma Follows.refines {i : Nat} {line : Text} {s t : Scheduler} {outcome : Except Error RunResult}
    (h : Follows start program attached before i s) (hline : program.lines.toList[i]? = some line)
    (hstop : (s.machine.interpretLine i line).ending ≠ .done)
    (houtcome : outcome = Interpretation.answer
      { s.machine.interpretLine i line with
        executed := s.executed + (s.machine.interpretLine i line).executed } program)
    (hmachine : t.machine = (s.machine.interpretLine i line).machine)
    (hviews : t.views = s.views ++ attached.sees (s.machine.interpretLine i line).shown) :
    RefinesWithin start program attached before outcome t := by
  have hlast := h.machine ▸ Machine.interpretFrom_of_stopped hline h.done (h.machine ▸ hstop)
  refine ⟨?_, ?_, ?_⟩
  · rw [houtcome, hlast, h.executed]
    rfl
  · rw [hmachine, hlast]
    rfl
  · rw [hviews, h.views, hlast, Interpretation.followedBy_shown, Hooks.sees_append, List.append_assoc]

lemma result_of_standing {s t : Scheduler} (h : t.toStanding = s.toStanding) (program : Program)
    (status : RunStatus) (failure : Option Failure) :
    t.result program status failure = s.result program status failure := by
  simp only [result, h]

/-- A failure is published and reported, and the account is read off the counters as they were. -/
lemma fail_of_recording {s : Scheduler} (hr : s.hooks.Recording) (program : Program)
    (failure : Failure) :
    ∃ t, fail program failure s = .ok (s.result program .failed (some failure)) t ∧
      t.machine = s.machine ∧ t.views = s.views ++ s.hooks.sees [s.machine.view] := by
  rw [fail_apply, enter_eq]
  set failed : Scheduler :=
    { s.write (s.failureLog failure) with
      runState := .haltedError
      trail := if (s.write (s.failureLog failure)).runState = .haltedError then
          (s.write (s.failureLog failure)).trail
        else (s.write (s.failureLog failure)).trail ++
          [{ (s.write (s.failureLog failure)).toStanding with runState := .haltedError }] }
    with hfailed
  obtain ⟨t, ht, hrec, hviews⟩ := publish_of_recording (s := failed) hr
  obtain ⟨t', ht', hrec', hviews'⟩ := report_of_recording publish .failure
    (.failure failure.line failure.fault.message) rfl (s := t) (hrec.hooks ▸ hr)
  have hresult : t'.result program .failed (some failure) = s.result program .failed (some failure) :=
    result_of_standing (s := failed) (hrec'.standing.trans hrec.standing) program _ _
  refine ⟨t', ?_, hrec'.machine.trans hrec.machine, hviews'.trans hviews⟩
  simp only [Step.bind_apply, ht, ht', Step.get_apply, Step.pure_apply, hresult]

/-- **One line is what plain interpretation makes of it.** -/
theorem runLine_follows (hr : attached.Recording) {i : Nat} (hi : i < program.size) {s : Scheduler}
    (h : Follows start program attached before i s) :
    GoesOn (Follows start program attached before (i + 1))
      (RefinesWithin start program attached before) (runLine program i s) := by
  have hline : program.lines[i]? = some program.lines[i] := Array.getElem?_eq_getElem hi
  have hline' : program.lines.toList[i]? = some program.lines[i] := by simpa using hline
  obtain ⟨s', hcarried, hmachine, hcases⟩ := runLine_cases hline s
  have hstanding := hcarried.standing
  have hhooks := hcarried.hooks.trans h.hooks
  rcases hcases with ⟨hone, hrun⟩ | ⟨hone, hrun⟩ | ⟨fault, hone, hrun⟩ | ⟨e, hone, hrun⟩
  · have hs' : { s' with executed := s.executed + 0 } = s' := by
      rw [Nat.add_zero, ← congrArg Standing.executed hstanding]
    have hrecorded : Recorded { s' with executed := s.executed + 0 } s' := by
      rw [hs']
      exact .refl s'
    rw [hrun]
    exact h.next hline' hcarried hone hrecorded (by rw [Hooks.sees_nil, List.append_nil])
  · set counted := { s' with executed := s.executed + 1 } with hcounted
    obtain ⟨t, ht, hrecorded, hviews⟩ := publish_of_recording (s := counted) (hhooks ▸ hr)
    have hsees : counted.hooks = attached := hhooks
    rw [hsees] at hviews
    rw [hrun, Step.bind_apply, ht]
    exact h.next hline' hcarried hone hrecorded hviews
  · set patched := { s' with processed := (i : Int) } with hpatched
    obtain ⟨t, ht, hm, hviews⟩ :=
      fail_of_recording (s := patched) (hhooks ▸ hr) program ⟨i + 1, fault⟩
    have hsees : patched.hooks = attached := hhooks
    have hexecuted : s'.executed = s.executed := congrArg Standing.executed hstanding
    have htotal : s'.total = program.size := (congrArg Standing.total hstanding).trans h.total
    rw [hsees] at hviews
    rw [hrun, Step.bind_apply, ht]
    refine h.refines hline' (by rw [hone]; simp) ?_ (hm.trans hmachine) ?_
    · rw [hone]
      simp only [Interpretation.answer, result, hpatched, hexecuted, htotal, Nat.add_zero]
    · rw [hviews, hone, hcarried.views.symm]
      rfl
  · rw [hrun]
    refine h.refines hline' (by rw [hone]; simp) (by rw [hone]; rfl) hmachine ?_
    rw [hone, Hooks.sees_nil, List.append_nil]
    exact hcarried.views

/-! ## Turns -/

/-- The run waits at line `j`. -/
def FollowsAt (start : Machine) (program : Program) (attached : Hooks) (before : List View) (j : Nat)
    (s : Scheduler) : Prop :=
  Follows start program attached before j s ∧ s.processed = j

/-- The run waits at a line behind line `i`. -/
def FollowsBeyond (start : Machine) (program : Program) (attached : Hooks) (before : List View)
    (i : Nat) (s : Scheduler) : Prop :=
  ∃ j, i < j ∧ j ≤ program.size ∧ FollowsAt start program attached before j s

/-- **A turn is a batch of plain interpretation**, and the last one ends the run as that ends. -/
theorem proceed_follows (hr : attached.Recording) {i : Nat} (hi : i ≤ program.size) {s : Scheduler}
    (h : FollowsAt start program attached before i s) :
    Turns program (FollowsBeyond start program attached before i)
      (RefinesWithin start program attached before) (proceed program s) := by
  obtain ⟨hfollows, hprocessed⟩ := h
  have hsize := hfollows.batchSize
  refine proceed_rule (Follows start program attached before) rfl hprocessed hfollows.total hi
    hfollows.batchSize hfollows (fun k hk t ht => runLine_follows hr hk ht) ?progress ?cancelled ?completed
  case progress =>
    intro hlt t ht
    set j := batchEnd program s.batchSize i with hj
    have hij : i < j := by rw [hj, batchEnd]; omega
    set counted := { t with processed := (j : Int) } with hcounted
    have hcount : Follows start program attached before j counted :=
      ⟨ht.running, ht.hooks, ht.batchSize, ht.total, ht.done, ht.machine, ht.executed, ht.views⟩
    obtain ⟨u, hu, hrecorded, hviews⟩ := report_of_recording publish .progress
      (.progress j t.total) rfl (s := counted) (ht.hooks ▸ hr)
    rw [Step.bind_apply, hu]
    exact ⟨j, hij, Nat.min_le_right _ _, hcount.recorded hrecorded hviews,
      congrArg Standing.processed hrecorded.standing⟩
  case cancelled =>
    intro hstopping
    rw [hfollows.running] at hstopping
    cases hstopping
  case completed =>
    intro _ hlast
    obtain rfl : i = program.size := hlast hfollows.running
    have hall : start.upTo program.lines.toList program.size =
        start.interpretFrom 0 program.lines.toList := Machine.upTo_length start program.lines.toList
    have hdone := hall ▸ hfollows.done
    have hexecuted := hall ▸ hfollows.executed
    rw [enter_eq]
    refine ⟨?_, hall ▸ hfollows.machine, hall ▸ hfollows.views⟩
    simp only [Interpretation.answer, hdone, result, hexecuted, hprocessed, hfollows.total]

/-- **The first turn**: the machine is reset and seen, then the first batch is carried out. -/
theorem firstTurn_follows (source : Text) {s : Scheduler} (hr : s.hooks.Recording)
    (hrunning : s.runState = .running) (hsize : 1 ≤ s.batchSize) :
    Turns (Program.load source)
      (FollowsBeyond s.machine.reset (Program.load source) s.hooks
        (s.views ++ s.hooks.sees [s.machine.reset.view]) 0)
      (RefinesWithin s.machine.reset (Program.load source) s.hooks
        (s.views ++ s.hooks.sees [s.machine.reset.view])) (firstTurn source s) := by
  set fresh := { s with machine := s.machine.reset } with hfresh
  obtain ⟨t, ht, hrecorded, hviews⟩ := publish_of_recording (s := fresh) hr
  set loaded := { t.write (loadEntries source) with
    executed := 0, processed := 0, total := (Program.load source).size } with hloaded
  have hfollows : FollowsAt s.machine.reset (Program.load source) s.hooks
      (s.views ++ s.hooks.sees [s.machine.reset.view]) 0 loaded := by
    refine ⟨⟨?_, hrecorded.hooks, hrecorded.batchSize hsize, rfl, rfl, hrecorded.machine, rfl, ?_⟩,
      rfl⟩
    · exact (congrArg Standing.runState hrecorded.standing).trans hrunning
    · rw [Machine.upTo_zero, Hooks.sees_nil, List.append_nil]
      exact hviews
  rw [firstTurn_apply, ht]
  exact proceed_follows hr (Nat.zero_le _) hfollows

/-! ## Whole runs -/

lemma refines_leave : ∀ outcome (s : Scheduler),
    RefinesWithin start program attached before outcome s →
    Refines start program attached before (outcome.mapError Error.outOfRun)
      (leave outcome s) := by
  intro outcome s h
  have hrelease : s.release.machine = s.machine ∧ s.release.views = s.views := by
    rw [release]
    split_ifs
    · rw [enter_eq]
      exact ⟨rfl, rfl⟩
    · exact ⟨rfl, rfl⟩
  cases outcome with
  | ok r => exact ⟨h.outcome, hrelease.1.trans h.machine, hrelease.2.trans h.views⟩
  | error e => exact ⟨h.outcome, hrelease.1.trans h.machine, hrelease.2.trans h.views⟩

/-- **A run that is accepted** has been carried out up to the end of its first batch, or it is over.
-/
lemma begin_follows (source : Text) {s : Scheduler} (hr : s.hooks.Recording)
    (hsize : 1 ≤ s.batchSize) :
    Turns (Program.load source)
      (FollowsBeyond s.machine.reset (Program.load source) s.hooks
        (s.views ++ s.hooks.sees [s.machine.reset.view]) 0)
      (Refines s.machine.reset (Program.load source) s.hooks
        (s.views ++ s.hooks.sees [s.machine.reset.view]))
      (turn (firstTurn source) (s.enter .running)) := by
  have h := firstTurn_follows source (s := s.enter .running) (by rw [enter_eq]; exact hr)
    (runState_enter _ _) (by rw [enter_eq]; exact hsize)
  rw [enter_eq] at h ⊢
  exact turn_rule h refines_leave

/-- **A run that goes on** has been carried out one batch further, or it is over. -/
lemma resume_follows (hr : attached.Recording) {i : Nat} (hi : i ≤ program.size) {s : Scheduler}
    (h : FollowsAt start program attached before i s) :
    Turns program (FollowsBeyond start program attached before i)
      (Refines start program attached before) (resume program s) :=
  turn_rule (proceed_follows hr hi h) refines_leave

/-- Without watchers the error that ends an interpretation comes out of the run as it is. -/
lemma answer_outOfRun {m : Machine} (h : m.memory.subscribed = []) (lines : List Text)
    (program : Program) :
    ((m.interpretFrom 0 lines).answer program).mapError Error.outOfRun =
      (m.interpretFrom 0 lines).answer program := by
  rw [Interpretation.answer]
  cases hending : (m.interpretFrom 0 lines).ending with
  | done => rfl
  | failed index fault => rfl
  | escaped e =>
      exact congrArg Except.error
        (Error.outOfRun_of_isExpected (Machine.isExpected_of_escaped h hending))

/-- A run that is over has come to what interpretation on any machine with as much memory comes to.
-/
lemma refines_interpret {s t : Scheduler} {source : Text} {outcome : Except Error RunResult}
    (h : Refines s.machine.reset (Program.load source) s.hooks
      (s.views ++ s.hooks.sees [s.machine.reset.view]) outcome t)
    (hunwatched : s.machine.memory.subscribed = []) {m : Machine} (hm : m.memory.subscribed = [])
    (hcells : m.memory.cells.size = s.machine.memory.cells.size) :
    outcome = (m.interpret (Text.lines source)).answer (Program.load source) ∧
      t.machine.view = (m.interpret (Text.lines source)).machine.view ∧
      t.views = s.views ++ s.hooks.sees (m.interpret (Text.lines source)).shown := by
  have hsame := Machine.same_interpret hunwatched hm hcells.symm (Text.lines source)
  -- the invariant begins after the first snapshot, which `interpret` has in front of the lines
  refine ⟨?_, ?_, ?_⟩
  · have hstart : s.machine.reset.memory.subscribed = [] := hunwatched
    rw [← hsame.answer, h.outcome, answer_outOfRun hstart]
    simp only [Interpretation.answer, Machine.interpret, Interpretation.followedBy_ending,
      Interpretation.followedBy_executed, Nat.zero_add]
    rfl
  · rw [← hsame.machine.view, h.machine]
    rfl
  · rw [← hsame.shown, h.views, List.append_assoc, ← Hooks.sees_append]
    rfl

/-! ## Amid others -/

/-- Something that others ask of the scheduler while a run waits. -/
inductive Demand
  | run (source : Text)
  | control (request : Control)

namespace Demand

def meet : Demand → Scheduler → Scheduler
  | .run source, s => Step.final (begin source) s
  | .control request, s => Step.final (Scheduler.control request) s

/-- The demand is refused or only looks, or it sets the batch size to a size that a batch can have.
-/
def IsHarmless : Demand → Prop
  | .run _ | .control .reset | .control .isBusy => True
  | .control (.setBatchSize size) => 1 ≤ size
  | _ => False

/-- Demands of others do not reach a run that waits. -/
lemma follows_meet {i : Nat} {s : Scheduler} (h : FollowsAt start program attached before i s) :
    ∀ {demand : Demand}, demand.IsHarmless →
      FollowsAt start program attached before i (demand.meet s) := by
  obtain ⟨hfollows, hprocessed⟩ := h
  have hbusy : s.isBusy = true := by rw [isBusy, hfollows.running]; rfl
  intro demand hdemand
  cases demand with
  | run source =>
      have hmeet : meet (.run source) s = s.write rejectedEntries :=
        Step.final_of_ok (begin_of_busy source hbusy)
      rw [hmeet]
      exact ⟨hfollows.recorded ⟨rfl, rfl, rfl, rfl, rfl, id⟩ rfl, hprocessed⟩
  | control request =>
      cases request with
      | reset =>
          have hreset : Scheduler.control .reset s = .error .busy s := by
            simp only [Scheduler.control, controlWith, Step.bind_apply, resetWith_of_busy hbusy]
          have hmeet : meet (.control .reset) s = s := Step.final_of_error hreset
          rw [hmeet]
          exact ⟨hfollows, hprocessed⟩
      | isBusy => exact ⟨hfollows, hprocessed⟩
      | setBatchSize size =>
          exact ⟨⟨hfollows.running, hfollows.hooks, hdemand, hfollows.total, hfollows.done,
            hfollows.machine, hfollows.executed, hfollows.views⟩, hprocessed⟩
      | _ => exact absurd hdemand id

lemma follows_meetAll {i : Nat} : ∀ (demands : List Demand) {s : Scheduler},
    FollowsAt start program attached before i s → (∀ demand ∈ demands, demand.IsHarmless) →
      FollowsAt start program attached before i (demands.foldl (fun s demand => demand.meet s) s)
  | [], _, h, _ => h
  | demand :: rest, _, h, hdemands =>
      follows_meetAll rest (follows_meet h (hdemands demand (by simp)))
        fun other hother => hdemands other (by simp [hother])

end Demand

/-- Go on with a run turn by turn, after the demands of others before each turn. -/
def carryOn (program : Program) : List (List Demand) → Step Scheduler Advance
  | [] => return .suspended program
  | demands :: rest => do
    modify fun s => demands.foldl (fun s demand => demand.meet s) s
    match ← resume program with
    | .finished result => return .finished result
    | .suspended program => carryOn program rest

/-- Run a program, with the demands of others before each turn but the first. -/
def runAmid (source : Text) (others : List (List Demand)) : Step Scheduler (Option Advance) := do
  match ← begin source with
  | some (.suspended program) => return some (← carryOn program others)
  | outcome => return outcome

/-- **To the end.**  Each turn takes a run further, so it ends within as many turns as lines are
left, and one more. -/
theorem carryOn_refines (hr : attached.Recording) : ∀ (others : List (List Demand)) {i : Nat}
    {s : Scheduler}, (∀ demands ∈ others, ∀ demand ∈ demands, demand.IsHarmless) →
      i ≤ program.size → program.size - i < others.length →
      FollowsAt start program attached before i s →
        Turns program (fun _ => False) (Refines start program attached before)
          (carryOn program others s)
  | [], _, _, _, _, hlength, _ => absurd hlength (Nat.not_lt_zero _)
  | demands :: rest, i, s, hothers, hi, hlength, h => by
      have hmet := Demand.follows_meetAll demands h (hothers demands (by simp))
      have hturn := resume_follows hr hi hmet
      simp only [carryOn, Step.bind_apply, Step.modify_apply]
      cases ht : resume program (demands.foldl (fun s demand => demand.meet s) s) with
      | error e t =>
          rw [ht] at hturn
          exact hturn
      | ok a t =>
          rw [ht] at hturn
          cases a with
          | finished r => exact hturn
          | suspended p =>
              obtain ⟨hp, j, hij, hj, hfollows⟩ := hturn
              rw [List.length_cons] at hlength
              rw [hp]
              exact carryOn_refines hr rest (fun ds hds => hothers ds (by simp [hds])) hj (by omega)
                hfollows

def Ends (post : Except Error RunResult → Scheduler → Prop) :
    EStateM.Result Error Scheduler (Option Advance) → Prop
  | .ok (some (.finished result)) t => post (.ok result) t
  | .error e t => post (.error e) t
  | _ => False

/-- What is said of the end of a run that is over is said of its outcome and of the last state. -/
lemma outcome_of_ends {post : Except Error RunResult → Scheduler → Prop}
    {run : Step Scheduler (Option Advance)} {s : Scheduler} (h : Ends post (run s)) :
    ∃ outcome, post outcome (Step.final run s) ∧
      Step.outcome run s = outcome.map fun result => some (.finished result) := by
  rw [Step.final, Step.outcome]
  cases hr : run s with
  | error e t =>
      rw [hr] at h
      exact ⟨.error e, h, rfl⟩
  | ok a? t =>
      rw [hr] at h
      cases a? with
      | none => exact absurd h id
      | some a =>
          cases a with
          | suspended program => exact absurd h id
          | finished result => exact ⟨.ok result, h, rfl⟩

/-- A run of a scheduler at rest goes to its end, and ends as plain interpretation does. -/
lemma runAmid_refines {s : Scheduler} (hidle : s.isBusy = false) (hhooks : s.hooks.Recording)
    (hsize : 1 ≤ s.batchSize) (source : Text) {others : List (List Demand)}
    (hothers : ∀ demands ∈ others, ∀ demand ∈ demands, demand.IsHarmless)
    (hlength : (Text.lines source).length ≤ others.length) :
    Ends (Refines s.machine.reset (Program.load source) s.hooks
      (s.views ++ s.hooks.sees [s.machine.reset.view])) (runAmid source others s) := by
  have hlines : (Program.load source).size = (Text.lines source).length := by
    simp [Program.load, Program.ofLines, Program.size]
  have hfirst := begin_follows source hhooks hsize
  simp only [runAmid, Step.bind_apply, begin_of_idle source hidle]
  cases ht : turn (firstTurn source) (s.enter .running) with
  | error e t =>
      rw [ht] at hfirst
      exact hfirst
  | ok a t =>
      rw [ht] at hfirst
      cases a with
      | finished r => exact hfirst
      | suspended p =>
          obtain ⟨rfl, j, hj, hjn, hfollows⟩ := hfirst
          have hend := carryOn_refines hhooks others hothers hjn (by omega) hfollows
          simp only [Step.bind_apply]
          cases hc : carryOn (Program.load source) others t with
          | error e u =>
              rw [hc] at hend
              exact hend
          | ok a u =>
              rw [hc] at hend
              cases a with
              | finished r => exact hend
              | suspended p => exact absurd hend.2 id

/-- **A run refines plain interpretation.**  Whatever a scheduler at rest has been through, a run on
it ends as the interpretation of its lines from a machine that is reset first: with the same
registers, flags and cells, the same account or the same error, and the same snapshots.  Neither the
batches nor what came before are in the result, and any machine with memory of the same size can be
interpreted on. -/
theorem run_refines_interpretation {s : Scheduler} (hidle : s.isBusy = false)
    (hhooks : s.hooks.Recording) (hsize : 1 ≤ s.batchSize)
    (hunwatched : s.machine.memory.subscribed = []) (source : Text) (others : List (List Demand))
    (hothers : ∀ demands ∈ others, ∀ demand ∈ demands, demand.IsHarmless)
    (hlength : (Text.lines source).length ≤ others.length) {m : Machine}
    (hm : m.memory.subscribed = []) (hcells : m.memory.cells.size = s.machine.memory.cells.size) :
    let i := m.interpret (Text.lines source)
    let t := Step.final (runAmid source others) s
    Step.outcome (runAmid source others) s =
        (i.answer (Program.load source)).map (fun result => some (.finished result)) ∧
      t.machine.view = i.machine.view ∧ t.views = s.views ++ s.hooks.sees i.shown := by
  intro i t
  obtain ⟨outcome, hrefines, houtcome⟩ :=
    outcome_of_ends (runAmid_refines hidle hhooks hsize source hothers hlength)
  obtain ⟨hanswer, hview, hviews⟩ := refines_interpret hrefines hunwatched hm hcells
  exact ⟨by rw [houtcome, hanswer], hview, hviews⟩

/-- A scheduler that has failed, on a machine in use, whose hook for progress makes each batch
longer. -/
def worn : Scheduler where
  runState := .haltedError
  executed := 3
  processed := 7
  total := 9
  machine := (Machine.initial 16).put .ax 5
  batchSize := 1
  hooks :=
    { state := some fun _ _ => []
      progress := some fun count _ => [.control (.setBatchSize (count + 2))]
      failure := none }

lemma recording_worn : worn.hooks.Recording := by
  intro kind hook hk count event a ha
  cases kind with
  | state => cases hk; cases ha
  | progress =>
      cases hk
      obtain rfl := List.mem_singleton.1 ha
      show (1 : Int) ≤ count + 2
      omega
  | failure => cases hk

/-- Two lines that are carried out, and one that fails: there is no word on the stack. -/
def thirdFails : Text :=
  ['m', 'u', 'l', ' ', 'a', 'x', '\n', 'm', 'u', 'l', ' ', 'b', 'x', '\n', 'p', 'o', 'p', ' ', 'a', 'x']

/-- The run waits behind its first line, where another run is asked for and the batch size is set
back to one, and behind its second, where a reset is asked for.  Then it fails. -/
theorem run_of_worn_refines_interpretation :
    let waiting := Step.final (runAmid thirdFails [[.run ['p'], .control (.setBatchSize 1)]]) worn
    (waiting.isBusy = true ∧ waiting.processed = 2) ∧
      Step.outcome (runAmid thirdFails
          [[.run ['p'], .control (.setBatchSize 1)], [.control .reset], []]) worn =
        (((Machine.initial 16).interpret (Text.lines thirdFails)).answer
          (Program.load thirdFails)).map fun result => some (.finished result) := by
  intro waiting
  refine ⟨by decide +kernel, ?_⟩
  exact (run_refines_interpretation (s := worn) rfl recording_worn (by decide) rfl thirdFails
    [[.run ['p'], .control (.setBatchSize 1)], [.control .reset], []]
    (by simp [Demand.IsHarmless]) (by decide +kernel) (m := Machine.initial 16) rfl rfl).1

end Scheduler
end Asm16
