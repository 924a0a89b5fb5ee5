import Asm16.Proofs.Run.Turn

/-!
# The course of a run among courteous hooks

What a run does between two of its suspensions, whatever courteous hooks are attached.  The
invariant is `OnCourse`: the run is in progress, and machine and count of instructions are those of
plain interpretation of the first lines.

* `runLine_onCourse` — a line keeps the invariant, unless the run ends in it.
* `proceed_onCourse` — a turn ends at the next suspension with the invariant, or with the run over.
* `opening_onCourse`, `firstTurn_onCourse` — the first turn, which sets the invariant up.
* `begin_onCourse`, `resume_onCourse` — the same of turns with the way out of the run (`Left`).

In each of them `Kept` says what is untouched on every way out, and that the snapshots published
while the run is in progress show the machine of plain interpretation (`Event.OfCourse`).
-/

namespace Asm16

/-- If the event is a snapshot of a run in progress, it shows the machine as plain interpretation of
some first lines leaves it. -/
def Event.OfCourse (start : Machine) (lines : List Text) : Event → Prop
  | .state snapshot cells standing => standing.runState.isBusy = true →
      ∃ i ≤ lines.length, (start.upTo lines i).ending = .done ∧
        (snapshot, cells) = (start.upTo lines i).machine.view
  | _ => True

lemma Event.IsResting.ofCourse {e : Event} (h : e.IsResting) (start : Machine) (lines : List Text) :
    e.OfCourse start lines := by
  cases e with
  | state snapshot cells standing =>
      intro hb
      have h' : standing.runState.isBusy = false := h
      rw [h'] at hb
      cases hb
  | _ => trivial

namespace Scheduler

variable {start : Machine} {program : Program}

/-! ## The invariant -/

/-- A run that began with the machine `start` has carried out its first `i` lines, one after the
other and each once, and is in progress. -/
structure OnCourse (start : Machine) (program : Program) (i : Nat) (s : Scheduler) : Prop where
  busy : s.isBusy = true
  courteous : s.hooks.Courteous
  total : s.total = program.size
  done : (start.upTo program.lines.toList i).ending = .done
  machine : s.machine = (start.upTo program.lines.toList i).machine
  executed : s.executed = (start.upTo program.lines.toList i).executed

/-- The machine and the counters are those of the first `count` lines, carried out one after the
other and each once. -/
structure AtLine (start : Machine) (lines : List Text) (count : Nat) (s : Scheduler) : Prop where
  total : s.total = lines.length
  processed : s.processed = count
  executed : s.executed = (lines.take count).countP holdsInstruction
  done : (start.upTo lines count).ending = .done
  machine : s.machine = (start.upTo lines count).machine

/-- Instructions are counted once each. -/
lemma OnCourse.executed_eq {i : Nat} {s : Scheduler} (h : OnCourse start program i s) :
    s.executed = (program.lines.toList.take i).countP holdsInstruction :=
  h.executed.trans (Machine.executed_interpretFrom _ _ _ h.done)

lemma OnCourse.atLine {i : Nat} {s : Scheduler} (h : OnCourse start program i s)
    (hprocessed : s.processed = i) : AtLine start program.lines.toList i s where
  total := h.total
  processed := hprocessed
  executed := h.executed_eq
  done := h.done
  machine := h.machine

/-- What is kept from one suspension of a run to the next, or to its end. -/
structure Kept (P : Event → Prop) (s t : Scheduler) : Prop where
  batchSize : t.batchSize = s.batchSize
  lastResult : t.lastResult = s.lastResult
  hooks : t.hooks.Within s.hooks
  told : Tells P s t

variable {P : Event → Prop}

lemma Kept.refl (s : Scheduler) : Kept P s s := ⟨rfl, rfl, .refl _, .refl s⟩

lemma Kept.trans {a b c : Scheduler} (hab : Kept P a b) (hbc : Kept P b c) : Kept P a c where
  batchSize := hbc.batchSize.trans hab.batchSize
  lastResult := hbc.lastResult.trans hab.lastResult
  hooks := hbc.hooks.trans hab.hooks
  told := hab.told.trans hbc.told

lemma Steered.kept {s t : Scheduler} (h : Steered P s t) : Kept P s t :=
  ⟨h.batchSize, h.lastResult, h.hooks, h.told⟩

lemma Rested.kept {s t : Scheduler} (h : Rested s t) (lines : List Text) :
    Kept (Event.OfCourse start lines) s t :=
  ⟨h.batchSize, h.lastResult, h.hooks, h.told.mono fun _ he => he.ofCourse start lines⟩

lemma Carried.kept (hP : ∀ n, P (.notice n)) {s t : Scheduler} (h : Carried s t) : Kept P s t := by
  obtain ⟨notices, hnotices⟩ := h.told
  refine ⟨h.batchSize, h.lastResult, by rw [h.hooks]; exact .refl _, _, hnotices, ?_⟩
  intro e he
  obtain ⟨n, -, rfl⟩ := List.mem_map.1 he
  exact hP n

/-- Hooks do not divert a run from its course. -/
lemma OnCourse.steered {i : Nat} {s t : Scheduler} (h : OnCourse start program i s)
    (ht : Steered P s t) : OnCourse start program i t where
  busy := ht.isBusy h.busy
  courteous := h.courteous.of_within ht.hooks
  total := ht.total.trans h.total
  done := h.done
  machine := ht.machine.trans h.machine
  executed := ht.executed.trans h.executed

/-- What is published on course is of the course. -/
lemma OnCourse.ofCourse {i : Nat} {s : Scheduler} (h : OnCourse start program i s)
    (hi : i ≤ program.size) :
    Event.OfCourse start program.lines.toList
      (.state s.machine.snapshot s.machine.memory.cells s.toStanding) := by
  intro _
  exact ⟨i, by simpa [Program.size] using hi, h.done, by rw [← h.machine]; rfl⟩

/-! ## A failure -/

/-- A failed line ends the run, and courteous hooks cannot begin another one. -/
lemma rested_fail (program : Program) (failure : Failure) {s : Scheduler} (hc : s.hooks.Courteous) :
    Rested s (Step.final (fail program failure) s) := by
  set s' := (s.write (s.failureLog failure)).enter .haltedError with hs'
  have henter : Rested s s' := rested_enter rfl _ s
  have hpublish := rested_publishWithin nestingLimit s' henter.idle (hc.of_within henter.hooks)
  have hfail : Step.final (fail program failure) s =
      Step.final (do
        publish
        callHook publish .failure (.failure failure.line failure.fault.message)
        return (← get).result program .failed (some failure) : Step Scheduler RunResult) s' := rfl
  rw [hfail]
  refine henter.trans (Step.rel_final_bind (P := Rested) Rested.trans hpublish fun _ t ht => ?_)
  have hpublished : Rested s' t := by
    rw [← Step.final_of_ok ht]
    exact hpublish
  have hhook := rested_callHook (rested_publishWithin nestingLimit)
    (.failure failure.line failure.fault.message) trivial .failure hpublished.idle
    (hc.of_within (hpublished.hooks.trans henter.hooks))
  refine Step.rel_final_bind (P := Rested) Rested.trans hhook fun _ t' ht' => ?_
  rw [← Step.final_of_ok ht']
  exact .refl hhook.idle

/-! ## A line -/

/-- What is said of the end of a run before the run is left. -/
def Over (P : Event → Prop) (s : Scheduler) : Except Error RunResult → Scheduler → Prop
  | .ok _, t => t.isBusy = false ∧ Kept P s t
  | .error _, t => Kept P s t

/-- What hooks are called for on course goes on from there, or it ends the run. -/
lemma OnCourse.goesOn {P : Event → Prop} {i : Nat} {s₀ s : Scheduler} {step : Step Scheduler Unit}
    (h : OnCourse start program i s) (hkept : Kept P s₀ s) (hsteered : Steered P s (Step.final step s)) :
    GoesOn (fun t => OnCourse start program i t ∧ t.processed = s.processed ∧ Kept P s₀ t) (Over P s₀)
      ((do step; return none : Step Scheduler (Option RunResult)) s) := by
  rw [Step.bind_apply]
  cases hs : step s with
  | ok u t =>
      rw [Step.final_of_ok hs] at hsteered
      exact ⟨h.steered hsteered, hsteered.processed, hkept.trans hsteered.kept⟩
  | error e t =>
      rw [Step.final_of_error hs] at hsteered
      exact hkept.trans hsteered.kept

/-- **One line keeps a run on its course**, unless the run ends there. -/
theorem runLine_onCourse {i : Nat} (hi : i < program.size) {s₀ s : Scheduler}
    (h : OnCourse start program i s)
    (hkept₀ : Kept (Event.OfCourse start program.lines.toList) s₀ s) :
    GoesOn
      (fun t => OnCourse start program (i + 1) t ∧
        Kept (Event.OfCourse start program.lines.toList) s₀ t)
      (Over (Event.OfCourse start program.lines.toList) s₀) (runLine program i s) := by
  have hline : program.lines[i]? = some program.lines[i] := Array.getElem?_eq_getElem hi
  have hupTo := Machine.upTo_succ (m := start) (by simpa using hline) h.done
  rw [← h.machine] at hupTo
  obtain ⟨s', hcarried, hmachine, hcases⟩ := runLine_cases hline s
  have hkept : Kept (Event.OfCourse start program.lines.toList) s₀ s' :=
    hkept₀.trans (hcarried.kept fun _ => trivial)
  have hstanding := hcarried.standing
  -- the first two cases stay on course, with the count raised by `n`
  have honCourse : ∀ n shown, s.machine.interpretLine i program.lines[i] =
      { machine := s'.machine, executed := n, shown := shown } →
      OnCourse start program (i + 1) { s' with executed := s.executed + n } := by
    intro n shown hn
    rw [hn] at hupTo
    refine ⟨?_, ?_, ?_, ?_, ?_, ?_⟩
    · have : s'.isBusy = s.isBusy := by rw [isBusy, isBusy, hstanding]
      exact this.trans h.busy
    · exact hcarried.hooks ▸ h.courteous
    · exact (congrArg Standing.total hstanding).trans h.total
    · rw [hupTo]; rfl
    · rw [hupTo]; rfl
    · rw [hupTo, Interpretation.followedBy_executed, ← h.executed]
  rcases hcases with ⟨hone, hrun⟩ | ⟨hone, hrun⟩ | ⟨fault, hone, hrun⟩ | ⟨e, hone, hrun⟩
  · have hs' : { s' with executed := s.executed + 0 } = s' := by
      rw [Nat.add_zero, ← congrArg Standing.executed hstanding]
    rw [hrun]
    exact ⟨hs' ▸ honCourse 0 [] hone, hkept⟩
  · have hcourse := honCourse 1 _ hone
    set counted := { s' with executed := s.executed + 1 } with hcounted
    have hkept' : Kept (Event.OfCourse start program.lines.toList) s₀ counted :=
      hkept.trans ⟨rfl, rfl, .refl _, .of_told_eq rfl⟩
    have hsteered := steered_publish (P := Event.OfCourse start program.lines.toList) trivial
      (hcourse.ofCourse hi) hcourse.busy hcourse.courteous
    rw [hrun]
    exact (hcourse.goesOn hkept' hsteered).mono fun t ht => ⟨ht.1, ht.2.2⟩
  · set patched := { s' with processed := (i : Int) } with hpatched
    have hkept' : Kept (Event.OfCourse start program.lines.toList) s₀ patched :=
      hkept.trans ⟨rfl, rfl, .refl _, .of_told_eq rfl⟩
    have hrested := rested_fail program ⟨i + 1, fault⟩ (s := patched)
      (hcarried.hooks ▸ h.courteous)
    rw [hrun, Step.bind_apply]
    cases hf : fail program ⟨i + 1, fault⟩ patched with
    | ok r t =>
        rw [Step.final_of_ok hf] at hrested
        exact ⟨hrested.idle, hkept'.trans (hrested.kept _)⟩
    | error e t =>
        rw [Step.final_of_error hf] at hrested
        exact hkept'.trans (hrested.kept _)
  · rw [hrun]
    exact hkept

/-! ## A turn -/

/-- The run waits on its course at line `j`. -/
def WaitsAt (start : Machine) (program : Program) (j : Nat) (s t : Scheduler) : Prop :=
  OnCourse start program j t ∧ t.processed = j ∧
    Kept (Event.OfCourse start program.lines.toList) s t

/-- **A turn keeps a run on its course**: it ends one batch further, unless the run ends in it. -/
theorem proceed_onCourse {i : Nat} {s₀ s : Scheduler} (h : OnCourse start program i s)
    (hprocessed : s.processed = i) (hi : i ≤ program.size) (hsize : 1 ≤ s.batchSize)
    (hkept : Kept (Event.OfCourse start program.lines.toList) s₀ s) :
    Turns program (WaitsAt start program (batchEnd program s.batchSize i) s₀)
      (Over (Event.OfCourse start program.lines.toList) s₀) (proceed program s) := by
  refine proceed_rule (fun k t => OnCourse start program k t ∧
    Kept (Event.OfCourse start program.lines.toList) s₀ t) rfl hprocessed h.total hi hsize ⟨h, hkept⟩
    (fun k hk t ht => runLine_onCourse hk ht.1 ht.2) ?progress ?cancelled ?completed
  case progress =>
    rintro - t ⟨hcourse, hkept⟩
    set j := batchEnd program s.batchSize i
    set counted := { t with processed := (j : Int) } with hcounted
    have hcourse' : OnCourse start program j counted :=
      ⟨hcourse.busy, hcourse.courteous, hcourse.total, hcourse.done, hcourse.machine,
        hcourse.executed⟩
    have hkept' : Kept (Event.OfCourse start program.lines.toList) s₀ counted :=
      hkept.trans ⟨rfl, rfl, .refl _, .of_told_eq rfl⟩
    have hsteered := steered_callHook (P := Event.OfCourse start program.lines.toList)
      trivial (.progress j t.total) trivial publish .progress hcourse'.busy
      hcourse'.courteous
    exact hcourse'.goesOn hkept' hsteered
  case cancelled =>
    intro _
    have hrested := rested_enter (r := .idle) rfl s.cancelledEntries s
    exact ⟨hrested.idle, hkept.trans (hrested.kept _)⟩
  case completed =>
    intro _ _
    have hrested := rested_enter (r := .haltedOk) rfl s.completedEntries s
    exact ⟨hrested.idle, hkept.trans (hrested.kept _)⟩

/-- **A run that opens is set on its course**, from the machine it resets. -/
theorem opening_onCourse (source : Text) {s₀ s : Scheduler} (hb : s.isBusy = true)
    (hc : s.hooks.Courteous)
    (hkept₀ : Kept (Event.OfCourse s.machine.reset (Text.lines source)) s₀ s) :
    match opening source s with
    | .ok program t =>
      program = Program.load source ∧ WaitsAt s.machine.reset (Program.load source) 0 s₀ t
    | .error _ t => Kept (Event.OfCourse s.machine.reset (Text.lines source)) s₀ t := by
  set fresh := { s with machine := s.machine.reset } with hfresh
  have hkept : Kept (Event.OfCourse s.machine.reset (Text.lines source)) s₀ fresh :=
    hkept₀.trans ⟨rfl, rfl, .refl _, .of_told_eq rfl⟩
  have hevent : Event.OfCourse s.machine.reset (Text.lines source)
      (.state fresh.machine.snapshot fresh.machine.memory.cells fresh.toStanding) :=
    fun _ => ⟨0, Nat.zero_le _, rfl, rfl⟩
  have hsteered := steered_publish (s := fresh) trivial hevent hb hc
  rw [opening_apply]
  cases hp : publish fresh with
  | error e t =>
      rw [Step.final_of_error hp] at hsteered
      exact hkept.trans hsteered.kept
  | ok u t =>
      rw [Step.final_of_ok hp] at hsteered
      set loaded := { t.write (loadEntries source) with
        executed := 0, processed := 0, total := (Program.load source).size } with hloaded
      have hcourse : OnCourse s.machine.reset (Program.load source) 0 loaded :=
        ⟨hsteered.isBusy hb, hc.of_within hsteered.hooks, rfl, rfl, hsteered.machine, rfl⟩
      have hload : Kept (Event.OfCourse s.machine.reset (Text.lines source)) t loaded :=
        ⟨rfl, rfl, .refl _, .of_told_eq rfl⟩
      exact ⟨rfl, hcourse, rfl, hkept.trans (hsteered.kept.trans hload)⟩

/-- **The first turn of a run** ends at its first suspension, unless the run ends in it. -/
theorem firstTurn_onCourse (source : Text) {s₀ s : Scheduler} (hb : s.isBusy = true)
    (hc : s.hooks.Courteous) (hsize : 1 ≤ s.batchSize)
    (hkept₀ : Kept (Event.OfCourse s.machine.reset (Text.lines source)) s₀ s) :
    Turns (Program.load source)
      (WaitsAt s.machine.reset (Program.load source)
        (batchEnd (Program.load source) s.batchSize 0) s₀)
      (Over (Event.OfCourse s.machine.reset (Text.lines source)) s₀) (firstTurn source s) := by
  have hopening := opening_onCourse source hb hc hkept₀
  rw [firstTurn_eq, Step.bind_apply]
  cases ho : opening source s with
  | error e t =>
      rw [ho] at hopening
      exact hopening
  | ok program t =>
      rw [ho] at hopening
      obtain ⟨rfl, hcourse, hprocessed, hkept⟩ := hopening
      have hbatch : t.batchSize = s.batchSize := hkept.batchSize.trans hkept₀.batchSize.symm
      rw [← hbatch]
      exact proceed_onCourse hcourse hprocessed (Nat.zero_le _) (hbatch ▸ hsize) hkept

/-! ## Beginning and going on -/

lemma kept_enter (r : RunState) (s : Scheduler) : Kept P s (s.enter r) := by
  rw [enter_eq]
  exact ⟨rfl, rfl, .refl _, .of_told_eq rfl⟩

lemma kept_release (s : Scheduler) : Kept P s s.release := by
  rw [release]
  split_ifs
  · exact kept_enter _ s
  · exact .refl s

/-- What is said of the end of a run once the run is left: others can begin one, and the account of
this one is kept if it has one. -/
def Left (P : Event → Prop) (s : Scheduler) : Except Error RunResult → Scheduler → Prop
  | .ok r, t => t.isBusy = false ∧ t.batchSize = s.batchSize ∧ t.lastResult = some r ∧
      t.hooks.Within s.hooks ∧ Tells P s t
  | .error _, t => t.isBusy = false ∧ Kept P s t

lemma left_leave {s : Scheduler} :
    ∀ outcome t, Over P s outcome t →
      Left P s (outcome.mapError Error.outOfRun) (leave outcome t)
  | .ok r, t, h => by
      have hkept := h.2.trans (kept_release t)
      exact ⟨isBusy_release t, hkept.batchSize, rfl, hkept.hooks, hkept.told⟩
  | .error e, t, h => ⟨isBusy_release t, Kept.trans h (kept_release t)⟩

/-- **A run that is accepted** is on its course at the end of its first batch, or over. -/
theorem begin_onCourse (source : Text) {s : Scheduler} (hc : s.hooks.Courteous)
    (hsize : 1 ≤ s.batchSize) :
    Turns (Program.load source)
      (WaitsAt s.machine.reset (Program.load source)
        (batchEnd (Program.load source) s.batchSize 0) s)
      (Left (Event.OfCourse s.machine.reset (Text.lines source)) s)
      (turn (firstTurn source) (s.enter .running)) := by
  have hkept : Kept (Event.OfCourse s.machine.reset (Text.lines source)) s (s.enter .running) :=
    kept_enter _ s
  have hmachine : (s.enter .running).machine = s.machine := by rw [enter_eq]
  rw [← hmachine] at hkept ⊢
  rw [← hkept.batchSize] at hsize ⊢
  exact turn_rule (firstTurn_onCourse source (by rw [isBusy, runState_enter]; rfl)
    (hc.of_within hkept.hooks) hsize hkept) left_leave

/-- **A run that goes on** is on its course one batch further, or over. -/
theorem resume_onCourse {i : Nat} {s : Scheduler} (h : OnCourse start program i s)
    (hprocessed : s.processed = i) (hi : i ≤ program.size) (hsize : 1 ≤ s.batchSize) :
    Turns program (WaitsAt start program (batchEnd program s.batchSize i) s)
      (Left (Event.OfCourse start program.lines.toList) s) (resume program s) :=
  turn_rule (proceed_onCourse h hprocessed hi hsize (.refl s)) left_leave

end Scheduler
end Asm16
