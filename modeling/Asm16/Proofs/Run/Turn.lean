import Asm16.Proofs.Run.Line

/-!
# Turns of a run

What batches and turns consist of, and the rules for reasoning about them.

* `GoesOn`, `Turns` — where lines of a run lead, and where a turn of it leads: on, with an
  invariant, or to the end of the run, with its account or with an error.
* `runLines_rule`, `runBatch_rule`, `proceed_rule` — what one line does to an invariant decides what
  a batch and what a turn do to it.
* `turn_rule` — what is done on the way out of a run.
* `Throughout` — a property that each part of a run keeps is kept by each of its turns.

A statement about runs chooses an invariant, which is indexed by the number of lines carried out,
and what it wants to say of the end of the run; then it looks at one line.
-/

namespace Asm16

open Step (Keeps)

namespace Scheduler

/-! ## Lines in a row -/

lemma indexes_of_le {i j : Int} (h : j ≤ i) : indexes i j = [] := by
  rw [indexes, Int.toNat_eq_zero.2 (by omega)]
  rfl

lemma indexes_cons {i j : Int} (h : i < j) : indexes i j = i :: indexes (i + 1) j := by
  have hij : (j - i).toNat = (j - (i + 1)).toNat + 1 := by omega
  rw [indexes, hij, List.range_succ_eq_map, List.map_cons, List.map_map]
  refine List.cons_eq_cons.2 ⟨by omega, List.map_congr_left fun k _ => ?_⟩
  simp only [Function.comp_apply]
  omega

@[simp] lemma runLines_nil (program : Program) (s : Scheduler) :
    runLines program [] s = .ok none s := rfl

/-- A line, then the lines behind it if the run has not ended. -/
lemma runLines_cons (program : Program) (i : Int) (rest : List Int) (s : Scheduler) :
    runLines program (i :: rest) s =
      match runLine program i s with
      | .ok none t => runLines program rest t
      | outcome => outcome := by
  simp only [runLines, Step.bind_apply]
  cases runLine program i s with
  | ok r? t => cases r? <;> rfl
  | error e t => rfl

/-! ## The parts of a turn -/

lemma fail_apply (program : Program) (failure : Failure) (s : Scheduler) :
    fail program failure s =
      (do
        publish
        callHook publish .failure (.failure failure.line failure.fault.message)
        return (← get).result program .failed (some failure) : Step Scheduler RunResult)
        ((s.write (s.failureLog failure)).enter .haltedError) := rfl

def cancelledEntries (s : Scheduler) : Log :=
  [⟨.info, text "Run cancelled after " ++ decimal s.executed ++ text " instructions"⟩]

def completedEntries (s : Scheduler) : Log :=
  [⟨.info, text "Run completed: " ++ decimal s.executed ++ text " instructions executed"⟩,
   ⟨.debug, text "Final registers:\n" ++ s.machine.dump⟩]

lemma finishCancelled_apply (program : Program) (s : Scheduler) :
    finishCancelled program s =
      .ok (s.result program .cancelled none) ((s.write s.cancelledEntries).enter .idle) := by
  simp only [finishCancelled, Step.bind_apply, Step.modify_apply, Step.get_apply, Step.pure_apply,
    enter_eq]
  rfl

lemma finishCompleted_apply (program : Program) (s : Scheduler) :
    finishCompleted program s =
      .ok (s.result program .completed none) ((s.write s.completedEntries).enter .haltedOk) := by
  simp only [finishCompleted, Step.bind_apply, Step.modify_apply, Step.get_apply, Step.pure_apply,
    enter_eq]
  rfl

/-- A batch: the lines up to its end, then the report of progress. -/
lemma runBatch_apply (program : Program) (s : Scheduler) :
    runBatch program s =
      match runLines program
          (indexes s.processed (min (s.processed + s.batchSize) s.total)) s with
      | .ok none t =>
        (do
          callHook publish .progress (.progress (min (s.processed + s.batchSize) s.total) t.total)
          return none : Step Scheduler (Option RunResult))
          { t with processed := min (s.processed + s.batchSize) s.total }
      | outcome => outcome := by
  simp only [runBatch, Step.bind_apply, Step.get_apply]
  cases runLines program (indexes s.processed (min (s.processed + s.batchSize) s.total)) s with
  | ok r? t =>
      cases r? <;>
        simp only [Step.bind_apply, Step.modify_apply, Step.get_apply, Step.pure_apply]
  | error e t => rfl

def loadEntries (source : Text) : Log :=
  Program.loadLog (Text.lines source) ++
    [⟨.info, text "Run started: " ++ decimal (Program.load source).size ++ text " lines, " ++
      decimal (Program.load source).labels.length ++ text " labels"⟩]

lemma load_apply (source : Text) (s : Scheduler) :
    load source s =
      .ok (Program.load source)
        { s.write (loadEntries source) with
          executed := 0, processed := 0, total := (Program.load source).size } := rfl

/-- A turn of a run carries out a batch if lines are left and nobody asked the run to stop. -/
lemma proceed_apply (program : Program) (s : Scheduler) :
    proceed program s =
      if s.processed < s.total ∧ s.runState = .running then
        match runBatch program s with
        | .ok (some result) t => .ok (.finished result) t
        | .ok none t => .ok (.suspended program) t
        | .error e t => .error e t
      else if s.runState = .stopping then
        .ok (.finished (s.result program .cancelled none))
          ((s.write s.cancelledEntries).enter .idle)
      else
        .ok (.finished (s.result program .completed none))
          ((s.write s.completedEntries).enter .haltedOk) := by
  simp only [proceed, Step.bind_apply, Step.get_apply, Bool.and_eq_true, decide_eq_true_eq,
    beq_iff_eq]
  split_ifs
  · rw [Step.bind_apply]
    cases runBatch program s with
    | ok r? t => cases r? <;> rfl
    | error e t => rfl
  · rw [Step.bind_apply, finishCancelled_apply]; rfl
  · rw [Step.bind_apply, finishCompleted_apply]; rfl

/-- A run up to its loop: the machine is reset and published, then the program is loaded. -/
def opening (source : Text) : Step Scheduler Program := do
  modify fun s => { s with machine := s.machine.reset }
  publish
  load source

lemma firstTurn_eq (source : Text) : firstTurn source = opening source >>= proceed := by
  simp only [firstTurn, opening, bind_assoc]

lemma opening_apply (source : Text) (s : Scheduler) :
    opening source s =
      match publish { s with machine := s.machine.reset } with
      | .ok () t =>
        .ok (Program.load source)
          { t.write (loadEntries source) with
            executed := 0, processed := 0, total := (Program.load source).size }
      | .error e t => .error e t := by
  simp only [opening, Step.bind_apply, Step.modify_apply, load_apply]
  cases publish { s with machine := s.machine.reset } <;> rfl

/-- The first turn: a run is opened, and then its loop is entered. -/
lemma firstTurn_apply (source : Text) (s : Scheduler) :
    firstTurn source s =
      match publish { s with machine := s.machine.reset } with
      | .ok () t =>
        proceed (Program.load source)
          { t.write (loadEntries source) with
            executed := 0, processed := 0, total := (Program.load source).size }
      | .error e t => .error e t := by
  rw [firstTurn_eq, Step.bind_apply, opening_apply]
  cases publish { s with machine := s.machine.reset } <;> rfl

/-! ## Beginning and leaving -/

def rejectedEntries : Log := [⟨.warning, text "Run rejected: a program is already running"⟩]

/-- A run is rejected while another is in progress, and nothing but a warning is left of it. -/
lemma begin_of_busy (source : Text) {s : Scheduler} (h : s.isBusy = true) :
    begin source s = .ok none (s.write rejectedEntries) := by
  simp only [begin, Step.bind_apply, Step.get_apply, h, if_true, Step.modify_apply, Step.pure_apply]
  rfl

/-- Without a run in progress a run begins with its first turn. -/
lemma begin_of_idle (source : Text) {s : Scheduler} (h : s.isBusy = false) :
    begin source s =
      match turn (firstTurn source) (s.enter .running) with
      | .ok a t => .ok (some a) t
      | .error e t => .error e t := by
  simp only [begin, Step.bind_apply, Step.get_apply, h, Bool.false_eq_true, if_false,
    Step.modify_apply]
  cases turn (firstTurn source) (s.enter .running) <;> rfl

/-- To leave a run in progress changes the run state and the trail. -/
lemma release_of_busy {s : Scheduler} (h : s.isBusy = true) : s.release = s.enter .idle := by
  rw [release, if_pos h]

lemma release_of_idle {s : Scheduler} (h : s.isBusy = false) : s.release = s := by
  rw [release, h]
  rfl

/-- What is done on the way out of a run: it is released, and its account is kept if there is one.
-/
def leave : Except Error RunResult → Scheduler → Scheduler
  | .ok result, s => { s.release with lastResult := some result }
  | .error _, s => s.release

/-! ## What every part of a run keeps -/

/-- A property that each part of a run keeps: a line that is carried out, a call of a hook, and all
that is done between these, which is to reset the machine or to leave it alone. -/
structure Throughout (P : Scheduler → Prop) : Prop where
  line (line : Text) : Keeps P (executeLine line)
  publish : Keeps P publish
  call (kind : HookKind) (event : Event) : Keeps P (callHook Scheduler.publish kind event)
  between {s t : Scheduler} (h : P s) (hhooks : t.hooks = s.hooks)
    (hlaunched : t.launched = s.launched)
    (hmachine : t.machine = s.machine ∨ t.machine = s.machine.reset) : P t

namespace Throughout

variable {P : Scheduler → Prop} (hP : Throughout P)

include hP

/-- A change of counters, run state and log. -/
lemma change {f : Scheduler → Scheduler} (h : ∀ s, (f s).hooks = s.hooks ∧
    (f s).launched = s.launched ∧ (f s).machine = s.machine) :
    Keeps P (modify f : Step Scheduler PUnit) :=
  .modify fun s hs => hP.between hs (h s).1 (h s).2.1 (.inl (h s).2.2)

lemma enter (r : RunState) (entries : Scheduler → Log) :
    Keeps P (modify fun s => (s.write (entries s)).enter r : Step Scheduler PUnit) := by
  refine hP.change fun s => ?_
  rw [enter_eq]
  exact ⟨rfl, rfl, rfl⟩

lemma fail (program : Program) (failure : Failure) : Keeps P (fail program failure) :=
  (hP.enter _ fun s => s.failureLog failure).bind fun _ => hP.publish.bind fun _ =>
    (hP.call _ _).bind fun _ => Keeps.get.bind fun _ => .pure _

lemma runLine (program : Program) (i : Int) : Keeps P (runLine program i) := by
  rw [Scheduler.runLine]
  cases program.line? i with
  | none => exact .throw _
  | some line =>
      refine (hP.line line).attempt.bind fun outcome => ?_
      cases outcome with
      | error fault =>
          exact (hP.change fun _ => by exact ⟨rfl, rfl, rfl⟩).bind fun _ =>
            (hP.fail program _).bind fun _ => .pure _
      | ok i? =>
          cases i? with
          | none => exact .pure _
          | some i =>
              exact (hP.change fun _ => by exact ⟨rfl, rfl, rfl⟩).bind fun _ =>
                hP.publish.bind fun _ => .pure _

/-- Lines in a row, by induction on the list of them. -/
lemma runLines (program : Program) : ∀ rows, Keeps P (runLines program rows)
  | [] => .pure _
  | i :: rest => by
      refine (hP.runLine program i).bind fun result? => ?_
      cases result? with
      | some result => exact .pure _
      | none => exact runLines program rest

lemma runBatch (program : Program) : Keeps P (runBatch program) := by
  refine Keeps.get.bind fun s => (hP.runLines program _).bind fun result? => ?_
  cases result? with
  | some result => exact .pure _
  | none =>
      exact (hP.change fun _ => by exact ⟨rfl, rfl, rfl⟩).bind fun _ =>
        Keeps.get.bind fun s => (hP.call _ _).bind fun _ => .pure _

lemma proceed (program : Program) : Keeps P (proceed program) := by
  refine Keeps.get.bind fun s => ?_
  split
  · refine (hP.runBatch program).bind fun result? => ?_
    cases result? <;> exact .pure _
  · split
    · exact ((hP.enter _ fun s => s.cancelledEntries).bind fun _ =>
        Keeps.get.bind fun _ => .pure _).bind fun _ => .pure _
    · exact ((hP.enter _ fun s => s.completedEntries).bind fun _ =>
        Keeps.get.bind fun _ => .pure _).bind fun _ => .pure _

lemma firstTurn (source : Text) : Keeps P (firstTurn source) := by
  refine (Keeps.modify fun s hs => ?_).bind fun _ => hP.publish.bind fun _ => ?_
  · exact hP.between hs rfl rfl (.inr rfl)
  · exact ((hP.change fun _ => by exact ⟨rfl, rfl, rfl⟩).bind fun _ => .pure _).bind hP.proceed

lemma release {s : Scheduler} (h : P s) : P s.release := by
  rw [Scheduler.release]
  split_ifs
  · rw [enter_eq]
    exact hP.between h rfl rfl (.inl rfl)
  · exact h

lemma turn {step : Step Scheduler Advance} (h : Keeps P step) : Keeps P (turn step) := by
  intro s hs
  have hstep := h s hs
  rw [Step.final] at hstep ⊢
  rw [Scheduler.turn]
  cases hr : step s with
  | ok a t =>
      rw [hr] at hstep
      cases a with
      | suspended program => exact hstep
      | finished result => exact hP.between (hP.release hstep) rfl rfl (.inl rfl)
  | error e t =>
      rw [hr] at hstep
      exact hP.release hstep

/-- **The first turn of a run.** -/
lemma begin (source : Text) : Keeps P (begin source) := by
  refine Keeps.get.bind fun s => ?_
  split
  · exact (hP.change fun _ => by exact ⟨rfl, rfl, rfl⟩).bind fun _ => .pure _
  · refine (Keeps.modify fun s hs => ?_).bind fun _ =>
      (hP.turn (hP.firstTurn source)).bind fun _ => .pure _
    rw [enter_eq]
    exact hP.between hs rfl rfl (.inl rfl)

/-- **A further turn of a run.** -/
lemma resume (program : Program) : Keeps P (resume program) := hP.turn (hP.proceed program)

end Throughout

/-! ## Where lines and turns lead -/

/-- Lines of a run lead on, or to the end of the run. -/
def GoesOn (inv : Scheduler → Prop) (post : Except Error RunResult → Scheduler → Prop) :
    EStateM.Result Error Scheduler (Option RunResult) → Prop
  | .ok none t => inv t
  | .ok (some result) t => post (.ok result) t
  | .error e t => post (.error e) t

lemma GoesOn.mono {inv inv' : Scheduler → Prop} {post : Except Error RunResult → Scheduler → Prop}
    {r : EStateM.Result Error Scheduler (Option RunResult)} (h : GoesOn inv post r)
    (hinv : ∀ t, inv t → inv' t) : GoesOn inv' post r := by
  cases r with
  | ok r? t =>
      cases r? with
      | none => exact hinv t h
      | some r => exact h
  | error e t => exact h

/-- A turn of a run leads to its next suspension, or to the end of the run. -/
def Turns (program : Program) (waits : Scheduler → Prop)
    (post : Except Error RunResult → Scheduler → Prop) :
    EStateM.Result Error Scheduler Advance → Prop
  | .ok (.suspended p) t => p = program ∧ waits t
  | .ok (.finished result) t => post (.ok result) t
  | .error e t => post (.error e) t

/-- The line at which a batch that begins at line `i` ends. -/
def batchEnd (program : Program) (size : Int) (i : Nat) : Nat := min (i + size.toNat) program.size

section Rules

variable {program : Program} (inv : Nat → Scheduler → Prop) {waits : Scheduler → Prop}
  {post post' : Except Error RunResult → Scheduler → Prop} {s : Scheduler}

/-- **The rule for lines in a row.** -/
theorem runLines_rule {j : Nat} (hline : ∀ i < j, ∀ s, inv i s →
      GoesOn (inv (i + 1)) post (runLine program i s)) :
    ∀ (n i : Nat) (s : Scheduler), i + n = j → inv i s →
      GoesOn (inv j) post (runLines program (indexes i j) s)
  | 0, i, s, hn, h => by
      have hij : i = j := hn
      subst hij
      rw [indexes_of_le (Int.le_refl _), runLines_nil]
      exact h
  | n + 1, i, s, hn, h => by
      have hlead := hline i (by omega) s h
      rw [indexes_cons (by omega), runLines_cons]
      cases hr : runLine program i s with
      | error e t =>
          rw [hr] at hlead
          exact hlead
      | ok r? t =>
          rw [hr] at hlead
          cases r? with
          | none => exact runLines_rule hline n (i + 1) t (by omega) hlead
          | some r => exact hlead

/-- **The rule for a batch**: its lines, then the report of progress. -/
theorem runBatch_rule {i j : Nat} (hj : j = batchEnd program s.batchSize i)
    (hprocessed : s.processed = i) (htotal : s.total = program.size) (hi : i ≤ program.size)
    (hsize : 1 ≤ s.batchSize) (h : inv i s)
    (hline : ∀ k < program.size, ∀ t, inv k t → GoesOn (inv (k + 1)) post (runLine program k t))
    (hprogress : ∀ t, inv j t →
      GoesOn waits post
        ((do callHook publish .progress (.progress j t.total); return none :
          Step Scheduler (Option RunResult)) { t with processed := j })) :
    GoesOn waits post (runBatch program s) := by
  have hend : min (s.processed + s.batchSize) s.total = (j : Int) := by
    rw [hprocessed, htotal, hj, batchEnd]
    omega
  have hjn : j ≤ program.size := hj ▸ Nat.min_le_right _ _
  have hij : i ≤ j := by rw [hj, batchEnd]; omega
  have hlines := runLines_rule inv (j := j) (fun k hk => hline k (by omega)) (j - i) i s (by omega) h
  rw [runBatch_apply, hend, hprocessed]
  cases hr : runLines program (indexes i j) s with
  | error e t =>
      rw [hr] at hlines
      exact hlines
  | ok r? t =>
      rw [hr] at hlines
      cases r? with
      | none => exact hprogress t hlines
      | some r => exact hlines

/-- **The rule for a turn**: a batch, or the end of the run. -/
theorem proceed_rule {i j : Nat} (hj : j = batchEnd program s.batchSize i)
    (hprocessed : s.processed = i) (htotal : s.total = program.size) (hi : i ≤ program.size)
    (hsize : 1 ≤ s.batchSize) (h : inv i s)
    (hline : ∀ k < program.size, ∀ t, inv k t → GoesOn (inv (k + 1)) post (runLine program k t))
    (hprogress : i < program.size → ∀ t, inv j t →
      GoesOn waits post
        ((do callHook publish .progress (.progress j t.total); return none :
          Step Scheduler (Option RunResult)) { t with processed := j }))
    (hcancelled : s.runState = .stopping →
      post (.ok (s.result program .cancelled none)) ((s.write s.cancelledEntries).enter .idle))
    (hcompleted : s.runState ≠ .stopping → (s.runState = .running → i = program.size) →
      post (.ok (s.result program .completed none)) ((s.write s.completedEntries).enter .haltedOk)) :
    Turns program waits post (proceed program s) := by
  rw [proceed_apply]
  split_ifs with hbatch hstop
  · have hlead := runBatch_rule inv hj hprocessed htotal hi hsize h hline (hprogress (by omega))
    cases hr : runBatch program s with
    | error e t =>
        rw [hr] at hlead
        exact hlead
    | ok r? t =>
        rw [hr] at hlead
        cases r? with
        | none => exact ⟨rfl, hlead⟩
        | some r => exact hlead
  · exact hcancelled hstop
  · refine hcompleted hstop fun hrunning => ?_
    rcases Nat.lt_or_ge i program.size with hlt | hge
    · exact absurd ⟨by omega, hrunning⟩ hbatch
    · omega

/-- **The rule for the way out**: what is said of the end of a run is said of it once it is left,
with the error that comes out of it. -/
theorem turn_rule {step : Step Scheduler Advance} (h : Turns program waits post (step s))
    (hleave : ∀ outcome t, post outcome t →
      post' (outcome.mapError Error.outOfRun) (leave outcome t)) :
    Turns program waits post' (turn step s) := by
  rw [turn]
  cases hs : step s with
  | error e t =>
      rw [hs] at h
      exact hleave _ _ h
  | ok a t =>
      rw [hs] at h
      cases a with
      | suspended p => exact h
      | finished r => exact hleave _ _ h

end Rules

end Scheduler
end Asm16
