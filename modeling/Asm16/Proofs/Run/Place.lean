import Asm16.Proofs.Run.Refinement

/-!
# A run leg by leg

Between two calls of hooks a run has little to do: it decides on the next batch, or it carries out a
line.  Cut at these points, a run is a sequence of legs, and whatever is said of the moment of a
call, or of a request of somebody else, is said of a place between two legs.

* `Place`, `Place.leg` — where a run stands, and what it does from there up to the next place.
* `Place.Passes` — how a leg can end (`passes_of_leg`).
* `remainder_eq` — a turn of a run is the legs in it.
* `Comes` — a run comes to a place, after so many demands of others have been met.
* `Comes.runAmid_eq`, `Comes.exists_closes` — the run goes on from there, and every run ends in a leg
  from some place that it comes to.
-/

namespace Asm16

/-- Where a run stands, and what it has to do next. -/
inductive Place
  /-- The machine was reset; that is to be published. -/
  | opening
  /-- Between two batches. -/
  | pause
  /-- In a batch, before the line `next`; the batch ends before the line `stop`. -/
  | line (next stop : Int)
  deriving DecidableEq

/-- What a leg of a run leads to. -/
inductive Leg
  | onward (place : Place)
  /-- The batch is done and the run waits for its next turn. -/
  | waits
  | ended (result : RunResult)
  deriving DecidableEq

namespace Scheduler

/-! ## Legs -/

/-- Take note of a batch that is done, and report progress. -/
def endBatch (stop : Int) : Step Scheduler Unit := fun s =>
  callHook publish .progress (.progress stop s.total) { s with processed := stop }

end Scheduler

namespace Place

open Scheduler

/-- From a place to the next one, or to the end of the turn or of the run. -/
def leg (source : Text) : Place → Step Scheduler Leg
  | .opening => do
    publish
    let _ ← load source
    return .onward .pause
  | .pause => do
    let s ← get
    if s.processed < s.total ∧ s.runState = .running then
      return .onward (.line s.processed (min (s.processed + s.batchSize) s.total))
    else if s.runState = .stopping then return .ended (← finishCancelled (Program.load source))
    else return .ended (← finishCompleted (Program.load source))
  | .line next stop =>
    if next < stop then do
      match ← runLine (Program.load source) next with
      | none => return .onward (.line (next + 1) stop)
      | some result => return .ended result
    else do
      endBatch stop
      return .waits

/-- All that is left of the turn. -/
def remainder (source : Text) : Place → Step Scheduler Advance
  | .opening => do
    publish
    proceed (← load source)
  | .pause => proceed (Program.load source)
  | .line next stop => do
    match ← runLines (Program.load source) (indexes next stop) with
    | some result => return .finished result
    | none => do
      endBatch stop
      return .suspended (Program.load source)

variable {source : Text} {s t : Scheduler}

lemma leg_opening (source : Text) (s : Scheduler) :
    Place.opening.leg source s =
      match publish s with
      | .ok () t =>
        .ok (.onward .pause)
          { t.write (loadEntries source) with
            executed := 0, processed := 0, total := (Program.load source).size }
      | .error e t => .error e t := by
  simp only [leg, Step.bind_apply, load_apply]
  cases publish s <;> rfl

lemma leg_pause (source : Text) (s : Scheduler) :
    Place.pause.leg source s =
      if s.processed < s.total ∧ s.runState = .running then
        .ok (.onward (.line s.processed (min (s.processed + s.batchSize) s.total))) s
      else if s.runState = .stopping then
        .ok (.ended (s.result (Program.load source) .cancelled none))
          ((s.write s.cancelledEntries).enter .idle)
      else
        .ok (.ended (s.result (Program.load source) .completed none))
          ((s.write s.completedEntries).enter .haltedOk) := by
  simp only [leg, Step.bind_apply, Step.get_apply]
  split_ifs
  · rfl
  · rw [Step.bind_apply, finishCancelled_apply]; rfl
  · rw [Step.bind_apply, finishCompleted_apply]; rfl

lemma leg_line_of_lt {next stop : Int} (h : next < stop) (source : Text) (s : Scheduler) :
    (Place.line next stop).leg source s =
      match runLine (Program.load source) next s with
      | .ok none t => .ok (.onward (.line (next + 1) stop)) t
      | .ok (some result) t => .ok (.ended result) t
      | .error e t => .error e t := by
  simp only [leg, if_pos h, Step.bind_apply]
  cases runLine (Program.load source) next s with
  | ok r? t => cases r? <;> rfl
  | error e t => rfl

lemma leg_line_of_le {next stop : Int} (h : stop ≤ next) (source : Text) (s : Scheduler) :
    (Place.line next stop).leg source s =
      match endBatch stop s with
      | .ok () t => .ok .waits t
      | .error e t => .error e t := by
  simp only [leg, if_neg (Int.not_lt.2 h), Step.bind_apply]
  cases endBatch stop s <;> rfl

/-- Every way in which a leg can end, but for errors. -/
inductive Passes (source : Text) : Place → Scheduler → Leg → Scheduler → Prop
  | opened {s t : Scheduler} (hp : publish s = .ok () t) :
      Passes source .opening s (.onward .pause)
        { t.write (loadEntries source) with
          executed := 0, processed := 0, total := (Program.load source).size }
  | begun {s : Scheduler} (hleft : s.processed < s.total) (hrunning : s.runState = .running) :
      Passes source .pause s
        (.onward (.line s.processed (min (s.processed + s.batchSize) s.total))) s
  | cancelled {s : Scheduler} (hstop : s.runState = .stopping) :
      Passes source .pause s (.ended (s.result (Program.load source) .cancelled none))
        ((s.write s.cancelledEntries).enter .idle)
  | completed {s : Scheduler} (hover : ¬ (s.processed < s.total ∧ s.runState = .running)) :
      Passes source .pause s (.ended (s.result (Program.load source) .completed none))
        ((s.write s.completedEntries).enter .haltedOk)
  | carried {next stop : Int} {s t : Scheduler} (hlt : next < stop)
      (hr : runLine (Program.load source) next s = .ok none t) :
      Passes source (.line next stop) s (.onward (.line (next + 1) stop)) t
  | failed {next stop : Int} {s t : Scheduler} {result : RunResult} (hlt : next < stop)
      (hr : runLine (Program.load source) next s = .ok (some result) t) :
      Passes source (.line next stop) s (.ended result) t
  | batchDone {next stop : Int} {s t : Scheduler} (hle : stop ≤ next)
      (he : endBatch stop s = .ok () t) : Passes source (.line next stop) s .waits t

lemma passes_of_leg {place : Place} {l : Leg} (hleg : place.leg source s = .ok l t) :
    Passes source place s l t := by
  cases place with
  | opening =>
      rw [leg_opening] at hleg
      cases hp : publish s <;> rw [hp] at hleg <;> cases hleg
      exact .opened hp
  | pause =>
      rw [leg_pause] at hleg
      split_ifs at hleg with hleft hstop <;> cases hleg
      · exact .begun hleft.1 hleft.2
      · exact .cancelled hstop
      · exact .completed hleft
  | line next stop =>
      rcases Int.lt_or_le next stop with hlt | hle
      · rw [leg_line_of_lt hlt] at hleg
        split at hleg <;> cases hleg
        · exact .carried hlt ‹_›
        · exact .failed hlt ‹_›
      · rw [leg_line_of_le hle] at hleg
        cases he : endBatch stop s <;> rw [he] at hleg <;> cases hleg
        exact .batchDone hle he

lemma remainder_line (next stop : Int) (source : Text) (s : Scheduler) :
    (Place.line next stop).remainder source s =
      match runLines (Program.load source) (indexes next stop) s with
      | .ok none t =>
        match endBatch stop t with
        | .ok () u => .ok (.suspended (Program.load source)) u
        | .error e u => .error e u
      | .ok (some result) t => .ok (.finished result) t
      | .error e t => .error e t := by
  simp only [remainder, Step.bind_apply]
  cases runLines (Program.load source) (indexes next stop) s with
  | error e t => rfl
  | ok r? t =>
      cases r? with
      | some r => rfl
      | none =>
          simp only [Step.bind_apply]
          cases endBatch stop t <;> rfl

/-- **A turn is made of legs.** -/
theorem remainder_eq (source : Text) : ∀ (place : Place) (s : Scheduler),
    place.remainder source s =
      match place.leg source s with
      | .ok (.onward next) t => next.remainder source t
      | .ok .waits t => .ok (.suspended (Program.load source)) t
      | .ok (.ended result) t => .ok (.finished result) t
      | .error e t => .error e t
  | .opening, s => by
      simp only [leg_opening, remainder, Step.bind_apply, load_apply]
      cases publish s <;> rfl
  | .pause, s => by
      rw [leg_pause, remainder, proceed_apply, runBatch_apply]
      split_ifs
      · simp only [remainder_line, endBatch]
        generalize runLines _ _ s = r
        cases r with
        | error e t => rfl
        | ok r? t =>
            cases r? with
            | some r => rfl
            | none =>
                simp only [Step.bind_apply]
                generalize callHook publish .progress _ _ = r
                cases r <;> rfl
      · rfl
      · rfl
  | .line next stop, s => by
      rcases Int.lt_or_le next stop with h | h
      · rw [leg_line_of_lt h, remainder_line, indexes_cons h, runLines_cons]
        cases runLine (Program.load source) next s with
        | error e t => rfl
        | ok r? t =>
            cases r? with
            | some r => rfl
            | none => exact (remainder_line _ _ _ _).symm
      · rw [leg_line_of_le h, remainder_line, indexes_of_le h, runLines_nil]
        simp only
        cases endBatch stop s <;> rfl

/-- A turn goes through these stages downwards. -/
def stage : Place → Nat
  | .opening => 2
  | .pause => 1
  | .line _ _ => 0

def linesLeft : Place → Nat
  | .line next stop => (stop - next).toNat
  | _ => 0

/-- In a batch a leg that leads onward leads to the next line. -/
lemma line_of_onward {next stop : Int} {place : Place}
    (hleg : (Place.line next stop).leg source s = .ok (.onward place) t) :
    next < stop ∧ place = .line (next + 1) stop := by
  cases passes_of_leg hleg with
  | carried hlt _ => exact ⟨hlt, rfl⟩

/-- A leg leads to a later stage of the turn, or to a later line of the batch. -/
lemma later_of_onward {place next : Place} (hleg : place.leg source s = .ok (.onward next) t) :
    Prod.Lex (· < ·) (· < ·) (next.stage, next.linesLeft) (place.stage, place.linesLeft) := by
  cases passes_of_leg hleg with
  | opened | begun => exact .left _ _ (Nat.lt_succ_self _)
  | carried hlt _ =>
      refine .right _ ?_
      simp only [linesLeft]
      omega

end Place

namespace Scheduler

/-! ## Coming to a place -/

/-- The demands of others, one after the other. -/
def Demand.meetAll (demands : List Demand) (s : Scheduler) : Scheduler :=
  demands.foldl (fun s demand => demand.meet s) s

/-- The rest of a turn, and the turns after it. -/
def goOn (others : List (List Demand)) (turnRest : Step Scheduler Advance) :
    Step Scheduler (Option Advance) := fun s =>
  match turn turnRest s with
  | .ok (.finished result) t => .ok (some (.finished result)) t
  | .ok (.suspended program) t => (some <$> carryOn program others) t
  | .error e t => .error e t

/-- A run of the program from `s` comes to a place, in a state, after the demands of others at its
suspensions so far. -/
inductive Comes (source : Text) (s : Scheduler) : List (List Demand) → Place → Scheduler → Prop
  | accepted : Comes source s [] .opening { s.enter .running with machine := s.machine.reset }
  | onward {met : List (List Demand)} {place next : Place} {t u : Scheduler}
      (h : Comes source s met place t) (hleg : place.leg source t = .ok (.onward next) u) :
      Comes source s met next u
  | resumed {met : List (List Demand)} {place : Place} {t u : Scheduler} (demands : List Demand)
      (h : Comes source s met place t) (hleg : place.leg source t = .ok .waits u) :
      Comes source s (met ++ [demands]) .pause (Demand.meetAll demands u)

/-- A run ends in the leg from a place, or no turn is left for it. -/
inductive Closes (source : Text) (place : Place) (t : Scheduler) :
    EStateM.Result Error Scheduler (Option Advance) → Prop
  | ended {result : RunResult} {u : Scheduler} (hleg : place.leg source t = .ok (.ended result) u) :
      Closes source place t
        (.ok (some (.finished result)) { u.release with lastResult := some result })
  | error {e : Error} {u : Scheduler} (hleg : place.leg source t = .error e u) :
      Closes source place t (.error e.outOfRun u.release)
  | waits {u : Scheduler} (hleg : place.leg source t = .ok .waits u) :
      Closes source place t (.ok (some (.suspended (Program.load source))) u)

variable {source : Text} {s t u : Scheduler} {place : Place} {met : List (List Demand)}

lemma goOn_congr {others : List (List Demand)} {step step' : Step Scheduler Advance}
    (h : step t = step' u) : goOn others step t = goOn others step' u := by
  simp only [goOn, turn, h]

lemma runAmid_of_idle (hidle : s.isBusy = false) (source : Text) (others : List (List Demand)) :
    runAmid source others s = goOn others (firstTurn source) (s.enter .running) := by
  simp only [runAmid, goOn, Step.bind_apply, begin_of_idle source hidle]
  cases turn (firstTurn source) (s.enter .running) with
  | error e t => rfl
  | ok a t => cases a <;> rfl

lemma map_carryOn_cons (program : Program) (demands : List Demand) (others : List (List Demand))
    (s : Scheduler) :
    (some <$> carryOn program (demands :: others) : Step Scheduler (Option Advance)) s =
      goOn others (proceed program) (Demand.meetAll demands s) := by
  simp only [carryOn, goOn, resume, Demand.meetAll, Step.map_apply, Step.bind_apply,
    Step.modify_apply]
  cases turn (proceed program) (demands.foldl (fun s demand => demand.meet s) s) with
  | error e t => rfl
  | ok a t => cases a <;> rfl

/-- **Wherever a run has come to, it goes on from there.** -/
theorem Comes.runAmid_eq (h : Comes source s met place t) (hidle : s.isBusy = false)
    (others : List (List Demand)) :
    runAmid source (met ++ others) s = goOn others (place.remainder source) t := by
  induction h generalizing others with
  | accepted =>
      rw [List.nil_append, runAmid_of_idle hidle]
      have hmachine : (s.enter .running).machine = s.machine := by rw [enter_eq]
      refine goOn_congr ?_
      rw [← hmachine]
      rfl
  | onward _ hleg ih =>
      rw [ih others]
      refine goOn_congr ?_
      rw [Place.remainder_eq, hleg]
  | resumed demands _ hleg ih =>
      rw [List.append_assoc, ih ([demands] ++ others), goOn, turn, Place.remainder_eq, hleg]
      exact map_carryOn_cons _ _ _ _

lemma goOn_of_ended {others : List (List Demand)} {result : RunResult}
    (hleg : place.leg source t = .ok (.ended result) u) :
    goOn others (place.remainder source) t =
      .ok (some (.finished result)) { u.release with lastResult := some result } := by
  rw [goOn, turn, Place.remainder_eq, hleg]

lemma goOn_of_error {others : List (List Demand)} {e : Error}
    (hleg : place.leg source t = .error e u) :
    goOn others (place.remainder source) t = .error e.outOfRun u.release := by
  rw [goOn, turn, Place.remainder_eq, hleg]

lemma goOn_of_waits (hleg : place.leg source t = .ok .waits u) :
    goOn [] (place.remainder source) t = .ok (some (.suspended (Program.load source))) u := by
  rw [goOn, turn, Place.remainder_eq, hleg]
  rfl

/-- **Every run ends in a leg**, from a place that it comes to. -/
theorem Comes.exists_closes {met : List (List Demand)} {place : Place} {t : Scheduler}
    (h : Comes source s met place t) (others : List (List Demand)) :
    ∃ met' place' t', met' <+: met ++ others ∧ Comes source s met' place' t' ∧
      Closes source place' t' (goOn others (place.remainder source) t) := by
  cases hleg : place.leg source t with
  | error e u => exact ⟨met, place, t, List.prefix_append _ _, h, goOn_of_error hleg ▸ .error hleg⟩
  | ok l u =>
      cases l with
      | ended r => exact ⟨met, place, t, List.prefix_append _ _, h, goOn_of_ended hleg ▸ .ended hleg⟩
      | onward next =>
          have hnext := Place.later_of_onward hleg
          have hsame : goOn others (place.remainder source) t =
              goOn others (next.remainder source) u := goOn_congr (by rw [Place.remainder_eq, hleg])
          rw [hsame]
          exact Comes.exists_closes (h.onward hleg) others
      | waits =>
          cases others with
          | nil => exact ⟨met, place, t, List.prefix_append _ _, h, goOn_of_waits hleg ▸ .waits hleg⟩
          | cons demands rest =>
              have hsame : goOn (demands :: rest) (place.remainder source) t =
                  goOn rest (Place.pause.remainder source) (Demand.meetAll demands u) := by
                rw [goOn, turn, Place.remainder_eq, hleg]
                exact map_carryOn_cons _ _ _ _
              obtain ⟨met', place', t', hmet, hcomes, hcloses⟩ :=
                Comes.exists_closes (h.resumed demands hleg) rest
              rw [List.append_assoc] at hmet
              exact ⟨met', place', t', hmet, hcomes, hsame ▸ hcloses⟩
termination_by (others.length, place.stage, place.linesLeft)
decreasing_by
  · exact .right _ hnext
  · exact .left _ _ (Nat.lt_succ_self _)

end Scheduler
end Asm16
