import Asm16.Proofs.Run.Call
import Asm16.Proofs.Run.Failure

/-!
# Runs that are asked to stop

A request to stop is honoured between two batches, so the batch in progress is still carried out, and
nothing after it.  Whether the request comes from a hook or from others, the run is `stopping` at the
next place that it comes to, and from there on its end is foretold.

* `Call.stopping_of_asks`, `Demand.stopping_of_meetAll` — what comes of a request.
* `Stopped` — the two ends that are left to a run that was asked to stop.
* `Comes.stopped_of_pause`, `Comes.stopped_of_line` — one of them is reached, from between two
  batches at once, and from a line of a batch by the end of that batch.
* `stop_is_final` — the result.

Hooks give no errors in such a run (`Unhindered`), and its lines none but faults
(`Machine.OnlyFaults`).
-/

namespace Asm16

/-- No line that is reached lets an error through that is no fault. -/
def Machine.OnlyFaults (start : Machine) (lines : List Text) : Prop :=
  ∀ i line e m', start.Reaches lines i line →
    executeLine line (start.upTo lines i).machine = .error e m' → e.IsFault

/-- Where nobody watches memory, that is so if no line that is reached is overlong. -/
lemma Machine.onlyFaults_of_no_overlong {start : Machine} {lines : List Text}
    (h : start.memory.subscribed = [])
    (hnone : ∀ i line, start.Reaches lines i line → ¬ IsOverlong line) : start.OnlyFaults lines := by
  intro i line e m' hreach he
  rcases error_of_executeLine (unwatched_upTo h lines i) he with hfault | ⟨-, hover⟩
  · exact hfault
  · exact absurd hover (hnone i line hreach)

/-- Among so many lines there are no more instructions. -/
lemma countP_take_add_le (lines : List Text) (done count : Nat) :
    (lines.take (done + count)).countP holdsInstruction ≤
      (lines.take done).countP holdsInstruction + count := by
  rw [List.take_add, List.countP_append]
  refine Nat.add_le_add_left ?_ _
  exact List.countP_le_length.trans (List.length_take_le _ _)

open Scheduler

/-! ## Requests to stop -/

namespace Call

/-- The hook that is called asks for a stop. -/
def AsksToStop (call : Call) (u : Scheduler) : Prop :=
  ∃ hook, u.hooks.get call.kind = some hook ∧
    HookAction.control .stop ∈ hook (u.calls.get call.kind) (call.event u)

/-- The number of batches that are done by the end of the batch in which the call is made. -/
def batches (done : Nat) : Call → Nat
  | .opened => done
  | _ => done + 1

lemma exists_make_eq (call : Call) (s : Scheduler) :
    ∃ publish, call.make s = callHook publish call.kind (call.event s) s := by
  cases call with
  | opened | carried | failed => exact ⟨_, publish_apply s⟩
  | reported | progressed => exact ⟨_, rfl⟩

end Call

namespace Scheduler

variable {source : Text} {s t u v : Scheduler} {place : Place} {met : List (List Demand)}

lemma runState_stop_of_busy (hb : s.isBusy = true) : s.stop.runState = .stopping := by
  rw [stop]
  split_ifs with hrunning
  · exact runState_enter _ _
  · exact (RunState.isBusy_iff.1 hb).resolve_left hrunning

/-- A request to stop is not taken back. -/
lemma Steered.stopping {P : Event → Prop} (h : Steered P t u) (hstop : t.runState = .stopping) :
    u.runState = .stopping := by
  rcases h.runState with hsame | ⟨-, hstopping⟩
  · exact hsame.trans hstop
  · exact hstopping

lemma stopping_of_forM (publish : Step Scheduler Unit) (kind : HookKind) :
    ∀ (actions : List HookAction) {t : Scheduler}, (∀ a ∈ actions, a.IsCourteous) →
      t.isBusy = true → (t.runState = .stopping ∨ HookAction.control .stop ∈ actions) →
      actions.forM (act publish kind) t = .ok () u → u.runState = .stopping
  | [], t, _, _, hstop, h => by
      cases h
      simpa using hstop
  | a :: rest, t, hactions, hb, hstop, h => by
      have hsteered := steered_act (P := fun _ => True) trivial (hactions a (by simp)) publish kind hb
      rw [List.forM_eq_forM, List.forM_cons, Step.bind_apply] at h
      cases ha : act publish kind a t with
      | error e v => rw [ha] at h; cases h
      | ok _ v =>
          rw [ha] at h
          rw [Step.final_of_ok ha] at hsteered
          refine stopping_of_forM publish kind rest (fun b hb => hactions b (by simp [hb]))
            (hsteered.isBusy hb) ?_ h
          rcases hstop with hstop | hstop
          · exact .inl (hsteered.stopping hstop)
          · rcases List.mem_cons.1 hstop with rfl | hrest
            · have hnow : EStateM.Result.ok () t.stop = .ok () v := ha
              cases hnow
              exact .inl (runState_stop_of_busy hb)
            · exact .inr hrest

/-- **A hook asks for a stop** in a run, and the run is to stop after the call. -/
theorem Call.stopping_of_asks {call : Call} (hc : u.hooks.Courteous) (hb : u.isBusy = true)
    (hasks : call.AsksToStop u) (hmake : call.make u = .ok () v) : v.runState = .stopping := by
  obtain ⟨hook, hhook, hmem⟩ := hasks
  obtain ⟨publish, heq⟩ := call.exists_make_eq u
  rw [heq, callHook_apply, hhook] at hmake
  exact stopping_of_forM (t := u.called call.kind (call.event u)) publish call.kind _
    (hc call.kind hook hhook _ _) hb (.inr hmem) hmake

/-- **Others ask for a stop**, and the run is to stop after their demands. -/
lemma Demand.stopping_of_meetAll : ∀ (demands : List Demand) {s : Scheduler},
    (∀ demand ∈ demands, demand.IsCourteous) → s.isBusy = true →
      (s.runState = .stopping ∨ Demand.control .stop ∈ demands) →
      (meetAll demands s).runState = .stopping
  | [], s, _, _, hstop => hstop.resolve_right (by simp)
  | demand :: rest, s, hdemands, hb, hstop => by
      have hmeet := steered_meet (P := fun _ => True) (hdemands demand (by simp)) hb
      refine stopping_of_meetAll rest (fun other hother => hdemands other (by simp [hother]))
        (hmeet.isBusy hb) ?_
      rcases hstop with hstop | hstop
      · exact .inl (hmeet.stopping hstop)
      · rcases List.mem_cons.1 hstop with rfl | hrest
        · exact .inl (runState_stop_of_busy hb)
        · exact .inr hrest

lemma Piece.stopping (hc : t.hooks.Courteous) (hstop : t.runState = .stopping)
    (hpiece : Piece t u) : u.runState = .stopping := by
  have hb : t.isBusy = true := by rw [isBusy, hstop]; rfl
  cases hpiece with
  | shown hp =>
      have hsteered := steered_publish (P := fun _ => True) trivial trivial hb hc
      rw [Step.final_of_ok hp] at hsteered
      exact hsteered.stopping hstop
  | @reported _ done total hr =>
      have hsteered := steered_callHook (P := fun _ => True) trivial (.progress done total) trivial
        publish .progress hb hc
      rw [Step.final_of_ok hr] at hsteered
      exact hsteered.stopping hstop
  | @carried _ line i? he =>
      have hcarried := carried_executeLine line t
      rw [Step.final_of_ok he] at hcarried
      exact (congrArg Standing.runState hcarried.standing).trans hstop
  | counted => exact hstop

/-- A leg after which the run goes on does not take back a request to stop. -/
lemma stopping_leg (hc : t.hooks.Courteous) (hstop : t.runState = .stopping) {l : Leg}
    (hleg : place.leg source t = .ok l u) (hgoes : ∀ result, l ≠ .ended result) :
    u.runState = .stopping := by
  have hboth : Unmoved HookAction.IsCourteous t u ∧ u.runState = .stopping := by
    have hpieces := pieces_leg hleg hgoes
    clear hleg
    induction hpieces with
    | refl => exact ⟨.refl t, hstop⟩
    | tail _ hpiece ih =>
        have hhere := hc.of_within ih.1.hooks
        exact ⟨ih.1.trans (hpiece.unmoved (fun _ => id) hhere), hpiece.stopping hhere ih.2⟩
  exact hboth.2

/-! ## Ends of runs that were asked to stop -/

/-- **Where a call finds the batch in progress**: fewer lines are left of it than a batch has, and
none unless the call is made after an instruction. -/
lemma Calls.bounds {start : Machine} {size : Int} {batches : Nat} {call : Call} (hsize : 1 ≤ size)
    (hstands : StandsAt start (Program.load source) size batches place t)
    (h : Calls source place t call u) (hfailure : call.isOfFailure = false) :
    call.lines.toNat ≤ linesIn (Program.load source) size (call.batches batches) ∧
      linesIn (Program.load source) size (call.batches batches) < call.lines.toNat + size ∧
      ((∀ i, call ≠ .carried i) →
        call.lines = linesIn (Program.load source) size (call.batches batches)) := by
  cases h with
  | opened =>
      simp only [Call.lines, Call.batches, hstands.1, linesIn_zero]
      exact ⟨Nat.le_refl _, by omega, fun _ => rfl⟩
  | carried hlt =>
      obtain ⟨i, rfl, rfl, hfirst, -, -, -⟩ := hstands
      have hnext := linesIn_succ (Program.load source) hsize batches
      simp only [Call.lines, Call.batches]
      exact ⟨by omega, by omega, fun hnot => absurd rfl (hnot _)⟩
  | failed | reported => cases hfailure
  | progressed =>
      obtain ⟨i, rfl, rfl, -, -, -, -⟩ := hstands
      refine ⟨Nat.le_refl _, ?_, fun _ => rfl⟩
      simp only [Call.lines, Call.batches]
      omega

/-- How a run ends that is to stop before the line `limit`, with the lines before `done` carried out
when it was asked to. -/
inductive Stopped (start : Machine) (lines : List Text) (done limit : Nat) :
    EStateM.Result Error Scheduler (Option Advance) → Prop
  /-- The lines before `limit` are carried out, one after the other and each once. -/
  | cancelled {r : RunResult} {t : Scheduler} (hstatus : r.status = .cancelled)
      (hcounts : CountsTo lines limit r) (hidle : t.runState = .idle)
      (hdone : (start.upTo lines limit).ending = .done)
      (hmachine : t.machine = (start.upTo lines limit).machine) :
      Stopped start lines done limit (.ok (some (.finished r)) t)
  /-- One of the lines that were left fails. -/
  | failed {r : RunResult} {t : Scheduler} {i : Nat} {fault : Fault} (hi : done ≤ i)
      (hlimit : i < limit) (hfails : FailsAt start lines i fault r t) :
      Stopped start lines done limit (.ok (some (.finished r)) t)

/-- What lies ahead of a line lies ahead of the lines before it. -/
lemma Stopped.mono {start : Machine} {lines : List Text} {done done' limit : Nat}
    (hdone : done' ≤ done) {outcome : EStateM.Result Error Scheduler (Option Advance)}
    (h : Stopped start lines done limit outcome) : Stopped start lines done' limit outcome := by
  cases h with
  | cancelled hstatus hcounts hidle hdone hmachine =>
      exact .cancelled hstatus hcounts hidle hdone hmachine
  | failed hi hlimit hfails => exact .failed (Nat.le_trans hdone hi) hlimit hfails

/-- No call of a hook in the run ends in an error. -/
def Unhindered (source : Text) (s : Scheduler) (others : List (List Demand)) : Prop :=
  ∀ met place t call u, met <+: others → Comes source s met place t →
    Calls source place t call u → ∃ v, call.make u = .ok () v

section Run

variable {others : List (List Demand)} (hidle : s.isBusy = false) (hhooks : s.hooks.Courteous)
  (hsize : 1 ≤ s.batchSize)
  (hothers : ∀ demands ∈ others, ∀ demand ∈ demands, demand.IsCourteous)

include hidle hhooks hsize hothers in
/-- Between two batches a run that is to stop ends at once. -/
theorem Comes.stopped_of_pause {rest : List (List Demand)} (hrest : met ++ rest = others)
    (h : Comes source s met .pause t) (hstop : t.runState = .stopping) :
    Stopped s.machine.reset (Text.lines source)
      (linesIn (Program.load source) s.batchSize met.length)
      (linesIn (Program.load source) s.batchSize met.length) (runAmid source others s) := by
  subst hrest
  obtain ⟨⟨hcourse, hprocessed⟩, -⟩ := h.standsAt (fun _ => id) hhooks hsize
    fun demands hdemands => hothers demands (List.mem_append_left _ hdemands)
  have hleg : Place.pause.leg source t =
      .ok (.ended (t.result (Program.load source) .cancelled none))
        ((t.write t.cancelledEntries).enter .idle) := by
    rw [Place.leg_pause, if_neg (fun hboth => by rw [hstop] at hboth; cases hboth.2), if_pos hstop]
  have hat := hcourse.atLine hprocessed
  have hresting : ((t.write t.cancelledEntries).enter .idle).isBusy = false := by
    rw [isBusy, runState_enter]
    rfl
  rw [h.runAmid_eq hidle rest, goOn_of_ended hleg, release_of_idle hresting, enter_eq]
  exact .cancelled rfl ⟨hat.total, hat.processed, hat.executed⟩ rfl hat.done hat.machine

include hidle hhooks hsize hothers in
/-- At the end of a batch a run that was asked to stop ends before the next one. -/
lemma Comes.stopped_of_waits {demands : List Demand} {rest : List (List Demand)}
    (hrest : met ++ demands :: rest = others) (h : Comes source s met place t)
    (hleg : place.leg source t = .ok .waits u) (hbusy : u.isBusy = true)
    (hasks : u.runState = .stopping ∨ Demand.control .stop ∈ demands) :
    Stopped s.machine.reset (Text.lines source)
      (linesIn (Program.load source) s.batchSize (met.length + 1))
      (linesIn (Program.load source) s.batchSize (met.length + 1)) (runAmid source others s) := by
  have hstopping :=
    Demand.stopping_of_meetAll demands (hothers demands (hrest ▸ by simp)) hbusy hasks
  have hrest' : (met ++ [demands]) ++ rest = others := by
    rw [← hrest, List.append_assoc]
    rfl
  have hended :=
    (h.resumed demands hleg).stopped_of_pause hidle hhooks hsize hothers hrest' hstopping
  rwa [List.length_append, List.length_singleton] at hended

variable (hlines : s.machine.reset.OnlyFaults (Text.lines source))
  (hquiet : Unhindered source s others)

include hhooks hsize hothers hlines hquiet in
/-- Where neither hooks nor lines give errors, no leg ends in one. -/
lemma Comes.leg_ne_error {rest : List (List Demand)} (hrest : met ++ rest = others)
    (h : Comes source s met place t) (e : Error) (u : Scheduler) :
    place.leg source t ≠ .error e u := by
  subst hrest
  intro hleg
  obtain ⟨hstands, -⟩ := h.standsAt (fun _ => id) hhooks hsize
    fun demands hdemands => hothers demands (List.mem_append_left _ hdemands)
  rcases hstands.exists_of_leg_error hleg with ⟨call, v, hcalls, hraise⟩ | hline
  · obtain ⟨w, hmake⟩ := hquiet met place t call v (List.prefix_append _ _) h hcalls
    rw [hmake] at hraise
    cases hraise
  · obtain ⟨i, line, m', hreach, he, hfault⟩ := hline
    exact hfault (hlines i line e m' hreach he)

include hidle hhooks hsize hothers hlines hquiet in
/-- In a batch a run that is to stop goes on to the end of the batch, unless a line fails. -/
theorem Comes.stopped_of_line {demands : List Demand} {rest : List (List Demand)}
    (hrest : met ++ demands :: rest = others) {next stop : Int} {t : Scheduler}
    (h : Comes source s met (.line next stop) t) (hstop : t.runState = .stopping) :
    Stopped s.machine.reset (Text.lines source) next.toNat
      (linesIn (Program.load source) s.batchSize (met.length + 1)) (runAmid source others s) := by
  have hmet : ∀ demands ∈ met, ∀ demand ∈ demands, demand.IsCourteous := fun demands hdemands =>
    hothers demands (hrest ▸ List.mem_append_left _ hdemands)
  obtain ⟨hstands, hunmoved⟩ := h.standsAt (fun _ => id) hhooks hsize hmet
  have hhere : t.hooks.Courteous := hhooks.of_within hunmoved.hooks
  cases hleg : (Place.line next stop).leg source t with
  | error e u => exact absurd hleg (h.leg_ne_error hhooks hsize hothers hlines hquiet hrest e u)
  | ok l u =>
      cases l with
      | ended r =>
          obtain ⟨i, fault, rfl, hi, hfails, -, -⟩ := hstands.fails (fun _ => id) hhere hleg
          subst hrest
          rw [h.runAmid_eq hidle (demands :: rest), goOn_of_ended hleg]
          exact .failed (Nat.le_of_eq (Int.toNat_natCast i)) hi hfails
      | waits =>
          have hafter := stopping_leg hhere hstop hleg (by simp)
          have hbusy : u.isBusy = true := by rw [isBusy, hafter]; rfl
          have hended := h.stopped_of_waits hidle hhooks hsize hothers hrest hleg hbusy (.inl hafter)
          obtain ⟨i, rfl, -, -, hlast, -, -⟩ := hstands
          exact hended.mono (by rwa [Int.toNat_natCast])
      | onward place =>
          obtain ⟨hlt, rfl⟩ := Place.line_of_onward hleg
          have hafter := stopping_leg hhere hstop hleg (by simp)
          have hended := Comes.stopped_of_line hrest (h.onward hleg) hafter
          exact hended.mono (by omega)
termination_by (stop - next).toNat

include hidle hhooks hsize hothers hlines hquiet in
/-- **A call after which the run is to stop.** -/
theorem Comes.stopped_of_call {rest : List (List Demand)} (hrest : met ++ rest = others)
    (h : Comes source s met place t) {call : Call} (hcalls : Calls source place t call u)
    (hfailure : call.isOfFailure = false) (hmake : call.make u = .ok () v)
    (hstop : v.runState = .stopping) (hturn : call = .opened ∨ rest ≠ []) :
    Stopped s.machine.reset (Text.lines source) call.lines.toNat
      (linesIn (Program.load source) s.batchSize (call.batches met.length))
      (runAmid source others s) := by
  obtain ⟨hstands, -⟩ := h.standsAt (fun _ => id) hhooks hsize
    fun demands hdemands => hothers demands (hrest ▸ List.mem_append_left _ hdemands)
  cases hcalls with
  | opened =>
      have hp : publish t = .ok () v := hmake
      have hleg := Place.leg_opening source t
      rw [hp] at hleg
      have hended := (h.onward hleg).stopped_of_pause hidle hhooks hsize hothers hrest hstop
      exact hended.mono (Nat.zero_le _)
  | carried hlt hline he =>
      have hp : publish _ = .ok () v := hmake
      have hleg := Place.leg_line_of_lt hlt source t
      rw [runLine_of_line? hline, he] at hleg
      simp only [hp] at hleg
      obtain ⟨demands, rest, rfl⟩ := List.exists_cons_of_ne_nil (hturn.resolve_left (by simp))
      exact (h.onward hleg).stopped_of_line hidle hhooks hsize hothers hlines hquiet hrest hstop
  | failed | reported => cases hfailure
  | progressed hle =>
      obtain ⟨i, rfl, rfl, -, -, -, -⟩ := hstands
      have hr : endBatch _ t = .ok () v := hmake
      have hleg := Place.leg_line_of_le hle source t
      rw [hr] at hleg
      obtain ⟨demands, rest, rfl⟩ := List.exists_cons_of_ne_nil (hturn.resolve_left (by simp))
      have hbusy : v.isBusy = true := by rw [isBusy, hstop]; rfl
      exact h.stopped_of_waits hidle hhooks hsize hothers hrest hleg hbusy (.inl hstop)

end Run

/-- What a request to stop leads to that is made in the state `u`: with the lines before `done`
carried out, the batch in progress goes on to the line `limit` at most. -/
structure Ceases (start : Machine) (lines : List Text) (size : Int) (u : Scheduler)
    (done limit : Nat) (outcome : EStateM.Result Error Scheduler (Option Advance)) : Prop where
  machine : u.machine = (start.upTo lines done).machine
  le : done ≤ limit
  lt : limit < done + size
  instructions : (lines.take limit).countP holdsInstruction <
    (lines.take done).countP holdsInstruction + size
  stopped : Stopped start lines done limit outcome

lemma Ceases.of_stopped {start : Machine} {lines : List Text} {size : Int} {done limit : Nat}
    {outcome : EStateM.Result Error Scheduler (Option Advance)}
    (hmachine : u.machine = (start.upTo lines done).machine) (hle : done ≤ limit)
    (hlt : limit < done + size) (h : Stopped start lines done limit outcome) :
    Ceases start lines size u done limit outcome := by
  refine ⟨hmachine, hle, hlt, ?_, h⟩
  have hcount := countP_take_add_le lines done (limit - done)
  rw [Nat.add_sub_cancel' hle] at hcount
  omega

/-- **A request to stop is honoured, and it is final.**  A hook may ask in any call that a run in
progress makes, or others at any suspension.  No line is carried out then beyond the batch in
progress, so fewer lines and fewer instructions than a batch has, and none at all unless it was a
hook that asked in the snapshot after an instruction.  If one of these lines fails the run fails at
it, and otherwise it is cancelled and counts the lines of whole batches.  Unless a run is in progress
that was not asked before, a request changes nothing. -/
theorem stop_is_final {s : Scheduler} (hidle : s.isBusy = false) (hhooks : s.hooks.Courteous)
    (hsize : 1 ≤ s.batchSize) {source : Text} {others : List (List Demand)}
    (hothers : ∀ demands ∈ others, ∀ demand ∈ demands, demand.IsCourteous)
    (hlines : s.machine.reset.OnlyFaults (Text.lines source))
    (hquiet : Unhindered source s others) :
    let lines := Text.lines source
    let start := s.machine.reset
    let limit := linesIn (Program.load source) s.batchSize
    (∀ met rest place t call u, met ++ rest = others → Comes source s met place t →
        Calls source place t call u → u.runState = .running → call.AsksToStop u →
        call = .opened ∨ rest ≠ [] →
        Ceases start lines s.batchSize u call.lines.toNat (limit (call.batches met.length))
            (runAmid source others s) ∧
          ((∀ i, call ≠ .carried i) → call.lines = limit (call.batches met.length))) ∧
      (∀ met demands rest place t u, met ++ demands :: rest = others → Comes source s met place t →
        place.leg source t = .ok .waits u → u.runState = .running →
        Demand.control .stop ∈ demands →
        Ceases start lines s.batchSize u (limit (met.length + 1)) (limit (met.length + 1))
          (runAmid source others s)) ∧
      ∀ t : Scheduler, t.runState ≠ .running → control .stop t = .ok .done t := by
  intro lines start limit
  refine ⟨?hook, ?other, ?unasked⟩
  case hook =>
    intro met rest place t call u hrest hcomes hcalls hrunning hasks hturn
    obtain ⟨hstands, hunmoved⟩ := hcomes.standsAt (fun _ => id) hhooks hsize
      fun demands hdemands => hothers demands (hrest ▸ List.mem_append_left _ hdemands)
    have hhere : t.hooks.Courteous := hhooks.of_within hunmoved.hooks
    obtain ⟨hcalled, hstate⟩ := hcalls.unmoved (fun _ => id) hhere hstands.isBusy
    have hbusy : u.isBusy = true := by rw [isBusy, hrunning]; rfl
    have hfailure : call.isOfFailure = false := by simpa [hbusy] using hstate
    have hmachine := (hcalls.machine (fun _ => id) (by simp [hfailure]) hhere hstands).1
    obtain ⟨hle, hlt, hnone⟩ := hcalls.bounds hsize hstands hfailure
    obtain ⟨v, hmake⟩ := hquiet met place t call u (hrest ▸ List.prefix_append _ _) hcomes hcalls
    have hstop := Call.stopping_of_asks (hhere.of_within hcalled.hooks) hbusy hasks hmake
    have hended := hcomes.stopped_of_call hidle hhooks hsize hothers hlines hquiet hrest hcalls
      hfailure hmake hstop hturn
    exact ⟨.of_stopped hmachine hle hlt hended, hnone⟩
  case other =>
    intro met demands rest place t u hrest hcomes hleg hrunning hasks
    have hmet : ∀ demands ∈ met, ∀ demand ∈ demands, demand.IsCourteous := fun demands hdemands =>
      hothers demands (hrest ▸ List.mem_append_left _ hdemands)
    obtain ⟨hstands, -⟩ := hcomes.standsAt (fun _ => id) hhooks hsize hmet
    have hmachine := (hstands.waits hleg).1.machine
    have hbusy : u.isBusy = true := by rw [isBusy, hrunning]; rfl
    have hended :=
      hcomes.stopped_of_waits hidle hhooks hsize hothers hrest hleg hbusy (.inr hasks)
    exact .of_stopped hmachine (Nat.le_refl _) (by omega) hended
  case unasked =>
    intro t ht
    simp only [control, controlWith, Step.bind_apply, Step.modify_apply, stop, if_neg ht]
    rfl

/-! ## Hooks that give no errors -/

end Scheduler

/-- The action never gives an error. -/
def HookAction.IsMild : HookAction → Prop
  | .control .stop | .control .isBusy | .detach => True
  | _ => False

lemma HookAction.IsMild.isCourteous : ∀ a : HookAction, a.IsMild → a.IsCourteous
  | .control .stop, _ | .control .isBusy, _ | .detach, _ => trivial

namespace Scheduler

variable {source : Text} {s : Scheduler}

lemma exists_of_forM_of_mild (publish : Step Scheduler Unit) (kind : HookKind) :
    ∀ (actions : List HookAction) (t : Scheduler), (∀ a ∈ actions, a.IsMild) →
      ∃ u, actions.forM (act publish kind) t = .ok () u
  | [], t, _ => ⟨t, rfl⟩
  | a :: rest, t, hactions => by
      have ha : ∃ v, act publish kind a t = .ok () v := by
        have hmild := hactions a (by simp)
        cases a with
        | control request =>
            cases request with
            | stop | isBusy => exact ⟨_, rfl⟩
            | _ => exact absurd hmild id
        | detach => exact ⟨_, rfl⟩
        | _ => exact absurd hmild id
      obtain ⟨v, hv⟩ := ha
      obtain ⟨u, hu⟩ := exists_of_forM_of_mild publish kind rest v fun b hb =>
        hactions b (by simp [hb])
      refine ⟨u, ?_⟩
      rw [List.forM_eq_forM, List.forM_cons, Step.bind_apply, hv]
      exact hu

/-- Mild hooks do not hinder a run. -/
lemma unhindered_of_mild (hhooks : s.hooks.Only HookAction.IsMild) (hsize : 1 ≤ s.batchSize)
    {others : List (List Demand)}
    (hothers : ∀ demands ∈ others, ∀ demand ∈ demands, demand.IsCourteous) :
    Unhindered source s others := by
  intro met place t call u hmet hcomes hcalls
  obtain ⟨hstands, hunmoved⟩ := hcomes.standsAt HookAction.IsMild.isCourteous hhooks hsize
    fun demands hdemands => hothers demands (hmet.subset hdemands)
  have hhere := hhooks.of_within hunmoved.hooks
  obtain ⟨hcalled, -⟩ := hcalls.unmoved HookAction.IsMild.isCourteous hhere hstands.isBusy
  have hthere := hhere.of_within hcalled.hooks
  cases hk : u.hooks.get call.kind with
  | none => exact ⟨u, call.make_of_no_hook hk⟩
  | some hook =>
      obtain ⟨publish, heq⟩ := call.exists_make_eq u
      rw [heq, callHook_apply, hk]
      exact exists_of_forM_of_mild publish call.kind _ _ (hthere call.kind hook hk _ _)

/-! ## A request in a batch -/

/-- Its batches have two lines, and its hook for snapshots asks for a stop after the first
instruction. -/
def impatient : Scheduler where
  machine := .initial 16
  batchSize := 2
  hooks :=
    { state := some fun count _ => if count = 1 then [.control .stop] else []
      progress := none
      failure := none }

def threeLines : Text :=
  ['m', 'u', 'l', ' ', 'a', 'x', '\n', 'm', 'u', 'l', ' ', 'a', 'x', '\n',
   'm', 'u', 'l', ' ', 'a', 'x']

lemma only_impatient {P : HookAction → Prop} (h : P (.control .stop)) : impatient.hooks.Only P := by
  intro kind hook hk count event a ha
  cases kind with
  | state =>
      cases hk
      simp only [List.mem_ite_nil_right, List.mem_singleton] at ha
      exact ha.2 ▸ h
  | progress | failure => cases hk

/-- The second line of the batch is carried out, and the third line is not. -/
theorem stop_is_final_in_batch :
    ∃ r t, runAmid threeLines [[]] impatient = .ok (some (.finished r)) t ∧
      r.status = .cancelled ∧ t.runState = .idle ∧ r.processed = 2 ∧
      t.machine = (impatient.machine.reset.upTo (Text.lines threeLines) 2).machine := by
  have hhooks : impatient.hooks.Courteous := only_impatient trivial
  have hothers : ∀ demands ∈ [([] : List Demand)], ∀ demand ∈ demands, demand.IsCourteous := by simp
  have hnone : ∀ line ∈ Text.lines threeLines, ¬ checkLine line = .error .longNumeral := by
    decide +kernel
  have hlines : impatient.machine.reset.OnlyFaults (Text.lines threeLines) :=
    Machine.onlyFaults_of_no_overlong rfl fun i line hreach =>
      hnone line (List.mem_of_getElem? hreach.1)
  have hquiet : Unhindered threeLines impatient [[]] :=
    unhindered_of_mild (only_impatient trivial) (by decide) hothers
  have hopening : Comes threeLines impatient [] .opening _ := .accepted
  have hpause : Comes threeLines impatient [] .pause _ :=
    hopening.onward (Step.eq_ok_of_outcome (by decide +kernel))
  have hline : Comes threeLines impatient [] (.line 0 2) _ :=
    hpause.onward (Step.eq_ok_of_outcome (by decide +kernel))
  have hfirst : (Program.load threeLines).line? 0 = some ['m', 'u', 'l', ' ', 'a', 'x'] := by
    decide +kernel
  obtain ⟨-, -, -, -, hstopped⟩ := ((stop_is_final rfl hhooks (by decide) hothers hlines hquiet).1
    [] [[]] _ _ (.carried 0) _ rfl hline
    (.carried (by decide) hfirst
      (Step.eq_ok_of_outcome (a := some ⟨['m', 'u', 'l'], [['a', 'x']]⟩) (by decide +kernel)))
    (by decide +kernel)
    ⟨_, rfl, List.mem_ite_nil_right.2 ⟨by decide +kernel, List.mem_singleton.2 rfl⟩⟩
    (.inr (by simp))).1
  have hended : (ended? (runAmid threeLines [[]] impatient)).map (fun last => last.1.status) =
      some .cancelled := by decide +kernel
  obtain ⟨r, t, hrun, hr⟩ := exists_of_ended? hended
  have hlimit : linesIn (Program.load threeLines) impatient.batchSize 1 = 2 := by decide +kernel
  refine ⟨r, t, hrun, hr, ?_⟩
  rw [hrun] at hstopped
  cases hstopped with
  | cancelled _ hcounts hidle _ hmachine =>
      rw [← hlimit]
      exact ⟨hidle, hcounts.processed, hmachine⟩
  | failed _ _ hfails =>
      rw [hfails.status] at hr
      cases hr

end Scheduler
end Asm16
