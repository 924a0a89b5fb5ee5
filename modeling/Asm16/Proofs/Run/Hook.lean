import Asm16.Run.Scheduler
import Asm16.Proofs.Step
import Mathlib.Tactic.Set
import Mathlib.Tactic.SplitIfs

/-!
# What hooks can do to a scheduler

A hook is called in the middle of a run and may turn round and make requests of the scheduler that
called it.  What that can lead to depends on one bit only, whether a run is in progress.

* While one is (`Steered`), a reset is refused, so all that courteous hooks achieve is to turn
  `running` into `stopping`, to detach hooks, to ask for tasks and to end the turn with an error.
  Machine, counters and result stay as they are, and no snapshot is published.
* While none is (`Rested`), hooks may reset the scheduler again and again, and each reset publishes
  a snapshot and calls hooks in turn.  The scheduler is at rest afterwards all the same.

A hook that only records leaves the scheduler as it is, apart from the record, the count of its
calls and the batch size (`Recorded`).

Every statement holds whichever way the call ends, so that an error on the way needs no case of its
own.
-/

namespace Asm16

/-! ## Kinds of hooks -/

/-- The action uses what a scheduler offers to everybody: to stop, to reset, to ask whether it is
busy and to run another program.  A hook may also detach itself or give up. -/
def HookAction.IsCourteous : HookAction → Prop
  | .control .stop | .control .reset | .control .isBusy => True
  | .tryReset | .launch _ | .refuse _ | .detach => True
  | _ => False

/-- The action leaves the run alone.  To set the batch size to a size that a batch can have is
allowed. -/
def HookAction.IsRecording : HookAction → Prop
  | .control .isBusy => True
  | .control (.setBatchSize size) => 1 ≤ size
  | _ => False

namespace Hooks

/-- The hooks take only actions of the given kind. -/
def Only (allowed : HookAction → Prop) (hooks : Hooks) : Prop :=
  ∀ kind hook, hooks.get kind = some hook → ∀ count event, ∀ a ∈ hook count event, allowed a

/-- The hooks reach the scheduler only through what it offers to everybody. -/
def Courteous (hooks : Hooks) : Prop := hooks.Only HookAction.IsCourteous

/-- The hooks only record, or set the batch size. -/
def Recording (hooks : Hooks) : Prop := hooks.Only HookAction.IsRecording

def Within (hooks others : Hooks) : Prop :=
  ∀ kind, hooks.get kind = Option.none ∨ hooks.get kind = others.get kind

lemma Within.refl (hooks : Hooks) : hooks.Within hooks := fun _ => .inr rfl

lemma Within.trans {a b c : Hooks} (hab : a.Within b) (hbc : b.Within c) : a.Within c := by
  intro kind
  rcases hab kind with h | h
  · exact .inl h
  · rw [h]
    exact hbc kind

lemma Within.set_none (hooks : Hooks) (kind : HookKind) :
    Within (hooks.set kind Option.none) hooks := by
  intro other
  rw [PerHook.get_set]
  split_ifs
  · exact .inl rfl
  · exact .inr rfl

lemma Only.of_within {allowed : HookAction → Prop} {hooks others : Hooks}
    (h : others.Only allowed) (hw : hooks.Within others) : hooks.Only allowed := by
  intro kind hook hk
  rcases hw kind with hn | hs
  · rw [hn] at hk; cases hk
  · exact h kind hook (hs ▸ hk)

lemma only_none (allowed : HookAction → Prop) : Hooks.none.Only allowed := by
  intro kind hook hk
  cases kind <;> cases hk

end Hooks

lemma RunState.isBusy_iff {r : RunState} : r.isBusy = true ↔ r = .running ∨ r = .stopping := by
  cases r <;> simp [RunState.isBusy]

namespace Scheduler

/-! ## Records -/

/-- What is told between two states of a scheduler has a property. -/
def Tells (P : Event → Prop) (s t : Scheduler) : Prop :=
  ∃ new, t.told = new ++ s.told ∧ ∀ e ∈ new, P e

variable {P Q : Event → Prop}

lemma Tells.refl (s : Scheduler) : Tells P s s := ⟨[], rfl, by simp⟩

lemma Tells.trans {a b c : Scheduler} (hab : Tells P a b) (hbc : Tells P b c) : Tells P a c := by
  obtain ⟨new, hnew, hP⟩ := hab
  obtain ⟨new', hnew', hP'⟩ := hbc
  refine ⟨new' ++ new, by rw [hnew', hnew, List.append_assoc], ?_⟩
  intro e he
  rcases List.mem_append.1 he with he | he
  · exact hP' e he
  · exact hP e he

lemma Tells.mono (hPQ : ∀ e, P e → Q e) {s t : Scheduler} (h : Tells P s t) : Tells Q s t := by
  obtain ⟨new, hnew, hP⟩ := h
  exact ⟨new, hnew, fun e he => hPQ e (hP e he)⟩

lemma Tells.of_told_eq {s t : Scheduler} (h : t.told = s.told) : Tells P s t :=
  ⟨[], by simp [h], by simp⟩

lemma Tells.record {e : Event} (he : P e) (s : Scheduler) : Tells P s (s.record e) :=
  ⟨[e], rfl, by simpa using he⟩

/-- Watchers' notices are told when a machine is taken over. -/
lemma Tells.absorb (hP : ∀ n, P (.notice n)) (s : Scheduler) (m : Machine) :
    Tells P s (s.absorb m) := by
  refine ⟨(m.memory.journal.map Event.notice).reverse, rfl, ?_⟩
  intro e he
  obtain ⟨n, -, rfl⟩ := List.mem_map.1 (List.mem_reverse.1 he)
  exact hP n

/-! ## Equations -/

/-- A change of the run state touches the run state and the trail. -/
lemma enter_eq (r : RunState) (s : Scheduler) :
    s.enter r =
      { s with
        runState := r
        trail := if s.runState = r then s.trail
          else s.trail ++ [{ s.toStanding with runState := r }] } := by
  rw [enter]
  split_ifs with h
  · subst h; rfl
  · rfl

lemma resetWith_of_busy {s : Scheduler} (h : s.isBusy = true) (publish : Step Scheduler Unit) :
    resetWith publish s = .error .busy s := by
  simp only [resetWith, Step.bind_apply, Step.get_apply, h, if_true, Step.throw_apply]

lemma resetWith_of_idle {s : Scheduler} (h : s.isBusy = false) (publish : Step Scheduler Unit) :
    resetWith publish s = publish s.cleared := by
  simp only [resetWith, Step.bind_apply, Step.get_apply, h, Bool.false_eq_true, if_false,
    Step.modify_apply]

/-- Calling a hook: the record and the count first, then its actions. -/
lemma callHook_apply (publish : Step Scheduler Unit) (kind : HookKind) (event : Event)
    (s : Scheduler) :
    callHook publish kind event s =
      match s.hooks.get kind with
      | none => .ok () s
      | some hook =>
        (hook (s.calls.get kind) event).forM (act publish kind)
          { s.record event with calls := s.calls.set kind (s.calls.get kind + 1) } := by
  simp only [callHook, Step.bind_apply, Step.get_apply]
  cases s.hooks.get kind <;> rfl

/-- A task is asked for only where a loop can take it. -/
lemma act_launch (publish : Step Scheduler Unit) (kind : HookKind) (source : Text) (s : Scheduler) :
    act publish kind (.launch source) s =
      if s.loop then .ok () { s with launched := s.launched ++ [source] } else .error .noLoop s := by
  simp only [act, Step.bind_apply, Step.get_apply]
  split_ifs <;> rfl

lemma publishWithin_succ (depth : Nat) (s : Scheduler) :
    publishWithin (depth + 1) s =
      callHook (publishWithin depth) .state
        (.state s.machine.snapshot s.machine.memory.cells s.toStanding) s := by
  simp only [publishWithin, Step.bind_apply, Step.get_apply]

lemma publish_apply (s : Scheduler) :
    publish s =
      callHook (publishWithin (nestingLimit - 1)) .state
        (.state s.machine.snapshot s.machine.memory.cells s.toStanding) s :=
  publishWithin_succ _ s

/-! ## Hooks during a run -/

/-- What hooks can do to a run in progress, with `P` said of all that is told meanwhile. -/
structure Steered (P : Event → Prop) (s t : Scheduler) : Prop where
  machine : t.machine = s.machine
  executed : t.executed = s.executed
  processed : t.processed = s.processed
  total : t.total = s.total
  batchSize : t.batchSize = s.batchSize
  lastResult : t.lastResult = s.lastResult
  hooks : t.hooks.Within s.hooks
  runState : t.runState = s.runState ∨ s.runState = .running ∧ t.runState = .stopping
  told : Tells P s t

lemma Steered.refl (s : Scheduler) : Steered P s s :=
  ⟨rfl, rfl, rfl, rfl, rfl, rfl, .refl _, .inl rfl, .refl s⟩

lemma Steered.trans {a b c : Scheduler} (hab : Steered P a b) (hbc : Steered P b c) :
    Steered P a c where
  machine := hbc.machine.trans hab.machine
  executed := hbc.executed.trans hab.executed
  processed := hbc.processed.trans hab.processed
  total := hbc.total.trans hab.total
  batchSize := hbc.batchSize.trans hab.batchSize
  lastResult := hbc.lastResult.trans hab.lastResult
  hooks := hbc.hooks.trans hab.hooks
  runState := by
    rcases hab.runState with h | ⟨h, h'⟩
    · rw [← h]; exact hbc.runState
    · refine .inr ⟨h, ?_⟩
      rcases hbc.runState with h'' | ⟨h'', -⟩
      · rw [h'', h']
      · rw [h'] at h''; cases h''
  told := hab.told.trans hbc.told

lemma Steered.isBusy {s t : Scheduler} (h : Steered P s t) (hb : s.isBusy = true) :
    t.isBusy = true := by
  rw [Scheduler.isBusy] at hb ⊢
  rcases h.runState with h | ⟨-, h⟩
  · rw [h]; exact hb
  · rw [h]; rfl

lemma Steered.stop (s : Scheduler) : Steered P s s.stop := by
  rw [Scheduler.stop]
  split_ifs with h
  · rw [enter_eq]
    exact ⟨rfl, rfl, rfl, rfl, rfl, rfl, .refl _, .inr ⟨h, rfl⟩, .of_told_eq rfl⟩
  · exact .refl s

/-- One action of a courteous hook during a run. -/
lemma steered_act (hP : P .refusedReset) {a : HookAction} (ha : a.IsCourteous)
    (publish : Step Scheduler Unit) (kind : HookKind) {s : Scheduler} (hb : s.isBusy = true) :
    Steered P s (Step.final (act publish kind a) s) := by
  cases a with
  | control request =>
      cases request with
      | stop => exact .stop s
      | reset =>
          have hact : act publish kind (.control .reset) s = .error .busy s := by
            simp only [act, controlWith, Step.bind_apply, resetWith_of_busy hb]
          rw [Step.final_of_error hact]
          exact .refl s
      | isBusy => exact .refl s
      | _ => exact absurd ha id
  | refuse e => exact .refl s
  | detach =>
      exact ⟨rfl, rfl, rfl, rfl, rfl, rfl, .set_none _ _, .inl rfl, .of_told_eq rfl⟩
  | tryReset =>
      have hact : act publish kind .tryReset s = .ok () (s.record .refusedReset) := by
        simp only [act, resetWith_of_busy hb]
      rw [Step.final_of_ok hact]
      exact ⟨rfl, rfl, rfl, rfl, rfl, rfl, .refl _, .inl rfl, .record hP s⟩
  | launch source =>
      rw [Step.final, act_launch]
      split_ifs
      · exact ⟨rfl, rfl, rfl, rfl, rfl, rfl, .refl _, .inl rfl, .of_told_eq rfl⟩
      · exact .refl s

/-- **Courteous hooks during a run** leave machine and counters alone and keep the run in progress.
-/
theorem steered_callHook (hP : P .refusedReset) (event : Event) (he : P event)
    (publish : Step Scheduler Unit) (kind : HookKind) {s : Scheduler} (hb : s.isBusy = true)
    (hc : s.hooks.Courteous) : Steered P s (Step.final (callHook publish kind event) s) := by
  rw [Step.final, callHook_apply]
  cases hk : s.hooks.get kind with
  | none => exact .refl s
  | some hook =>
      set s' : Scheduler :=
        { s.record event with calls := s.calls.set kind (s.calls.get kind + 1) } with hs'
      have hstart : Steered P s s' :=
        ⟨rfl, rfl, rfl, rfl, rfl, rfl, .refl _, .inl rfl, .record he s⟩
      refine hstart.trans ?_
      refine Step.rel_final_forM (P := Steered P) .refl .trans s _ ?_ _ hstart
      intro a ha t ht
      exact steered_act hP (hc kind hook hk _ _ a ha) publish kind (ht.isBusy hb)

lemma steered_publish (hP : P .refusedReset) {s : Scheduler}
    (he : P (.state s.machine.snapshot s.machine.memory.cells s.toStanding))
    (hb : s.isBusy = true) (hc : s.hooks.Courteous) : Steered P s (Step.final publish s) := by
  rw [Step.final, publish_apply]
  exact steered_callHook hP _ he _ _ hb hc

/-! ## Hooks at rest -/

end Scheduler

/-- If the event is a snapshot, it was published while no run was in progress. -/
def Event.IsResting : Event → Prop
  | .state _ _ standing => standing.runState.isBusy = false
  | _ => True

namespace Scheduler

/-- What hooks can lead to while no run is in progress. -/
structure Rested (s t : Scheduler) : Prop where
  idle : t.isBusy = false
  batchSize : t.batchSize = s.batchSize
  lastResult : t.lastResult = s.lastResult
  hooks : t.hooks.Within s.hooks
  told : Tells Event.IsResting s t

lemma Rested.refl {s : Scheduler} (h : s.isBusy = false) : Rested s s :=
  ⟨h, rfl, rfl, .refl _, .refl s⟩

lemma Rested.trans {a b c : Scheduler} (hab : Rested a b) (hbc : Rested b c) : Rested a c where
  idle := hbc.idle
  batchSize := hbc.batchSize.trans hab.batchSize
  lastResult := hbc.lastResult.trans hab.lastResult
  hooks := hbc.hooks.trans hab.hooks
  told := hab.told.trans hbc.told

/-- To leave the run states in which a run is in progress is to come to rest. -/
lemma rested_enter {r : RunState} (hr : r.isBusy = false) (entries : Log) (s : Scheduler) :
    Rested s ((s.write entries).enter r) := by
  rw [enter_eq]
  exact ⟨hr, rfl, rfl, .refl _, .of_told_eq rfl⟩

lemma rested_cleared (s : Scheduler) : Rested s s.cleared := by
  rw [cleared, enter_eq]
  exact ⟨rfl, rfl, rfl, .refl _, .of_told_eq rfl⟩

lemma stop_of_idle {s : Scheduler} (h : s.isBusy = false) : s.stop = s := by
  rw [Scheduler.stop, if_neg]
  intro hr
  rw [isBusy, hr] at h
  cases h

/-- One action of a courteous hook at rest; what it publishes is left open. -/
lemma rested_act {publish : Step Scheduler Unit}
    (hpublish : ∀ s : Scheduler, s.isBusy = false → s.hooks.Courteous →
      Rested s (Step.final publish s))
    {a : HookAction} (ha : a.IsCourteous) (kind : HookKind) {s : Scheduler}
    (hi : s.isBusy = false) (hc : s.hooks.Courteous) :
    Rested s (Step.final (act publish kind a) s) := by
  have hreset : Rested s (Step.final (resetWith publish) s) := by
    have hcleared := rested_cleared s
    rw [Step.final, resetWith_of_idle hi]
    exact hcleared.trans (hpublish _ hcleared.idle (hc.of_within hcleared.hooks))
  cases a with
  | control request =>
      cases request with
      | stop =>
          have hstop : Step.final (act publish kind (.control .stop)) s = s.stop := rfl
          rw [hstop, stop_of_idle hi]
          exact .refl hi
      | reset =>
          rw [Step.final] at hreset ⊢
          simp only [act, controlWith, Step.bind_apply]
          cases hr : resetWith publish s <;> rw [hr] at hreset <;> exact hreset
      | isBusy => exact .refl hi
      | _ => exact absurd ha id
  | refuse e => exact .refl hi
  | detach => exact ⟨hi, rfl, rfl, .set_none _ _, .of_told_eq rfl⟩
  | tryReset =>
      rw [Step.final] at hreset ⊢
      simp only [act]
      cases hr : resetWith publish s with
      | ok u t => rw [hr] at hreset; exact hreset
      | error e t =>
          rw [hr] at hreset
          cases e with
          | busy => exact hreset.trans ⟨hreset.idle, rfl, rfl, .refl _, .record trivial t⟩
          | _ => exact hreset
  | launch source =>
      rw [Step.final, act_launch]
      split_ifs
      · exact ⟨hi, rfl, rfl, .refl _, .of_told_eq rfl⟩
      · exact .refl hi

lemma rested_callHook {publish : Step Scheduler Unit}
    (hpublish : ∀ s : Scheduler, s.isBusy = false → s.hooks.Courteous →
      Rested s (Step.final publish s))
    (event : Event) (he : event.IsResting) (kind : HookKind) {s : Scheduler}
    (hi : s.isBusy = false) (hc : s.hooks.Courteous) :
    Rested s (Step.final (callHook publish kind event) s) := by
  rw [Step.final, callHook_apply]
  cases hk : s.hooks.get kind with
  | none => exact .refl hi
  | some hook =>
      set s' : Scheduler :=
        { s.record event with calls := s.calls.set kind (s.calls.get kind + 1) } with hs'
      have hstart : Rested s s' := ⟨hi, rfl, rfl, .refl _, .record he s⟩
      -- the preorder has to assume that the first state is at rest, or it would not be reflexive
      have htrans : ∀ {a b c : Scheduler}, (a.isBusy = false → Rested a b) →
          (b.isBusy = false → Rested b c) → a.isBusy = false → Rested a c :=
        fun hab hbc ha => (hab ha).trans (hbc (hab ha).idle)
      refine hstart.trans (Step.rel_final_forM (P := fun a b => a.isBusy = false → Rested a b)
        (fun _ => .refl) htrans s _ ?_ s' (fun _ => hstart) hstart.idle)
      intro a ha t ht hti
      exact rested_act hpublish (hc kind hook hk _ _ a ha) kind hti (hc.of_within (ht hi).hooks)

/-- **Courteous hooks at rest**: however deeply resets and hooks set each other off, no run is in
progress afterwards and the account of the last run is kept. -/
theorem rested_publishWithin : ∀ (depth : Nat) (s : Scheduler), s.isBusy = false →
    s.hooks.Courteous → Rested s (Step.final (publishWithin depth) s)
  | 0, s, hi, _ => by
      rw [Step.final]
      simp only [publishWithin, Step.bind_apply, Step.get_apply]
      cases s.hooks.state.isNone <;> exact .refl hi
  | depth + 1, s, hi, hc => by
      rw [Step.final, publishWithin_succ]
      have he : Event.IsResting
          (.state s.machine.snapshot s.machine.memory.cells s.toStanding) := hi
      exact rested_callHook (rested_publishWithin depth) _ he .state hi hc

/-! ## Hooks that only record -/

/-- The scheduler is as it was, apart from the record, the count of calls and the batch size. -/
structure Recorded (s t : Scheduler) : Prop where
  standing : t.toStanding = s.toStanding
  machine : t.machine = s.machine
  lastResult : t.lastResult = s.lastResult
  hooks : t.hooks = s.hooks
  launched : t.launched = s.launched
  batchSize : 1 ≤ s.batchSize → 1 ≤ t.batchSize

lemma Recorded.refl (s : Scheduler) : Recorded s s := ⟨rfl, rfl, rfl, rfl, rfl, id⟩

lemma Recorded.trans {a b c : Scheduler} (hab : Recorded a b) (hbc : Recorded b c) :
    Recorded a c where
  standing := hbc.standing.trans hab.standing
  machine := hbc.machine.trans hab.machine
  lastResult := hbc.lastResult.trans hab.lastResult
  hooks := hbc.hooks.trans hab.hooks
  launched := hbc.launched.trans hab.launched
  batchSize := hbc.batchSize ∘ hab.batchSize

/-- Actions that only record all succeed. -/
lemma recorded_forM (publish : Step Scheduler Unit) (kind : HookKind) :
    ∀ (actions : List HookAction), (∀ a ∈ actions, a.IsRecording) → ∀ s : Scheduler,
      ∃ t, actions.forM (act publish kind) s = .ok () t ∧ Recorded s t ∧ t.told = s.told
  | [], _, s => ⟨s, rfl, .refl s, rfl⟩
  | a :: actions, h, s => by
      obtain ⟨s', hs', hrec, htold⟩ :
          ∃ s', act publish kind a s = .ok () s' ∧ Recorded s s' ∧ s'.told = s.told := by
        have ha := h a (by simp)
        cases a with
        | control request =>
            cases request with
            | isBusy => exact ⟨s, rfl, .refl s, rfl⟩
            | setBatchSize size =>
                exact ⟨{ s with batchSize := size }, rfl, ⟨rfl, rfl, rfl, rfl, rfl, fun _ => ha⟩, rfl⟩
            | _ => exact absurd ha id
        | _ => exact absurd ha id
      obtain ⟨t, ht, hrec', htold'⟩ :=
        recorded_forM publish kind actions (fun b hb => h b (by simp [hb])) s'
      refine ⟨t, ?_, hrec.trans hrec', htold'.trans htold⟩
      rw [List.forM_eq_forM, List.forM_cons, Step.bind_apply, hs']
      exact ht

/-- **A hook that only records** is told of the event, and that is all. -/
theorem callHook_of_recording (publish : Step Scheduler Unit) (kind : HookKind) (event : Event)
    {s : Scheduler} (hr : s.hooks.Recording) :
    ∃ t, callHook publish kind event s = .ok () t ∧ Recorded s t ∧
      t.told = (if (s.hooks.get kind).isSome then [event] else []) ++ s.told := by
  rw [callHook_apply]
  cases hk : s.hooks.get kind with
  | none => exact ⟨s, rfl, .refl s, rfl⟩
  | some hook =>
      obtain ⟨t, ht, hrec, htold⟩ := recorded_forM publish kind (hook (s.calls.get kind) event)
        (hr kind hook hk _ _)
        { s.record event with calls := s.calls.set kind (s.calls.get kind + 1) }
      exact ⟨t, ht, ⟨hrec.standing, hrec.machine, hrec.lastResult, hrec.hooks, hrec.launched,
        hrec.batchSize⟩, htold⟩

end Scheduler
end Asm16
