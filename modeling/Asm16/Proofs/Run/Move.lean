import Asm16.Proofs.Run.Hook
import Mathlib.Logic.Relation

/-!
# The moves of hooks

What courteous hooks do inside a call is made of a few moves, however deeply hooks and resets set
each other off: a stop, a hook detached, a task asked for, a reset with or without the snapshot that
follows it, and the note that a reset was refused.  `Move` has one constructor for each, with its
guard, and all that is said of hooks in this module is said of one move first.

* `Heard` — a hook was called for an event, and moves followed; or there was no hook.
* `heard_callHook`, `heard_publish` — calls of hooks are nothing else.
* `Unmoved` — what no move touches: the batch size, the last account, the loop, the reports of
  failures.
* `Still` — where no reset succeeds, neither machine nor counters are touched.
* `Rests` — at rest standing and machine stay as they are, or they become those of a reset.

The kinds of actions that hooks take are a parameter (`allowed`), so that a move can be excluded.
-/

namespace Asm16

/-- The line and the message of a failure, if one is reported. -/
def Event.failure? : Event → Option (Int × Text)
  | .failure line message => some (line, message)
  | _ => none

/-- Hooks that take these actions may reset the scheduler. -/
def MayReset (allowed : HookAction → Prop) : Prop := allowed (.control .reset) ∨ allowed .tryReset

lemma Hooks.Only.mono {allowed allowed' : HookAction → Prop} {hooks : Hooks}
    (h : hooks.Only allowed) (himp : ∀ a, allowed a → allowed' a) : hooks.Only allowed' :=
  fun kind hook hk count event a ha => himp a (h kind hook hk count event a ha)

lemma Hooks.Only.and {allowed allowed' : HookAction → Prop} {hooks : Hooks}
    (h : hooks.Only allowed) (h' : hooks.Only allowed') :
    hooks.Only fun a => allowed a ∧ allowed' a := fun kind hook hk count event a ha =>
  ⟨h kind hook hk count event a ha, h' kind hook hk count event a ha⟩

namespace Scheduler

/-- The failures that were reported, in order. -/
def failures (s : Scheduler) : List (Int × Text) := s.events.filterMap Event.failure?

/-- What a hook for snapshots is told. -/
def snapshotEvent (s : Scheduler) : Event :=
  .state s.machine.snapshot s.machine.memory.cells s.toStanding

/-- A hook is called: it is told of the event, and the call is counted. -/
def called (kind : HookKind) (event : Event) (s : Scheduler) : Scheduler :=
  { s.record event with calls := s.calls.set kind (s.calls.get kind + 1) }

/-- What an action of a courteous hook can do. -/
inductive Move (allowed : HookAction → Prop) : Scheduler → Scheduler → Prop
  | stop (s : Scheduler) (h : allowed (.control .stop)) : Move allowed s s.stop
  | detach (s : Scheduler) (kind : HookKind) (h : allowed .detach) :
      Move allowed s { s with hooks := s.hooks.set kind none }
  | launch (s : Scheduler) (source : Text) :
      Move allowed s { s with launched := s.launched ++ [source] }
  /-- A reset that nobody is shown. -/
  | clear {s : Scheduler} (h : MayReset allowed) (hidle : s.isBusy = false) :
      Move allowed s s.cleared
  /-- A reset and the snapshot that it publishes. -/
  | reveal {s : Scheduler} (h : MayReset allowed) (hidle : s.isBusy = false)
      (hhook : s.hooks.state.isSome = true) :
      Move allowed s (s.cleared.called .state s.cleared.snapshotEvent)
  | note (s : Scheduler) (h : allowed .tryReset) : Move allowed s (s.record .refusedReset)

abbrev Moves (allowed : HookAction → Prop) : Scheduler → Scheduler → Prop :=
  Relation.ReflTransGen (Move allowed)

/-- The hook of a kind was called and made its moves, or there is none. -/
def Heard (allowed : HookAction → Prop) (kind : HookKind) (event : Event) (s t : Scheduler) : Prop :=
  s.hooks.get kind = none ∧ t = s ∨
    (s.hooks.get kind).isSome = true ∧ Moves allowed (s.called kind event) t

variable {allowed : HookAction → Prop} {s t : Scheduler}

/-! ## What no move touches -/

lemma failures_record (e : Event) (s : Scheduler) :
    (s.record e).failures = s.failures ++ e.failure?.toList := by
  rw [failures, events_record, List.filterMap_append, failures]
  cases h : e.failure? <;> simp [h]

lemma failures_called (kind : HookKind) (e : Event) (s : Scheduler) :
    (s.called kind e).failures = s.failures ++ e.failure?.toList := failures_record e s

/-- Neither hooks nor lines of a run touch these. -/
structure Unmoved (allowed : HookAction → Prop) (s t : Scheduler) : Prop where
  batchSize : t.batchSize = s.batchSize
  lastResult : t.lastResult = s.lastResult
  loop : t.loop = s.loop
  hooks : t.hooks.Within s.hooks
  attached : ¬ allowed .detach → t.hooks = s.hooks
  failures : t.failures = s.failures

lemma Unmoved.refl (s : Scheduler) : Unmoved allowed s s :=
  ⟨rfl, rfl, rfl, .refl _, fun _ => rfl, rfl⟩

lemma Unmoved.trans {a b c : Scheduler} (hab : Unmoved allowed a b) (hbc : Unmoved allowed b c) :
    Unmoved allowed a c where
  batchSize := hbc.batchSize.trans hab.batchSize
  lastResult := hbc.lastResult.trans hab.lastResult
  loop := hbc.loop.trans hab.loop
  hooks := hbc.hooks.trans hab.hooks
  attached h := (hbc.attached h).trans (hab.attached h)
  failures := hbc.failures.trans hab.failures

/-- What leaves all these fields alone leaves them untouched. -/
lemma Unmoved.of_eq (hsize : t.batchSize = s.batchSize) (hresult : t.lastResult = s.lastResult)
    (hloop : t.loop = s.loop) (hhooks : t.hooks = s.hooks) (hfailures : t.failures = s.failures) :
    Unmoved allowed s t :=
  ⟨hsize, hresult, hloop, by rw [hhooks]; exact .refl _, fun _ => hhooks, hfailures⟩

lemma Unmoved.called (kind : HookKind) {e : Event} (he : e.failure? = none) (s : Scheduler) :
    Unmoved allowed s (s.called kind e) :=
  .of_eq rfl rfl rfl rfl (by rw [failures_called, he, Option.toList_none, List.append_nil])

lemma Unmoved.enter (r : RunState) (s : Scheduler) : Unmoved allowed s (s.enter r) := by
  rw [enter_eq]
  exact .of_eq rfl rfl rfl rfl rfl

lemma Unmoved.cleared (s : Scheduler) : Unmoved allowed s s.cleared := by
  rw [Scheduler.cleared, enter_eq]
  exact .of_eq rfl rfl rfl rfl rfl

lemma Unmoved.stop (s : Scheduler) : Unmoved allowed s s.stop := by
  rw [Scheduler.stop]
  split_ifs
  · rw [enter_eq]
    exact .of_eq rfl rfl rfl rfl rfl
  · exact .refl s

lemma Move.unmoved (h : Move allowed s t) : Unmoved allowed s t := by
  cases h with
  | stop => exact .stop s
  | detach kind h => exact ⟨rfl, rfl, rfl, .set_none _ _, fun hnot => absurd h hnot, rfl⟩
  | launch source => exact .of_eq rfl rfl rfl rfl rfl
  | clear => exact .cleared s
  | reveal => exact .trans (.cleared s) (.called _ rfl _)
  | note => exact .of_eq rfl rfl rfl rfl (by simp [failures_record, Event.failure?])

lemma Moves.unmoved (h : Moves allowed s t) : Unmoved allowed s t := by
  induction h with
  | refl => exact .refl s
  | tail _ hmove ih => exact ih.trans hmove.unmoved

lemma Heard.unmoved {kind : HookKind} {e : Event} (h : Heard allowed kind e s t)
    (he : e.failure? = none) : Unmoved allowed s t := by
  rcases h with ⟨-, rfl⟩ | ⟨-, h⟩
  · exact .refl _
  · exact .trans (.called kind he s) h.unmoved

/-- A hook that is called for a failure hears of it once. -/
lemma Heard.failures {kind : HookKind} {line : Int} {message : Text}
    (h : Heard allowed kind (.failure line message) s t) :
    t.failures = s.failures ++ if (s.hooks.get kind).isSome then [(line, message)] else [] := by
  rcases h with ⟨hnone, rfl⟩ | ⟨hsome, h⟩
  · rw [hnone]
    exact (List.append_nil _).symm
  · rw [h.unmoved.failures, failures_called, hsome]
    rfl

/-! ## Calls of hooks -/

section Calls

variable (hcourteous : ∀ a, allowed a → a.IsCourteous) {publish : Step Scheduler Unit}
  (hpublish : ∀ s : Scheduler, s.hooks.Only allowed → Step.final publish s = s ∨
    s.hooks.state.isSome = true ∧
      Moves allowed (s.called .state s.snapshotEvent) (Step.final publish s))

include hpublish in
/-- A reset is refused, or it is a move of its own. -/
lemma moves_resetWith (hreset : MayReset allowed) (h : s.hooks.Only allowed) :
    Moves allowed s (Step.final (resetWith publish) s) := by
  cases hs : s.isBusy with
  | true =>
      rw [Step.final_of_error (resetWith_of_busy hs publish)]
  | false =>
      have hhooks : s.cleared.hooks = s.hooks := by rw [cleared, enter_eq]
      rw [Step.final, resetWith_of_idle hs, ← Step.final]
      rcases hpublish s.cleared (hhooks ▸ h) with hsame | ⟨hhook, hmoves⟩
      · rw [hsame]
        exact .single (.clear hreset hs)
      · exact .head (.reveal hreset hs (hhooks ▸ hhook)) hmoves

include hcourteous hpublish in
/-- **One action** of a courteous hook is made of moves. -/
lemma moves_act {a : HookAction} (ha : allowed a) (kind : HookKind) (h : s.hooks.Only allowed) :
    Moves allowed s (Step.final (act publish kind a) s) := by
  have hact := hcourteous a ha
  cases a with
  | control request =>
      cases request with
      | stop => exact .single (.stop s ha)
      | reset =>
          have hmoves := moves_resetWith hpublish (.inl ha) h
          rw [Step.final] at hmoves ⊢
          simp only [act, controlWith, Step.bind_apply]
          cases hr : resetWith publish s <;> rw [hr] at hmoves <;> exact hmoves
      | isBusy => exact .refl
      | _ => exact absurd hact id
  | refuse e => exact .refl
  | detach => exact .single (.detach s kind ha)
  | tryReset =>
      have hmoves := moves_resetWith hpublish (.inr ha) h
      rw [Step.final] at hmoves ⊢
      simp only [act]
      cases hr : resetWith publish s with
      | ok u t => rw [hr] at hmoves; exact hmoves
      | error e t =>
          rw [hr] at hmoves
          cases e with
          | busy => exact .tail hmoves (.note t ha)
          | _ => exact hmoves
  | launch source =>
      rw [Step.final, act_launch]
      split_ifs
      · exact .single (.launch s source)
      · exact .refl

include hcourteous hpublish in
/-- **A call of a hook** is the event, counted, and then moves. -/
lemma heard_callHookWith (kind : HookKind) (e : Event) (h : s.hooks.Only allowed) :
    Heard allowed kind e s (Step.final (callHook publish kind e) s) := by
  rw [Step.final, callHook_apply]
  cases hk : s.hooks.get kind with
  | none => exact .inl ⟨hk, rfl⟩
  | some hook =>
      refine .inr ⟨by rw [hk]; rfl, ?_⟩
      refine Step.rel_final_forM (P := Moves allowed) (fun _ => .refl) .trans (s.called kind e) _ ?_ _
        .refl
      intro a ha t ht
      exact moves_act hcourteous hpublish (h kind hook hk _ _ a ha) kind
        (h.of_within ht.unmoved.hooks)

end Calls

variable (hcourteous : ∀ a, allowed a → a.IsCourteous)

include hcourteous in
/-- However deeply they nest, snapshots are published in moves. -/
theorem moves_publishWithin : ∀ (depth : Nat) (s : Scheduler), s.hooks.Only allowed →
    Step.final (publishWithin depth) s = s ∨
      s.hooks.state.isSome = true ∧
        Moves allowed (s.called .state s.snapshotEvent) (Step.final (publishWithin depth) s)
  | 0, s, _ => by
      refine .inl ?_
      rw [Step.final]
      simp only [publishWithin, Step.bind_apply, Step.get_apply]
      cases s.hooks.state.isNone <;> rfl
  | depth + 1, s, h => by
      rw [Step.final, publishWithin_succ, ← Step.final]
      rcases heard_callHookWith hcourteous (moves_publishWithin depth) .state s.snapshotEvent h with
        ⟨-, hsame⟩ | hheard
      · exact .inl hsame
      · exact .inr hheard

include hcourteous in
theorem heard_callHook (kind : HookKind) (e : Event) (h : s.hooks.Only allowed) :
    Heard allowed kind e s (Step.final (callHook publish kind e) s) :=
  heard_callHookWith hcourteous (moves_publishWithin hcourteous nestingLimit) kind e h

include hcourteous in
theorem heard_publish (h : s.hooks.Only allowed) :
    Heard allowed .state s.snapshotEvent s (Step.final publish s) := by
  rw [Step.final, publish_apply, ← Step.final]
  exact heard_callHookWith hcourteous (moves_publishWithin hcourteous _) .state s.snapshotEvent h

/-! ## Moves at rest -/

/-- No run is in progress; standing and machine are as they were, or they are those of a reset. -/
structure Rests (allowed : HookAction → Prop) (s t : Scheduler) : Prop where
  idle : t.isBusy = false
  kept : t.toStanding = s.toStanding ∧ t.machine = s.machine ∨
    MayReset allowed ∧ t.toStanding = {} ∧ t.machine = s.machine.reset

lemma Rests.refl (hidle : s.isBusy = false) : Rests allowed s s := ⟨hidle, .inl ⟨rfl, rfl⟩⟩

lemma Rests.trans {a b c : Scheduler} (hab : Rests allowed a b) (hbc : Rests allowed b c) :
    Rests allowed a c where
  idle := hbc.idle
  kept := by
    rcases hab.kept with ⟨hstanding, hmachine⟩ | ⟨-, -, hmachine⟩
    · rw [← hstanding, ← hmachine]
      exact hbc.kept
    · rcases hbc.kept with ⟨hstanding', hmachine'⟩ | ⟨hreset, hstanding', hmachine'⟩
      · rw [hstanding', hmachine']
        exact hab.kept
      · rw [hmachine] at hmachine'
        exact .inr ⟨hreset, hstanding', hmachine'⟩

lemma Move.rests (h : Move allowed s t) (hidle : s.isBusy = false) : Rests allowed s t := by
  cases h with
  | stop =>
      rw [stop_of_idle hidle]
      exact .refl hidle
  | clear hreset | reveal hreset =>
      simp only [called, cleared, enter_eq]
      exact ⟨rfl, .inr ⟨hreset, rfl, rfl⟩⟩
  | detach | launch | note => exact ⟨hidle, .inl ⟨rfl, rfl⟩⟩

/-- **At rest** hooks leave standing and machine as they are, or they leave those of a reset. -/
theorem Moves.rests (h : Moves allowed s t) (hidle : s.isBusy = false) : Rests allowed s t := by
  induction h with
  | refl => exact .refl hidle
  | tail _ hmove ih => exact ih.trans (hmove.rests ih.idle)

/-- What a call of a hook at rest leaves of standing and machine. -/
lemma Heard.rests {kind : HookKind} {e : Event} (h : Heard allowed kind e s t)
    (hidle : s.isBusy = false) : Rests allowed s t := by
  rcases h with ⟨-, rfl⟩ | ⟨-, h⟩
  · exact .refl hidle
  · have hrests := h.rests hidle
    exact ⟨hrests.idle, hrests.kept⟩

/-! ## Moves without resets -/

/-- The scheduler is as it was, apart from the hooks attached, the tasks asked for, the log, a run
that may have been asked to stop, and notes of resets that were refused. -/
structure Still (s t : Scheduler) : Prop where
  machine : t.machine = s.machine
  executed : t.executed = s.executed
  processed : t.processed = s.processed
  total : t.total = s.total
  calls : t.calls = s.calls
  runState : t.runState = s.runState ∨ s.runState = .running ∧ t.runState = .stopping
  told : Tells (fun e => e = .refusedReset) s t

lemma Still.refl (s : Scheduler) : Still s s := ⟨rfl, rfl, rfl, rfl, rfl, .inl rfl, .refl s⟩

lemma Still.isBusy (h : Still s t) : t.isBusy = s.isBusy := by
  rw [Scheduler.isBusy, Scheduler.isBusy]
  rcases h.runState with h | ⟨h, h'⟩
  · rw [h]
  · rw [h, h']
    rfl

lemma Still.runState_of_idle (h : Still s t) (hidle : s.isBusy = false) :
    t.runState = s.runState := by
  rcases h.runState with h | ⟨h, -⟩
  · exact h
  · rw [Scheduler.isBusy, h] at hidle
    cases hidle

lemma Still.trans {a b c : Scheduler} (hab : Still a b) (hbc : Still b c) : Still a c where
  machine := hbc.machine.trans hab.machine
  executed := hbc.executed.trans hab.executed
  processed := hbc.processed.trans hab.processed
  total := hbc.total.trans hab.total
  calls := hbc.calls.trans hab.calls
  runState := by
    rcases hab.runState with h | ⟨h, h'⟩
    · rw [← h]; exact hbc.runState
    · refine .inr ⟨h, ?_⟩
      rcases hbc.runState with h'' | ⟨h'', -⟩
      · rw [h'', h']
      · rw [h'] at h''; cases h''
  told := hab.told.trans hbc.told

/-- **Where resets are refused or not asked for**, hooks touch neither machine nor counters. -/
theorem Moves.still (h : Moves allowed s t) (hreset : MayReset allowed → s.isBusy = true) :
    Still s t := by
  induction h with
  | refl => exact .refl s
  | tail _ hmove ih =>
      refine ih.trans ?_
      have hbusy : MayReset allowed → _ := fun h => ih.isBusy.trans (hreset h)
      cases hmove with
      | stop =>
          rw [Scheduler.stop]
          split_ifs with hrunning
          · rw [enter_eq]
            exact ⟨rfl, rfl, rfl, rfl, rfl, .inr ⟨hrunning, rfl⟩, .of_told_eq rfl⟩
          · exact .refl _
      | detach | launch => exact ⟨rfl, rfl, rfl, rfl, rfl, .inl rfl, .of_told_eq rfl⟩
      | clear h hidle | reveal h hidle =>
          rw [hbusy h] at hidle
          cases hidle
      | note =>
          exact ⟨rfl, rfl, rfl, rfl, rfl, .inl rfl,
            .record (P := fun e => e = .refusedReset) rfl _⟩

/-- At rest and without resets a call of a hook touches neither machine nor run state. -/
lemma Heard.still_of_idle {kind : HookKind} {e : Event} (h : Heard allowed kind e s t)
    (hreset : ¬ MayReset allowed) (hidle : s.isBusy = false) :
    t.machine = s.machine ∧ t.runState = s.runState := by
  rcases h with ⟨-, rfl⟩ | ⟨-, h⟩
  · exact ⟨rfl, rfl⟩
  · have hstill := h.still fun h => absurd h hreset
    exact ⟨hstill.machine, hstill.runState_of_idle hidle⟩

end Scheduler
end Asm16
