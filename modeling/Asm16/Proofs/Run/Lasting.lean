import Asm16.Proofs.Run.Journey

/-!
# What outlasts hooks

Hooks nest: one may reset the scheduler, the reset publishes a snapshot, and that calls hooks again.
What is true of a scheduler before and after is best proved for the few things that hooks and other
askers can do to it, and of these alone.

* `Lasting` — a property that outlasts each of them.  Which actions are taken is a parameter, one for
  each kind of hook, so that a property need not outlast what nobody asks for.
* `Lasting.controlWith`, `Lasting.act`, `Lasting.callHook`, `Lasting.publish` — then it outlasts every
  request and every call, at any depth.
* `Lasting.meet`, `Lasting.runLine` — and whatever others do while a run is in progress, and every line
  after which it goes on.
* `progress_publish`, `progress_callHook` — the first use: reports of progress are made by the run
  itself, and by nothing that any hook does.
-/

namespace Asm16

open Step (Keeps)

/-- The report of progress, if the event is one. -/
def Event.progress? : Event → Option (Int × Nat)
  | .progress processed total => some (processed, total)
  | _ => none

namespace Scheduler

/-- The reports of progress that were made, in order. -/
def progress (s : Scheduler) : List (Int × Nat) := s.events.filterMap Event.progress?

/-! ## Properties that last -/

/-- Whatever hooks do that take these actions, the property is still true afterwards. -/
structure Lasting (allowed : HookKind → HookAction → Prop) (P : Scheduler → Prop) : Prop where
  hooks {s : Scheduler} (h : P s) {kind : HookKind} {hook : Hook}
    (hhook : s.hooks.get kind = some hook) (count : Nat) (event : Event) :
      ∀ a ∈ hook count event, allowed kind a
  write {s : Scheduler} (h : P s) (entries : Log) : P (s.write entries)
  absorb {s : Scheduler} (h : P s) (m : Machine) : P (s.absorb m)
  note {s : Scheduler} (h : P s) : P (s.record .refusedReset)
  shown {s : Scheduler} (h : P s) : P (s.called .state s.snapshotEvent)
  launch {s : Scheduler} (h : P s) (launched : List Text) : P { s with launched }
  clear {s : Scheduler} (h : P s) (hidle : s.isBusy = false) : P s.cleared
  stop {s : Scheduler} (h : P s) {kind : HookKind} (hasked : allowed kind (.control .stop)) : P s.stop
  resize {s : Scheduler} (h : P s) {kind : HookKind} {size : Int}
    (hasked : allowed kind (.control (.setBatchSize size))) : P { s with batchSize := size }
  detach {s : Scheduler} (h : P s) {kind : HookKind} (hasked : allowed kind .detach) :
      P { s with hooks := s.hooks.set kind none }

namespace Lasting

variable {allowed : HookKind → HookAction → Prop} {P : Scheduler → Prop} (hP : Lasting allowed P)
  {inner : Step Scheduler Unit}

include hP

lemma onMachine {α : Type} (step : Step Machine α) : Keeps P (onMachine step) :=
  Keeps.within (Q := fun _ => True) (fun _ _ => trivial) (fun _ _ => trivial)
    fun _ m hs _ => hP.absorb hs m

lemma executeLine (line : Text) : Keeps P (executeLine line) :=
  (Keeps.modify fun _ hs => hP.write hs _).bind fun _ => hP.onMachine _

lemma resetWith (hinner : Keeps P inner) : Keeps P (resetWith inner) := by
  intro s hs
  cases hb : s.isBusy with
  | true => rwa [Step.final_of_error (resetWith_of_busy hb inner)]
  | false =>
      have hcleared := hinner _ (hP.clear hs hb)
      rw [Step.final] at hcleared ⊢
      rwa [resetWith_of_idle hb]

/-- **Every request.** -/
lemma controlWith (hinner : Keeps P inner) {kind : HookKind} {request : Control}
    (hasked : allowed kind (.control request)) : Keeps P (controlWith inner request) := by
  cases request with
  | stop => exact (Keeps.modify fun _ hs => hP.stop hs hasked).bind fun _ => .pure _
  | reset => exact (hP.resetWith hinner).bind fun _ => .pure _
  | isBusy => exact Keeps.get.bind fun _ => .pure _
  | setRegister name value => exact (hP.onMachine _).bind fun _ => .pure _
  | setBatchSize size => exact (Keeps.modify fun _ hs => hP.resize hs hasked).bind fun _ => .pure _
  | line source => exact (hP.executeLine source).bind fun _ => .pure _
  | peek indexes =>
      refine Keeps.get.bind fun s => ?_
      split
      · exact .pure _
      · exact Keeps.get.bind fun _ => (Keeps.ofExcept _).bind fun _ => .pure _
  | memory request => exact (hP.onMachine _).bind fun _ => .pure _

/-- **Every action of a hook.** -/
lemma act (hinner : Keeps P inner) {kind : HookKind} {a : HookAction} (hasked : allowed kind a) :
    Keeps P (act inner kind a) := by
  cases a with
  | control request => exact (hP.controlWith hinner hasked).bind fun _ => .pure _
  | refuse e => exact .throw e
  | detach => exact .modify fun _ hs => hP.detach hs hasked
  | tryReset =>
      intro s hs
      have hreset := hP.resetWith hinner s hs
      rw [Step.final] at hreset ⊢
      simp only [Scheduler.act]
      cases hr : Scheduler.resetWith inner s with
      | ok u t => rw [hr] at hreset; exact hreset
      | error e t =>
          rw [hr] at hreset
          cases e with
          | busy => exact hP.note hreset
          | _ => exact hreset
  | launch source =>
      refine Keeps.get.bind fun s => ?_
      split
      · exact .modify fun _ hs => hP.launch hs _
      · exact .throw _

/-- Actions one after the other. -/
lemma actions (hinner : Keeps P inner) (kind : HookKind) (actions : List HookAction)
    (hasked : ∀ a ∈ actions, allowed kind a) : Keeps P (actions.forM (Scheduler.act inner kind)) :=
  fun s hs => Step.rel_final_forM (P := fun t u => P t → P u) (fun _ => id)
    (fun htu huv ht => huv (htu ht)) s actions (fun a ha t _ => hP.act hinner (hasked a ha) t) s id hs

/-- **Every call of a hook**, if the property is true once the hook is told. -/
lemma callHook (hinner : Keeps P inner) (kind : HookKind) (event : Event) {s : Scheduler} (h : P s)
    (htold : P (s.called kind event)) : P (Step.final (callHook inner kind event) s) := by
  rw [Step.final, callHook_apply]
  cases hk : s.hooks.get kind with
  | none => exact h
  | some hook => exact hP.actions hinner kind _ (hP.hooks h hk _ event) _ htold

/-- A snapshot, by induction on the depth. -/
lemma publishWithin : ∀ depth, Keeps P (publishWithin depth)
  | 0 => by
      refine Keeps.get.bind fun s => ?_
      split
      · exact .pure _
      · exact .throw _
  | depth + 1 => fun s hs => by
      have hcall := hP.callHook (publishWithin depth) .state s.snapshotEvent hs (hP.shown hs)
      rw [Step.final] at hcall ⊢
      rwa [publishWithin_succ]

lemma publish : Keeps P publish := hP.publishWithin nestingLimit

lemma control (kind : HookKind) {request : Control} (hasked : allowed kind (.control request)) :
    Keeps P (control request) := hP.controlWith hP.publish hasked

/-- **Whatever others do** while a run is in progress. -/
lemma meet (kind : HookKind) (demand : Demand) {s : Scheduler}
    (hasked : ∀ request, demand = .control request → allowed kind (.control request))
    (hbusy : s.isBusy = true) (h : P s) : P (demand.meet s) := by
  cases demand with
  | run source =>
      have hrejected : Demand.meet (.run source) s = s.write rejectedEntries :=
        Step.final_of_ok (begin_of_busy source hbusy)
      rw [hrejected]
      exact hP.write h _
  | control request => exact hP.control kind (hasked request rfl) s h

/-- **Every line** after which a run goes on, if the count of instructions does not matter. -/
lemma runLine (hcounted : ∀ {s : Scheduler}, P s → ∀ n, P { s with executed := n })
    {program : Program} {i : Int} {s t : Scheduler} (h : P s)
    (hline : runLine program i s = .ok none t) : P t := by
  obtain ⟨line, i?, u, -, hu, hend⟩ := exists_of_runLine hline
  have hcarried := hP.executeLine line s h
  rw [Step.final_of_ok hu] at hcarried
  rcases hend with ⟨-, rfl⟩ | ⟨-, hp⟩
  · exact hcarried
  · have hpublished := hP.publish _ (hcounted hcarried (u.executed + 1))
    rwa [Step.final_of_ok hp] at hpublished

end Lasting

/-! ## Reports of progress -/

variable {s : Scheduler}

lemma progress_record (e : Event) (s : Scheduler) :
    (s.record e).progress = s.progress ++ e.progress?.toList := by
  rw [progress, events_record, List.filterMap_append, progress]
  cases h : e.progress? <;> simp [h]

lemma progress_absorb (s : Scheduler) (m : Machine) : (s.absorb m).progress = s.progress := by
  have hnone : (m.memory.journal.map Event.notice).filterMap Event.progress? = [] := by
    rw [List.filterMap_map]
    exact List.filterMap_eq_nil_iff.2 fun _ _ => rfl
  rw [progress, events_absorb, List.filterMap_append, hnone, List.append_nil, progress]

lemma progress_enter (r : RunState) (s : Scheduler) : (s.enter r).progress = s.progress := by
  rw [enter_eq]
  rfl

lemma progress_release (s : Scheduler) : s.release.progress = s.progress := by
  rw [release]
  split_ifs
  · rw [progress_enter]
  · rfl

/-- Nothing that a hook can do is a report of progress. -/
lemma lasting_progress (told : List (Int × Nat)) :
    Lasting (fun _ _ => True) fun s => s.progress = told where
  hooks _ _ _ _ _ _ _ _ := trivial
  write h _ := h
  absorb h m := (progress_absorb _ m).trans h
  note h := (progress_record _ _).trans (by rw [h]; exact List.append_nil _)
  shown h := (progress_record _ _).trans (by rw [h]; exact List.append_nil _)
  launch h _ := h
  clear h _ := (progress_enter _ _).trans h
  stop h _ _ := by
    rw [Scheduler.stop]
    split_ifs
    · rw [progress_enter]
      exact h
    · exact h
  resize h _ _ _ := h
  detach h _ _ := h

/-- **A snapshot is no report of progress**, and leads to none. -/
theorem progress_publish (s : Scheduler) : (Step.final publish s).progress = s.progress :=
  (lasting_progress s.progress).publish s rfl

/-- **What a call of a hook adds to the reports of progress** is what the hook is told. -/
theorem progress_callHook (kind : HookKind) (event : Event) (s : Scheduler) :
    (Step.final (callHook publish kind event) s).progress =
      s.progress ++ if (s.hooks.get kind).isSome then event.progress?.toList else [] := by
  cases hk : s.hooks.get kind with
  | none =>
      rw [Step.final, callHook_apply, hk]
      exact (List.append_nil _).symm
  | some hook =>
      have hlast := lasting_progress (s.called kind event).progress
      have hactions := hlast.actions hlast.publish kind (hook (s.calls.get kind) event)
        (fun _ _ => trivial) (s.called kind event) rfl
      rw [Step.final, callHook_apply, hk]
      exact hactions.trans (progress_record event s)

end Scheduler
end Asm16
