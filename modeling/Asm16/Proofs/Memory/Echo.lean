import Asm16.Memory.Basic
import Asm16.Proofs.Step

/-!
# What watchers do to memory

A store is announced, and what watchers do on hearing of it may set off further stores.  However
deep that goes, there are four things they can do: be noted down, come, go, and store a byte inside
memory.  A preorder on memories that each of the four keeps is kept by a whole announcement, also
when a watcher gives up in the middle of it.

* `Memory.Echoes` — the four.  What comes and what is stored is among the reactions of a watcher
  that memory knew before.
* `Memory.Echoes.rel_deliver`, `rel_store` — an announcement and a store.
* `Memory.store_of_no_reactions` — watchers that do nothing let every store through.
-/

namespace Asm16
namespace Memory

/-- The preorder is kept by everything that watchers do on hearing of a change. -/
structure Echoes (P : Memory → Memory → Prop) : Prop where
  refl : ∀ m, P m m
  trans : ∀ {a b c}, P a b → P b c → P a c
  note : ∀ m notice, P m (m.note notice)
  unsubscribe : ∀ m name, P m (m.unsubscribe name)
  subscribe : ∀ {m₀ m name change recruit react},
    .subscribe recruit react ∈ m₀.reactions name change → P m₀ m →
    P m (m.subscribe ⟨recruit, react⟩)
  write : ∀ {m₀ m name change a v}, .write a v ∈ m₀.reactions name change → P m₀ m →
    m.cells.fits a 1 = true → P m (m.put a.toNat (lowByte v))

/-! ## Announcements -/

section Announcements

variable {P : Memory → Memory → Prop}

@[simp] lemma cells_introduce (m : Memory) (w : Watcher) : (m.introduce w).cells = m.cells := by
  rw [introduce]
  split <;> rfl

@[simp] lemma cells_subscribe (m : Memory) (w : Watcher) : (m.subscribe w).cells = m.cells :=
  cells_introduce m w

@[simp] lemma cells_unsubscribe (m : Memory) (name : Text) :
    (m.unsubscribe name).cells = m.cells :=
  cells_introduce m _

lemma final_require (a : Int) (width : Nat) (m : Memory) : Step.final (require a width) m = m := by
  rw [Step.final, require_apply]
  split
  next h =>
    split at h <;> cases h
    rfl
  next h =>
    split at h <;> cases h
    rfl

lemma final_storeWith (announce : Change → Step Memory Unit) (a : Nat) (b : Byte) (m : Memory) :
    Step.final (storeWith announce a b) m =
      Step.final (announce ⟨a, m.cells.byte a, b⟩) (m.put a b) := by
  rw [storeWith, Step.final_bind, Step.get_apply]
  simp only
  rw [Step.final_bind, Step.modify_apply]

lemma final_tell (announce : Change → Step Memory Unit) (change : Change) (name : Text)
    (m : Memory) : Step.final (tell announce change name) m =
      Step.final (((m.note ⟨name, change⟩).reactions name change).forM (perform announce))
        (m.note ⟨name, change⟩) := by
  rw [tell, Step.final_bind, Step.modify_apply]
  simp only
  rw [Step.final_bind, Step.get_apply]

lemma require_eq_ok {a : Int} {width : Nat} {m m' : Memory} (h : require a width m = .ok () m') :
    m.cells.fits a width = true ∧ m' = m := by
  rw [require_apply] at h
  split at h
  next hfits =>
    cases h
    exact ⟨hfits, rfl⟩
  next => cases h

variable (h : Echoes P)
include h

/-- One reaction, if the announcements it sets off keep the preorder. -/
lemma Echoes.rel_perform {announce : Change → Step Memory Unit}
    (hannounce : ∀ change m, P m (Step.final (announce change) m)) {m₀ m : Memory} {name : Text}
    {change : Change} {reaction : Reaction} (hreaction : reaction ∈ m₀.reactions name change)
    (hm : P m₀ m) : P m (Step.final (perform announce reaction) m) := by
  cases reaction with
  | subscribe recruit react => exact h.subscribe hreaction hm
  | unsubscribe left => exact h.unsubscribe m left
  | refuse e => exact h.refl m
  | write a v =>
      refine Step.rel_final_bind (P := P) h.trans ?_ fun _ m' hm' => ?_
      · rw [final_require]
        exact h.refl m
      · obtain ⟨hfits, rfl⟩ := require_eq_ok hm'
        rw [final_storeWith]
        exact h.trans (h.write hreaction hm hfits) (hannounce _ _)

lemma Echoes.rel_tell {announce : Change → Step Memory Unit}
    (hannounce : ∀ change m, P m (Step.final (announce change) m)) (change : Change) (name : Text)
    (m : Memory) : P m (Step.final (tell announce change name) m) := by
  rw [final_tell]
  refine h.trans (h.note m ⟨name, change⟩) ?_
  exact Step.rel_final_forM h.refl h.trans (m.note ⟨name, change⟩) _
    (fun reaction hreaction s hs => h.rel_perform hannounce hreaction hs) _ (h.refl _)

/-- **An announcement** keeps what everything that watchers do keeps, by induction on the depth. -/
theorem Echoes.rel_deliver : ∀ (depth : Nat) (change : Change) (m : Memory),
    P m (Step.final (deliver depth change) m)
  | 0, change, m => by
      rw [deliver, Step.final_bind, Step.get_apply]
      simp only
      split <;> exact h.refl m
  | depth + 1, change, m => by
      rw [deliver, Step.final_bind, Step.get_apply]
      exact Step.rel_final_forM h.refl h.trans m _
        (fun name _ s _ => h.rel_tell (Echoes.rel_deliver depth) change name s) m (h.refl m)

/-- A store changes its cell, and then watchers are told. -/
theorem Echoes.rel_store (a : Nat) (b : Byte) (m : Memory) :
    P (m.put a b) (Step.final (store a b) m) := by
  rw [store, final_storeWith]
  exact h.rel_deliver _ _ _

end Announcements

/-! ## Watchers that do nothing -/

lemma reactions_eq_nil {m : Memory} (h : ∀ w ∈ m.known, ∀ change, w.react change = [])
    (name : Text) (change : Change) : m.reactions name change = [] := by
  rw [reactions]
  split
  next w hw => exact h w (List.mem_of_find?_eq_some hw) change
  next => rfl

/-- Watchers that do nothing hear of a change, and that is all. -/
lemma forM_tell_of_no_reactions (announce : Change → Step Memory Unit) (change : Change) :
    ∀ (names : List Text) (m : Memory), (∀ name, m.reactions name change = []) →
      ∃ m', names.forM (tell announce change) m = .ok () m' ∧ m'.known = m.known ∧
        m'.subscribed = m.subscribed
  | [], m, _ => ⟨m, rfl, rfl, rfl⟩
  | name :: names, m, h => by
      have htell : tell announce change name m = .ok () (m.note ⟨name, change⟩) := by
        have hnoted : (m.note ⟨name, change⟩).reactions name change = [] := h name
        simp only [tell, Step.bind_apply, Step.modify_apply, Step.get_apply, hnoted]
        rfl
      obtain ⟨m', hm', hknown, hsubscribed⟩ :=
        forM_tell_of_no_reactions announce change names (m.note ⟨name, change⟩) h
      refine ⟨m', ?_, hknown, hsubscribed⟩
      rw [List.forM_eq_forM, List.forM_cons, Step.bind_apply, htell]
      exact hm'

/-- Watchers that do nothing let every store through. -/
lemma store_of_no_reactions {m : Memory} (h : ∀ name change, m.reactions name change = [])
    (a : Nat) (b : Byte) :
    ∃ m', store a b m = .ok () m' ∧ ∀ name change, m'.reactions name change = [] := by
  obtain ⟨m', hm', hknown, -⟩ := forM_tell_of_no_reactions (deliver (nestingLimit - 1))
    ⟨a, m.cells.byte a, b⟩ m.subscribed (m.put a b) fun name => h name _
  refine ⟨m', ?_, fun name change => ?_⟩
  · simp only [store, storeWith, Step.bind_apply, Step.get_apply, Step.modify_apply]
    exact hm'
  · rw [reactions, hknown]
    exact h name change

end Memory
end Asm16
