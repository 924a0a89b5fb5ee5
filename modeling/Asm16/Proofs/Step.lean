import Asm16.Step
import Mathlib.Tactic.Lemma

/-!
# Reasoning about steps

Six ways to speak of a step without unfolding its sequencing.

* `Step.Agree` — two steps, taken from related states, end alike: both with the same value or both
  with the same error, and in related states again.  It goes through sequencing, so that two whole
  computations are compared piece by piece.
* `Step.final` — the state a step ends with.  `final_bind` follows it through sequencing, and
  `rel_final_bind` and `rel_final_forM` carry a preorder on states from the parts to the whole,
  whichever way the parts end.
* `Step.bind_eq_ok_iff` and the lemmas behind it — a sequence that ends well, taken apart.
* `Step.Keeps` — an invariant that a step keeps, again whichever way it ends.
* `Step.Unless` — a preorder that one error breaks, and that holds of every other way to end.
* `Step.Gives` — what is true of every value that a step ends with, from whatever state.
-/

namespace Asm16
namespace Step

variable {σ τ α β : Type}

/-! ## Steps that end alike -/

/-- Two results with the same value or the same error, in related states. -/
inductive Alike (R : σ → τ → Prop) : EStateM.Result Error σ α → EStateM.Result Error τ α → Prop
  | ok {a : α} {s : σ} {t : τ} (related : R s t) : Alike R (.ok a s) (.ok a t)
  | error {e : Error} {s : σ} {t : τ} (related : R s t) : Alike R (.error e s) (.error e t)

/-- From related states, two steps end alike. -/
def Agree (R : σ → τ → Prop) (f : Step σ α) (g : Step τ α) : Prop :=
  ∀ s t, R s t → Alike R (f s) (g t)

variable {R : σ → τ → Prop}

lemma Agree.pure (a : α) : Agree R (pure a) (pure a) := fun _ _ h => .ok h

lemma Agree.throw (e : Error) : Agree R (throw e : Step σ α) (throw e) := fun _ _ h => .error h

/-- A computation that looks at no state agrees with itself. -/
lemma Agree.ofExcept (r : Except Error α) : Agree R (ofExcept r) (ofExcept r) := by
  cases r with
  | ok a => exact Agree.pure a
  | error e => exact Agree.throw e

lemma Agree.modify {f : σ → σ} {g : τ → τ} (h : ∀ s t, R s t → R (f s) (g t)) :
    Agree R (modify f) (modify g) := fun s t hst => .ok (h s t hst)

/-- **Agreement goes through sequencing.** -/
lemma Agree.bind {f : Step σ α} {g : Step τ α} {next : α → Step σ β} {next' : α → Step τ β}
    (h : Agree R f g) (hnext : ∀ a, Agree R (next a) (next' a)) :
    Agree R (f >>= next) (g >>= next') := by
  intro s t hst
  rw [bind_apply, bind_apply]
  have hfg := h s t hst
  generalize f s = r, g t = r' at hfg
  cases hfg with
  | ok related => exact hnext _ _ _ related
  | error related => exact .error related

/-- A step that looks at its state first: enough is that the continuations agree there. -/
lemma Agree.get_bind {next : σ → Step σ β} {next' : τ → Step τ β}
    (h : ∀ s t, R s t → Alike R (next s s) (next' t t)) :
    Agree R (get >>= next) (get >>= next') := by
  intro s t hst
  rw [bind_apply, bind_apply]
  exact h s t hst

/-! ## The state a step ends with -/

lemma map_apply (f : α → β) (step : Step σ α) (s : σ) :
    (f <$> step) s =
      match step s with
      | .ok a s' => .ok (f a) s'
      | .error e s' => .error e s' := by
  rw [map_eq_pure_bind, bind_apply]
  cases step s <;> rfl

lemma final_of_ok {step : Step σ α} {a : α} {s s' : σ} (h : step s = .ok a s') :
    final step s = s' := by simp [final, h]

lemma final_of_error {step : Step σ α} {e : Error} {s s' : σ} (h : step s = .error e s') :
    final step s = s' := by simp [final, h]

/-- A step that has an outcome ends with it, in its final state. -/
lemma eq_ok_of_outcome {step : Step σ α} {a : α} {s : σ} (h : outcome step s = .ok a) :
    step s = .ok a (final step s) := by
  unfold outcome at h
  unfold final
  cases hs : step s <;> rw [hs] at h <;> cases h
  rfl

lemma final_bind (step : Step σ α) (next : α → Step σ β) (s : σ) :
    final (step >>= next) s =
      match step s with
      | .ok a s' => final (next a) s'
      | .error _ s' => s' := by
  rw [final, bind_apply]
  cases step s <;> rfl

lemma outcome_bind (step : Step σ α) (next : α → Step σ β) (s : σ) :
    outcome (step >>= next) s =
      match step s with
      | .ok a s' => outcome (next a) s'
      | .error e _ => .error e := by
  rw [outcome, bind_apply]
  cases step s <;> rfl

lemma final_bind_of_ok {step : Step σ α} {a : α} {s s' : σ} (h : step s = .ok a s')
    (next : α → Step σ β) : final (step >>= next) s = final (next a) s' := by rw [final_bind, h]

lemma final_bind_of_error {step : Step σ α} {e : Error} {s s' : σ} (h : step s = .error e s')
    (next : α → Step σ β) : final (step >>= next) s = s' := by rw [final_bind, h]

/-- A value computed last leaves the state. -/
lemma final_bind_pure (step : Step σ α) (f : α → β) (s : σ) :
    final (step >>= fun a => Pure.pure (f a)) s = final step s := by
  rw [final_bind, final]
  cases step s <;> rfl

lemma final_map (f : α → β) (step : Step σ α) (s : σ) : final (f <$> step) s = final step s := by
  rw [map_eq_pure_bind, final_bind_pure]

/-- What a preorder says of two parts it says of their sequence. -/
lemma rel_final_bind {P : σ → σ → Prop} (trans : ∀ {a b c}, P a b → P b c → P a c)
    {step : Step σ α} {next : α → Step σ β} {s : σ} (h : P s (final step s))
    (hnext : ∀ a s', step s = .ok a s' → P s' (final (next a) s')) :
    P s (final (step >>= next) s) := by
  rw [final_bind]
  rw [final] at h
  cases hs : step s with
  | ok a s' =>
      rw [hs] at h
      exact trans h (hnext a s' hs)
  | error e s' =>
      rw [hs] at h
      exact h

/-- What a preorder says of each action it says of all of them in a row.  An action may count on
what the preorder has carried so far. -/
lemma rel_final_forM {P : σ → σ → Prop} (refl : ∀ a, P a a)
    (trans : ∀ {a b c}, P a b → P b c → P a c) {f : α → Step σ Unit} (start : σ) :
    ∀ (l : List α), (∀ a ∈ l, ∀ s, P start s → P s (final (f a) s)) →
      ∀ s, P start s → P s (final (l.forM f) s)
  | [], _, s, _ => refl s
  | a :: l, h, s, hs => by
      rw [List.forM_eq_forM, List.forM_cons]
      have ha := h a (by simp) s hs
      refine rel_final_bind (P := P) trans ha fun _ s' hs' => ?_
      rw [final_of_ok hs'] at ha
      exact rel_final_forM refl trans start l (fun b hb => h b (by simp [hb])) s' (trans hs ha)

/-! ## Steps that end well -/

/-- A sequence ends well just if both its parts do. -/
lemma bind_eq_ok_iff {step : Step σ α} {next : α → Step σ β} {s s' : σ} {b : β} :
    (step >>= next) s = .ok b s' ↔ ∃ a s₁, step s = .ok a s₁ ∧ next a s₁ = .ok b s' := by
  rw [bind_apply]
  cases hs : step s with
  | ok a s₁ => exact ⟨fun h => ⟨a, s₁, rfl, h⟩, fun ⟨_, _, ha, h⟩ => by (cases ha; exact h)⟩
  | error e s₁ => exact ⟨fun h => by (cases h), fun ⟨_, _, ha, _⟩ => by (cases ha)⟩

lemma ofExcept_eq_ok_iff {r : Except Error α} {s s' : σ} {a : α} :
    (ofExcept r : Step σ α) s = .ok a s' ↔ r = .ok a ∧ s' = s := by
  cases r with
  | ok b => simp [eq_comm]
  | error e => simp

/-- Behind a computation that looks at no state. -/
lemma ofExcept_bind_eq_ok_iff {r : Except Error α} {next : α → Step σ β} {s s' : σ} {b : β} :
    (ofExcept r >>= next) s = .ok b s' ↔ ∃ a, r = .ok a ∧ next a s = .ok b s' := by
  simp only [bind_eq_ok_iff, ofExcept_eq_ok_iff]
  constructor
  · rintro ⟨a, _, ⟨ha, rfl⟩, h⟩
    exact ⟨a, ha, h⟩
  · rintro ⟨a, ha, h⟩
    exact ⟨a, s, ⟨ha, rfl⟩, h⟩

lemma get_bind_apply (next : σ → Step σ β) (s : σ) : (get >>= next) s = next s s := rfl

/-! ## Invariants -/

/-- The step keeps an invariant, whichever way it ends. -/
def Keeps (P : σ → Prop) (step : Step σ α) : Prop := ∀ s, P s → P (final step s)

variable {P : σ → Prop}

lemma Keeps.pure (a : α) : Keeps P (Pure.pure a : Step σ α) := fun _ h => h

lemma Keeps.throw (e : Error) : Keeps P (throw e : Step σ α) := fun _ h => h

lemma Keeps.get : Keeps P (get : Step σ σ) := fun _ h => h

lemma Keeps.modify {f : σ → σ} (h : ∀ s, P s → P (f s)) : Keeps P (modify f : Step σ PUnit) := h

lemma Keeps.ofExcept (r : Except Error α) : Keeps P (ofExcept r : Step σ α) := fun s h => by
  rw [final_ofExcept]
  exact h

/-- **Invariants go through sequencing.** -/
lemma Keeps.bind {step : Step σ α} {next : α → Step σ β} (h : Keeps P step)
    (hnext : ∀ a, Keeps P (next a)) : Keeps P (step >>= next) := fun s hs =>
  rel_final_bind (P := fun s s' => P s → P s') (fun hab hbc ha => hbc (hab ha)) (h s)
    (fun a s' _ => hnext a s') hs

/-- Behind a computation that looks at no state, a step may count on its value. -/
lemma Keeps.ofExcept_bind {r : Except Error α} {next : α → Step σ β}
    (hnext : ∀ a, r = .ok a → Keeps P (next a)) : Keeps P (Step.ofExcept r >>= next) := by
  intro s hs
  rw [final_bind]
  cases r with
  | ok a => exact hnext a rfl s hs
  | error e => exact hs

lemma Keeps.forM {f : α → Step σ Unit} (h : ∀ a, Keeps P (f a)) (l : List α) :
    Keeps P (l.forM f) := fun s hs =>
  rel_final_forM (P := fun s s' => P s → P s') (fun _ => id) (fun hab hbc ha => hbc (hab ha)) s l
    (fun a _ s' _ => h a s') s id hs

/-- A step on a part keeps what follows from what it keeps of the part. -/
lemma Keeps.within {Q : τ → Prop} {part : σ → τ} {put : σ → τ → σ} {step : Step τ α}
    (h : Keeps Q step) (hpart : ∀ s, P s → Q (part s)) (hput : ∀ s t, P s → Q t → P (put s t)) :
    Keeps P (within part put step) := fun s hs => by
  rw [final_within]
  exact hput s _ hs (h _ (hpart s hs))

lemma final_attempt (step : Step σ α) (s : σ) : final (attempt step) s = final step s := by
  rw [final, final, attempt]
  cases step s with
  | ok a s' => rfl
  | error e s' => cases e <;> rfl

lemma Keeps.attempt {step : Step σ α} (h : Keeps P step) : Keeps P (attempt step) := fun s hs => by
  rw [final_attempt]
  exact h s hs

lemma Keeps.map {step : Step σ α} (h : Keeps P step) (f : α → β) : Keeps P (f <$> step) :=
  fun s hs => by
    rw [final_map]
    exact h s hs

/-! ## All ways to end but one -/

/-- Unless it ends with the error, the step takes a state to a related one. -/
def Unless (e : Error) (P : σ → σ → Prop) (step : Step σ α) : Prop :=
  ∀ s, outcome step s ≠ .error e → P s (final step s)

section Unless

variable {e : Error} {P : σ → σ → Prop}

lemma Unless.of_final {step : Step σ α} (h : ∀ s, P s (final step s)) : Unless e P step :=
  fun s _ => h s

/-- A step that ends as another one does, in whatever state that is taken. -/
lemma Unless.of_eq {step step' : Step σ α} {s s' : σ} (h : Unless e P step')
    (heq : step s = step' s') (hs : outcome step s ≠ .error e) : P s' (final step s) := by
  rw [outcome, heq] at hs
  rw [final, heq]
  exact h s' hs

/-- A step on a part relates the parts as it relates the states it was made for. -/
lemma Unless.within {Q : τ → τ → Prop} {step : Step τ α} (h : Unless e Q step) (part : σ → τ)
    (put : σ → τ → σ) (hput : ∀ s t, part (put s t) = t) :
    Unless e (fun s s' => Q (part s) (part s')) (Step.within part put step) := by
  intro s hs
  simp only [final_within, hput]
  refine h _ fun he => hs ?_
  rw [outcome] at he ⊢
  rw [Step.within]
  cases hstep : step (part s) <;> rw [hstep] at he <;> exact he

variable (trans : ∀ {a b c}, P a b → P b c → P a c)
include trans

lemma Unless.bind {step : Step σ α} {next : α → Step σ β} (h : Unless e P step)
    (hnext : ∀ a, Unless e P (next a)) : Unless e P (step >>= next) := by
  intro s hs
  rw [outcome_bind] at hs
  have hout : outcome step s ≠ .error e := by
    rw [outcome]
    cases hstep : step s with
    | ok a s' => exact nofun
    | error e' s' =>
        rw [hstep] at hs
        exact fun he => hs (congrArg Except.error (Except.error.inj he))
  refine rel_final_bind (P := P) trans (h s hout) fun a s' hstep => hnext a s' ?_
  rw [hstep] at hs
  exact hs

lemma Unless.forM (refl : ∀ a, P a a) {f : α → Step σ Unit} :
    ∀ (l : List α), (∀ a ∈ l, Unless e P (f a)) → Unless e P (l.forM f)
  | [], _ => .of_final refl
  | a :: l, h => by
      rw [List.forM_eq_forM, List.forM_cons]
      exact Unless.bind (P := P) trans (h a (by simp)) fun _ =>
        Unless.forM refl l fun b hb => h b (by simp [hb])

end Unless

/-! ## Values -/

/-- Whenever the step ends well, this is true of its value. -/
def Gives (P : α → Prop) (step : Step σ α) : Prop := ∀ s a s', step s = .ok a s' → P a

namespace Gives

variable {P : α → Prop} {Q : β → Prop} {step : Step σ α}

lemma any : Gives (fun _ => True) step := fun _ _ _ _ => trivial

lemma pure {a : α} (h : P a) : Gives P (Pure.pure a : Step σ α) := fun _ _ _ ha => by
  cases ha
  exact h

lemma throw (e : Error) : Gives P (throw e : Step σ α) := fun _ _ _ ha => by cases ha

/-- **What is true of values goes through sequencing.** -/
lemma bind {next : α → Step σ β} (h : Gives P step) (hnext : ∀ a, P a → Gives Q (next a)) :
    Gives Q (step >>= next) := by
  intro s b s' hb
  obtain ⟨a, s₁, ha, hb⟩ := bind_eq_ok_iff.1 hb
  exact hnext a (h s a s₁ ha) s₁ b s' hb

end Gives

end Step
end Asm16
