import Asm16.Fault

/-!
# Steps

A step changes a state and ends with a value or with an error.  In either case it ends with the
state it has reached: nothing is rolled back when an error cuts a step short.

* `Step` — the type, with the usual sequencing.
* `Step.within` — a step on a part, as a step on the whole.
* `Step.ofExcept` — a computation that may fail but changes nothing.
* `Step.attempt` — catch a fault, and nothing else.

The equations here say what each combinator does to the state, so that later proofs never unfold
the sequencing.
-/

namespace Asm16

/-- A state change that ends with a value or an error, and with the state reached so far. -/
abbrev Step (σ α : Type) := EStateM Error σ α

namespace Step

variable {σ τ α β : Type}

/-- A computation that changes nothing. -/
def ofExcept : Except Error α → Step σ α
  | .ok a => pure a
  | .error e => throw e

/-- A step on the part that `part` shows and `put` replaces. -/
def within (part : σ → τ) (put : σ → τ → σ) (step : Step τ α) : Step σ α := fun s =>
  match step (part s) with
  | .ok a t => .ok a (put s t)
  | .error e t => .error e (put s t)

/-- Turn a fault into a value; any other error ends the step as before. -/
def attempt (step : Step σ α) : Step σ (Except Fault α) := fun s =>
  match step s with
  | .ok a s' => .ok (.ok a) s'
  | .error (.fault f) s' => .ok (.error f) s'
  | .error e s' => .error e s'

/-- The state a step ends with, whichever way it ends. -/
def final (step : Step σ α) (s : σ) : σ :=
  match step s with
  | .ok _ s' => s'
  | .error _ s' => s'

/-- How a step ends, the state apart. -/
def outcome (step : Step σ α) (s : σ) : Except Error α :=
  match step s with
  | .ok a _ => .ok a
  | .error e _ => .error e

/-! ## Equations -/

@[simp] theorem pure_apply (a : α) (s : σ) : (pure a : Step σ α) s = .ok a s := rfl

@[simp] theorem throw_apply (e : Error) (s : σ) : (throw e : Step σ α) s = .error e s := rfl

theorem bind_apply (step : Step σ α) (next : α → Step σ β) (s : σ) :
    (step >>= next) s =
      match step s with
      | .ok a s' => next a s'
      | .error e s' => .error e s' := by
  show EStateM.bind step next s = _
  unfold EStateM.bind
  split <;> simp_all

@[simp] theorem get_apply (s : σ) : (get : Step σ σ) s = .ok s s := rfl

@[simp] theorem set_apply (s t : σ) : (set t : Step σ PUnit) s = .ok ⟨⟩ t := rfl

@[simp] theorem modify_apply (f : σ → σ) (s : σ) : (modify f : Step σ PUnit) s = .ok ⟨⟩ (f s) := rfl

@[simp] theorem ofExcept_ok (a : α) : (ofExcept (.ok a) : Step σ α) = pure a := rfl

@[simp] theorem ofExcept_error (e : Error) : (ofExcept (.error e) : Step σ α) = throw e := rfl

@[simp] theorem final_ofExcept (r : Except Error α) (s : σ) : final (ofExcept r) s = s := by
  cases r <;> rfl

/-- A step on a part changes that part as the step does, and nothing else. -/
theorem final_within (part : σ → τ) (put : σ → τ → σ) (step : Step τ α) (s : σ) :
    final (within part put step) s = put s (final step (part s)) := by
  unfold final within
  split <;> split <;> simp_all

end Step
end Asm16
