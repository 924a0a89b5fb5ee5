import Asm16.Text.Basic

/-!
# Faults and errors

Two layers, because they are treated differently when a program runs.

* `Fault` — an instruction cannot be carried out.  It has a cause and mostly a detail, which is the
  offending piece of source.  A run catches faults and reports them with their line number.
* `Error` — anything that can end a step early.  A fault is one of them; the others are never
  caught by a run: they reach whoever asked for the step.

Nothing is rolled back on the way out (see `Asm16.Step`), so an error says what stopped a step, not
that nothing has happened.
-/

namespace Asm16

/-- Why an instruction cannot be carried out. -/
inductive Cause
  | unspecified
  /-- The line does not have the shape of an instruction. -/
  | badFormat
  | unknownInstruction
  /-- A register is needed and the token names none. -/
  | unknownRegister
  /-- The token is no operand, or not one that may stand here. -/
  | badOperand
  /-- The text between the brackets is no number. -/
  | badAddress
  | outOfRange
  | divideByZero
  /-- The quotient does not fit into a word. -/
  | divideOverflow
  /-- There are fewer operands than the mnemonic takes. -/
  | missingArguments
  deriving DecidableEq, Repr

def Cause.description : Cause → Text
  | .unspecified => text "Instruction error"
  | .badFormat => text "Invalid instruction format"
  | .unknownInstruction => text "Unknown instruction"
  | .unknownRegister => text "Invalid register"
  | .badOperand => text "Invalid operand"
  | .badAddress => text "Invalid memory address"
  | .outOfRange => text "Memory access out of bounds"
  | .divideByZero => text "Division by zero"
  | .divideOverflow => text "Division overflow"
  | .missingArguments => text "Missing arguments"

/-- A failed instruction: the cause, and the piece of source or the address concerned. -/
structure Fault where
  cause : Cause
  detail : Option Text := none
  deriving DecidableEq, Repr

/-- The cause in words, then the detail if there is one. -/
def Fault.message (f : Fault) : Text :=
  match f.detail with
  | none => f.cause.description
  | some detail => f.cause.description ++ text ": " ++ detail

/-- Why a host's own hook or watcher gave up. -/
inductive Reason
  /-- What it says of it in words of its own. -/
  | words (words : Text)
  /-- It has nothing left to give, which is how an iteration ends. -/
  | exhausted
  deriving DecidableEq, Repr

instance : Coe Text Reason := ⟨.words⟩

/-- What can end a step early. -/
inductive Error
  | fault (f : Fault)
  /-- A decimal numeral is longer than the limit. -/
  | longNumeral
  /-- The request is not allowed while a program runs. -/
  | busy
  /-- A host's own hook or watcher gave up. -/
  | refused (reason : Reason)
  | unknownFlag (name : Text)
  /-- An index into the view of memory is outside. -/
  | noSuchCell (index : Int)
  /-- The view of memory cannot be written through. -/
  | readOnly
  /-- A line of the program was asked for that it does not have. -/
  | noSuchLine (index : Int)
  /-- A batch needs at least one line. -/
  | badBatchSize (size : Int)
  /-- A quotient is beyond the largest finite binary64 number. -/
  | tooLarge
  | cancelled
  /-- Hooks or watchers set each other off too deeply. -/
  | nestedTooDeeply
  /-- The task that is waited for never ends. -/
  | starved
  /-- There is no loop that could take a task. -/
  | noLoop
  /-- An option was given nothing to work with. -/
  | nothingGiven
  deriving DecidableEq, Repr

/-- A fault with a detail, as an error. -/
def Error.ofCause (cause : Cause) (detail : Text) : Error := .fault ⟨cause, some detail⟩

/-- The error of a run in which a step has ended in this one.  A run is stepped like an iteration by
whoever waits for it, so the end of an iteration may not come out of it: another error takes its
place.  All others come out as they are. -/
def Error.outOfRun : Error → Error
  | .refused .exhausted => .refused (.words (text "coroutine raised StopIteration"))
  | e => e

theorem Error.outOfRun_of_ne {e : Error} (h : e ≠ .refused .exhausted) : e.outOfRun = e := by
  cases e with
  | refused reason =>
    cases reason with
    | words => rfl
    | exhausted => exact absurd rfl h
  | _ => rfl

end Asm16
