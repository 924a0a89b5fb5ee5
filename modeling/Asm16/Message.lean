import Asm16.Fault
import Asm16.Numeral.Digits
import Asm16.Text.Quoted

/-!
# Messages

The words of an error, where it has any.  Faults and the errors of a host's own hooks bring their
own; the rest speak for themselves by their kind.
-/

namespace Asm16

def Error.message? : Error → Option Text
  | .fault f => some f.message
  | .busy => some (text "cannot reset while a program is running")
  | .refused (.words words) => some words
  | .unknownFlag name => some name.quoted
  | .noLoop => some (text "no running event loop")
  | .badBatchSize size => some (text "batch_size must be positive, got " ++ signedDecimal size)
  | _ => none

/-- The message of a fault is its cause in words, then its detail. -/
theorem Error.message?_ofCause (cause : Cause) (detail : Text) :
    (Error.ofCause cause detail).message? = some (cause.description ++ text ": " ++ detail) := rfl

end Asm16
