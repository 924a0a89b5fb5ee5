import Asm16.Machine.Register
import Asm16.Numeral.Literal

/-!
# Operands

The operands of an instruction are tokens of source text.  A token is a memory reference if it
stands between brackets, a register if it is the name of one in either case, and an immediate if it
is a literal; it is looked at in this order.  Blanks around a token never matter.

* `isBracketed` — the token has the form of a memory reference.
* `addressOf` — the address between the brackets.
* `resolve` — the operand that a token means.
* `resolveRegister` — the register that a token means, where nothing else will do.
-/

namespace Asm16

inductive Operand
  | register (r : Register)
  | immediate (value : Int)
  | memory (address : Int)
  deriving DecidableEq, Repr

def isBracketed (token : Text) : Bool :=
  let t := token.trim
  Text.startsWith '[' t && Text.endsWith ']' t

/-- The text between the brackets of a trimmed token. -/
def inner (t : Text) : Text := (t.drop 1).dropLast

/-- The address that a bracketed token names. -/
def addressOf (token : Text) : Except Error Int := do
  match ← parseLiteral (inner token.trim) with
  | some a => .ok a
  | none => .error (.ofCause .badAddress token.trim)

/-- The register that a token names, in either case. -/
def registerOf? (token : Text) : Option Register := Register.ofName? token.trim.asciiLower

def immediateOf (token : Text) : Except Error Int := do
  match ← parseLiteral token.trim with
  | some n => .ok n
  | none => .error (.ofCause .badOperand token.trim)

/-- The operand that a token means. -/
def resolve (token : Text) : Except Error Operand :=
  if isBracketed token then (addressOf token).map .memory
  else match registerOf? token with
    | some r => .ok (.register r)
    | none => (immediateOf token).map .immediate

/-- The register that a token means. -/
def resolveRegister (token : Text) : Except Error Register :=
  match registerOf? token with
  | some r => .ok r
  | none => .error (.ofCause .unknownRegister token.trim)

/-! ## Blanks -/

@[simp] theorem isBracketed_trim (token : Text) : isBracketed token.trim = isBracketed token := by
  simp [isBracketed]

@[simp] theorem addressOf_trim (token : Text) : addressOf token.trim = addressOf token := by
  simp [addressOf]

@[simp] theorem registerOf?_trim (token : Text) : registerOf? token.trim = registerOf? token := by
  simp [registerOf?]

@[simp] theorem immediateOf_trim (token : Text) : immediateOf token.trim = immediateOf token := by
  simp [immediateOf]

/-- Blanks around a token do not change what it means. -/
@[simp] theorem resolve_trim (token : Text) : resolve token.trim = resolve token := by
  simp [resolve]

@[simp] theorem resolveRegister_trim (token : Text) :
    resolveRegister token.trim = resolveRegister token := by
  simp [resolveRegister]

end Asm16
