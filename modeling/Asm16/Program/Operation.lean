import Asm16.Log
import Asm16.Machine.Basic
import Asm16.Program.Instruction
import Asm16.Program.Operand

/-!
# Operations

An operation is an instruction whose mnemonic is in the instruction set and has the number of
operands it takes.  Its operands are still tokens: what they mean is found out while it is carried
out, so the order in which they are looked at decides which fault wins.

* `Mnemonic` — the instruction set.
* `Operation.of` — from an instruction, or the fault that says why not.
* `Operation.perform` — carry an operation out on a machine.
* `Machine.execute`, `Machine.executeLine` — carry out an instruction, or a source line.
* `Instruction.announcement`, `lineAnnouncement` — what carrying them out leaves in the log.  It
  depends on the source alone: an operation is announced before anything is done for it.

Arithmetic is on integers and cut to a word when it is stored.  Flags are computed from the integers
before they are cut.
-/

namespace Asm16

inductive Mnemonic
  | mov | push | pop | add | sub | mul | div
  deriving DecidableEq, Repr

namespace Mnemonic

def name : Mnemonic → Text
  | .mov => ['m', 'o', 'v']
  | .push => ['p', 'u', 's', 'h']
  | .pop => ['p', 'o', 'p']
  | .add => ['a', 'd', 'd']
  | .sub => ['s', 'u', 'b']
  | .mul => ['m', 'u', 'l']
  | .div => ['d', 'i', 'v']

/-- The mnemonic that is written so. -/
def ofName? : Text → Option Mnemonic
  | ['m', 'o', 'v'] => some .mov
  | ['p', 'u', 's', 'h'] => some .push
  | ['p', 'o', 'p'] => some .pop
  | ['a', 'd', 'd'] => some .add
  | ['s', 'u', 'b'] => some .sub
  | ['m', 'u', 'l'] => some .mul
  | ['d', 'i', 'v'] => some .div
  | _ => none

@[simp] theorem ofName?_name (m : Mnemonic) : ofName? m.name = some m := by cases m <;> rfl

theorem ofName?_eq_some_iff {t : Text} {m : Mnemonic} : ofName? t = some m ↔ t = m.name := by
  constructor
  · intro h
    unfold ofName? at h
    split at h <;> cases h <;> rfl
  · rintro rfl
    exact ofName?_name m

def arity : Mnemonic → Nat
  | .mov | .add | .sub => 2
  | .push | .pop | .mul | .div => 1

end Mnemonic

/-- A mnemonic with its operands, as tokens. -/
inductive Operation
  | mov (dest src : Text)
  | push (src : Text)
  | pop (dest : Text)
  | add (dest src : Text)
  | sub (dest src : Text)
  | mul (src : Text)
  | div (src : Text)
  deriving DecidableEq, Repr

/-- The signs of two operands and of the result show a signed overflow.  Signs are bit 15, so
operands beyond sixteen bits are judged by that bit alone. -/
def overflows (a b result : Int) (adding : Bool) : Bool :=
  if adding then signBit a == signBit b && signBit a != signBit result
  else signBit a != signBit b && signBit b == signBit result

namespace Operation

/-- The operation that an instruction stands for. -/
def of (i : Instruction) : Except Error Operation :=
  match Mnemonic.ofName? i.mnemonic with
  | none => .error (.ofCause .unknownInstruction i.mnemonic)
  | some m =>
    if i.operands.length < m.arity then
      .error (.ofCause .missingArguments (i.mnemonic ++ text " expects " ++ decimal m.arity))
    else match m, i.operands with
      | .mov, [dest, src] => .ok (.mov dest src)
      | .push, [src] => .ok (.push src)
      | .pop, [dest] => .ok (.pop dest)
      | .add, [dest, src] => .ok (.add dest src)
      | .sub, [dest, src] => .ok (.sub dest src)
      | .mul, [src] => .ok (.mul src)
      | .div, [src] => .ok (.div src)
      | _, _ => .error (.ofCause .badFormat i.print)

/-- The integer that an operand has on a machine.  A memory reference has none: only a word transfer
may name memory. -/
def value (m : Machine) : Operand → Except Error Int
  | .register r => .ok (m.valueAt r)
  | .immediate n => .ok n
  | .memory a => do .error (.ofCause .badOperand (['['] ++ (← decimal? a) ++ [']']))

/-- The integer that a token has on the machine. -/
def valueOf (token : Text) : Step Machine Int := do
  let operand ← Step.ofExcept (resolve token)
  Step.ofExcept (value (← get) operand)

def load (a : Int) : Step Machine Int := do
  return ((← Machine.onMemory (Memory.readWord a)).toNat : Int)

def save (a n : Int) : Step Machine Unit := Machine.onMemory (Memory.writeWord a n)

/-- Move a word: the source is looked at first, then the destination. -/
def move (dest src : Text) : Step Machine Unit := do
  let source ← Step.ofExcept (resolve src)
  if isBracketed dest then
    let a ← Step.ofExcept (addressOf dest)
    let n ← Step.ofExcept (value (← get) source)
    save a n
  else
    let r ← Step.ofExcept (resolveRegister dest)
    match source with
    | .memory a => do
      let n ← load a
      modify (·.put r n)
    | source => do
      let n ← Step.ofExcept (value (← get) source)
      modify (·.put r n)

/-- Push a word: the stack pointer moves first, and stays moved if there is no room. -/
def pushWord (src : Text) : Step Machine Unit := do
  let n ← valueOf src
  modify fun m => m.put .sp (m.valueAt .sp - 2)
  save ((← get).valueAt .sp) n

/-- Pop a word: the destination is set last, so that a word popped into the stack pointer stays. -/
def popWord (dest : Text) : Step Machine Unit := do
  let r ← Step.ofExcept (resolveRegister dest)
  let top := (← get).valueAt .sp
  let n ← load top
  modify fun m => (m.put .sp (top + 2)).put r n

def combine (dest src : Text) (adding : Bool) : Step Machine Unit := do
  let b ← valueOf src
  let r ← Step.ofExcept (resolveRegister dest)
  let a := (← get).valueAt r
  let result := if adding then a + b else a - b
  let carry : Bool := if adding then 0xFFFF < result else a < b
  modify fun m => (m.put r result).updateFlags result carry (overflows a b result adding)

/-- Multiply the accumulator; carry and overflow say that the product is longer than a word. -/
def multiply (src : Text) : Step Machine Unit := do
  let b := (← valueOf src) % 65536
  let product := (← get).valueAt .ax * b
  let long : Bool := 0xFFFF < product
  modify fun m =>
    let m := m.put .ax product
    { m with flags := (m.flags.put .cf long).put .of long }

/-- Divide the accumulator; the remainder goes to the data register.  A quotient longer than a word
is refused. -/
def divide (src : Text) : Step Machine Unit := do
  let b := (← valueOf src) % 65536
  if b = 0 then throw (.ofCause .divideByZero src.trim)
  else
    let a := (← get).valueAt .ax
    if 0xFFFF < a / b then
      throw (.ofCause .divideOverflow (numeral 10 a.toNat ++ text " / " ++ numeral 10 b.toNat))
    else modify fun m => (m.put .ax (a / b)).put .dx (a % b)

def perform : Operation → Step Machine Unit
  | .mov dest src => move dest src
  | .push src => pushWord src
  | .pop dest => popWord dest
  | .add dest src => combine dest src true
  | .sub dest src => combine dest src false
  | .mul src => multiply src
  | .div src => divide src

end Operation

namespace Machine

def execute (i : Instruction) : Step Machine Unit := do
  (← Step.ofExcept (Operation.of i)).perform

/-- Carry out a source line; the answer is its instruction, `none` if it holds none. -/
def executeLine (line : Text) : Step Machine (Option Instruction) := do
  match ← Step.ofExcept (Instruction.decode line) with
  | none => return none
  | some i => do
    execute i
    return some i

end Machine

/-- What carrying out an instruction leaves in the log. -/
def Instruction.announcement (i : Instruction) : Log :=
  match Operation.of i with
  | .ok _ => [⟨.debug, text "Execute: " ++ i.print⟩]
  | .error _ => []

/-- What carrying out a line leaves in the log. -/
def lineAnnouncement (line : Text) : Log :=
  match Instruction.decode line with
  | .ok (some i) => i.announcement
  | _ => []

end Asm16
