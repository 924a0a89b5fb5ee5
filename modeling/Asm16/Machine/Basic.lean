import Asm16.Machine.Flag
import Asm16.Machine.Register
import Asm16.Memory.Basic

/-!
# The machine

A machine is its registers, its flags and its memory.  A reset puts back what is there when the
machine is switched on; the watchers of memory stay, and are not told.

* `Machine.setRegister`, `getRegister`, `getFlag` — access by name, as a host has it.
* `Machine.onMemory` — a step on memory as a step on the machine.
* `Snapshot` — the registers and flags of one moment.  A snapshot does not copy memory: whoever
  holds one sees the memory as it is now.
* `Machine.dump` — registers and flags as plain text.
-/

namespace Asm16

structure Machine where
  registers : Registers := .initial
  flags : Flags := .initial
  memory : Memory

/-- The registers and flags of one moment. -/
structure Snapshot where
  registers : Registers
  flags : Flags
  deriving DecidableEq, Repr

namespace Machine

/-- A machine that has just been switched on, with memory of the given size. -/
def initial (size : Nat) : Machine := { memory := Memory.blank size }

/-- Registers, flags and cells as they are when the machine is switched on. -/
def reset (m : Machine) : Machine :=
  { registers := .initial, flags := .initial, memory := m.memory.clear }

def snapshot (m : Machine) : Snapshot := ⟨m.registers, m.flags⟩

/-- Replace a register by the low sixteen bits of an integer. -/
def put (m : Machine) (r : Register) (n : Int) : Machine :=
  { m with registers := m.registers.set r (wordOfInt n) }

def valueAt (m : Machine) (r : Register) : Int := ((m.registers.get r).toNat : Int)

/-- A step on memory, as a step on the machine. -/
def onMemory {α : Type} (step : Step Memory α) : Step Machine α :=
  Step.within Machine.memory (fun m memory => { m with memory }) step

/-! ## Access by name -/

/-- The register of exactly this name. -/
def registerNamed (name : Text) : Except Error Register :=
  match Register.ofName? name with
  | some r => .ok r
  | none => .error (.ofCause .unknownRegister name)

def setRegister (name : Text) (value : Int) : Step Machine Unit := do
  let r ← Step.ofExcept (registerNamed name)
  modify (·.put r value)

def getRegister (m : Machine) (name : Text) : Except Error Int :=
  (registerNamed name).map m.valueAt

def setFlag (m : Machine) (name : Text) (value : Bool) : Machine :=
  { m with flags := m.flags.set name value }

def getFlag (m : Machine) (name : Text) : Except Error Bool :=
  match m.flags.get? name with
  | some b => .ok b
  | none => .error (.unknownFlag name)

/-- Set the flags after an addition or subtraction. -/
def updateFlags (m : Machine) (result : Int) (carry overflow : Bool) : Machine :=
  { m with flags := m.flags.afterResult result carry overflow }

/-! ## As text -/

/-- A flag as a digit. -/
def bit (b : Bool) : Char := if b then '1' else '0'

/-- A line for every register and a line for all flags. -/
def dump (m : Machine) : Text :=
  Text.joinWith ['\n']
    ((m.registers.entries.map fun (name, w) =>
        name.map Char.toUpper ++ text ": " ++ padLeft 4 '0' (upperHex w.toNat)) ++
      [Text.joinWith [' '] (m.flags.entries.map fun (name, b) => name ++ ['=', bit b])])

/-! ## Equations -/

@[simp] theorem valueAt_put_self (m : Machine) (r : Register) (n : Int) :
    (m.put r n).valueAt r = n % 65536 := by
  simp only [valueAt, put, Registers.get_set_self, wordOfInt, BitVec.toNat_ofInt]
  omega

theorem valueAt_put_of_ne (m : Machine) {r q : Register} (h : q ≠ r) (n : Int) :
    (m.put r n).valueAt q = m.valueAt q := by
  simp [valueAt, put, Registers.get_set_of_ne _ h]

theorem valueAt_nonneg (m : Machine) (r : Register) : 0 ≤ m.valueAt r := Int.natCast_nonneg _

theorem valueAt_lt (m : Machine) (r : Register) : m.valueAt r < 65536 := by
  have := (m.registers.get r).isLt
  simp only [valueAt]; omega

/-- A step on memory leaves registers and flags alone. -/
theorem onMemory_apply {α : Type} (step : Step Memory α) (m : Machine) :
    onMemory step m =
      match step m.memory with
      | .ok a memory => .ok a { m with memory }
      | .error e memory => .error e { m with memory } := by
  unfold onMemory Step.within
  cases step m.memory <;> rfl

end Machine
end Asm16
