import Asm16.Machine.Word
import Asm16.Text.Basic

/-!
# Registers

The machine has nine registers of one word: four general ones, two indexes, the stack pointer, the
base pointer and the instruction pointer.  The stack grows downwards from near the top of the first
64 KiB, so the stack pointer starts at `0xFFF0` and the others at zero.

* `Register` — the names.
* `Registers` — their contents; `get` and `set` are related by `get_set`.
-/

namespace Asm16

inductive Register
  | ax | bx | cx | dx | si | di | sp | bp | ip
  deriving DecidableEq, Repr

namespace Register

/-- Every register, in the order in which they are shown. -/
def all : List Register := [.ax, .bx, .cx, .dx, .si, .di, .sp, .bp, .ip]

/-- The name as it is written in programs. -/
def name : Register → Text
  | .ax => ['a', 'x']
  | .bx => ['b', 'x']
  | .cx => ['c', 'x']
  | .dx => ['d', 'x']
  | .si => ['s', 'i']
  | .di => ['d', 'i']
  | .sp => ['s', 'p']
  | .bp => ['b', 'p']
  | .ip => ['i', 'p']

/-- The register of the given name, in small letters. -/
def ofName? : Text → Option Register
  | ['a', 'x'] => some .ax
  | ['b', 'x'] => some .bx
  | ['c', 'x'] => some .cx
  | ['d', 'x'] => some .dx
  | ['s', 'i'] => some .si
  | ['d', 'i'] => some .di
  | ['s', 'p'] => some .sp
  | ['b', 'p'] => some .bp
  | ['i', 'p'] => some .ip
  | _ => none

@[simp] theorem ofName?_name (r : Register) : ofName? r.name = some r := by cases r <;> rfl

theorem ofName?_eq_some_iff {t : Text} {r : Register} : ofName? t = some r ↔ t = r.name := by
  constructor
  · intro h
    unfold ofName? at h
    split at h <;> cases h <;> rfl
  · rintro rfl
    exact ofName?_name r

theorem mem_all (r : Register) : r ∈ all := by cases r <;> decide

end Register

/-- The contents of the nine registers. -/
@[ext] structure Registers where
  ax : Word := 0
  bx : Word := 0
  cx : Word := 0
  dx : Word := 0
  si : Word := 0
  di : Word := 0
  sp : Word := 0xFFF0
  bp : Word := 0
  ip : Word := 0
  deriving DecidableEq, Repr

namespace Registers

def initial : Registers := {}

def get (rs : Registers) : Register → Word
  | .ax => rs.ax
  | .bx => rs.bx
  | .cx => rs.cx
  | .dx => rs.dx
  | .si => rs.si
  | .di => rs.di
  | .sp => rs.sp
  | .bp => rs.bp
  | .ip => rs.ip

def set (rs : Registers) (r : Register) (w : Word) : Registers :=
  match r with
  | .ax => { rs with ax := w }
  | .bx => { rs with bx := w }
  | .cx => { rs with cx := w }
  | .dx => { rs with dx := w }
  | .si => { rs with si := w }
  | .di => { rs with di := w }
  | .sp => { rs with sp := w }
  | .bp => { rs with bp := w }
  | .ip => { rs with ip := w }

/-- Setting a register changes that register and no other. -/
theorem get_set (rs : Registers) (r q : Register) (w : Word) :
    (rs.set r w).get q = if q = r then w else rs.get q := by
  cases r <;> cases q <;> rfl

@[simp] theorem get_set_self (rs : Registers) (r : Register) (w : Word) :
    (rs.set r w).get r = w := by simp [get_set]

theorem get_set_of_ne (rs : Registers) {r q : Register} (h : q ≠ r) (w : Word) :
    (rs.set r w).get q = rs.get q := by simp [get_set, h]

/-- Register files with the same contents are the same. -/
theorem ext_get {rs qs : Registers} (h : ∀ r, rs.get r = qs.get r) : rs = qs := by
  ext1
  · exact h .ax
  · exact h .bx
  · exact h .cx
  · exact h .dx
  · exact h .si
  · exact h .di
  · exact h .sp
  · exact h .bp
  · exact h .ip

/-- Names and contents, in the order in which they are shown. -/
def entries (rs : Registers) : List (Text × Word) :=
  Register.all.map fun r => (r.name, rs.get r)

end Registers
end Asm16
