import Asm16.Machine.Word
import Asm16.Text.Basic

/-!
# Flags

Seven flags describe the last arithmetic result: zero, sign, carry, overflow, parity, auxiliary
carry and direction.  A host may set a flag of any other name; such flags are kept behind the seven,
in the order in which they appeared, and no instruction touches them.

* `Flags.afterResult` — the flags after an addition or subtraction.  The result is the integer
  before it is cut to a word; the auxiliary carry is not modelled and stays down; the direction flag
  is kept.
* `Flags.set`, `Flags.get?` — by name.
-/

namespace Asm16

/-- The seven flags of the machine. -/
inductive Flag
  | zf | sf | cf | of | pf | af | df
  deriving DecidableEq, Repr

namespace Flag

/-- Every flag, in the order in which they are shown. -/
def all : List Flag := [.zf, .sf, .cf, .of, .pf, .af, .df]

def name : Flag → Text
  | .zf => ['Z', 'F']
  | .sf => ['S', 'F']
  | .cf => ['C', 'F']
  | .of => ['O', 'F']
  | .pf => ['P', 'F']
  | .af => ['A', 'F']
  | .df => ['D', 'F']

def ofName? : Text → Option Flag
  | ['Z', 'F'] => some .zf
  | ['S', 'F'] => some .sf
  | ['C', 'F'] => some .cf
  | ['O', 'F'] => some .of
  | ['P', 'F'] => some .pf
  | ['A', 'F'] => some .af
  | ['D', 'F'] => some .df
  | _ => none

@[simp] theorem ofName?_name (f : Flag) : ofName? f.name = some f := by cases f <;> rfl

end Flag

/-- The state of the seven flags, and of those that a host has added. -/
@[ext] structure Flags where
  zf : Bool := false
  sf : Bool := false
  cf : Bool := false
  of : Bool := false
  pf : Bool := false
  af : Bool := false
  df : Bool := false
  added : List (Text × Bool) := []
  deriving DecidableEq, Repr

namespace Flags

def initial : Flags := {}

def get (fs : Flags) : Flag → Bool
  | .zf => fs.zf
  | .sf => fs.sf
  | .cf => fs.cf
  | .of => fs.of
  | .pf => fs.pf
  | .af => fs.af
  | .df => fs.df

def put (fs : Flags) (f : Flag) (b : Bool) : Flags :=
  match f with
  | .zf => { fs with zf := b }
  | .sf => { fs with sf := b }
  | .cf => { fs with cf := b }
  | .of => { fs with of := b }
  | .pf => { fs with pf := b }
  | .af => { fs with af := b }
  | .df => { fs with df := b }

theorem get_put (fs : Flags) (f g : Flag) (b : Bool) :
    (fs.put f b).get g = if g = f then b else fs.get g := by
  cases f <;> cases g <;> rfl

@[simp] theorem added_put (fs : Flags) (f : Flag) (b : Bool) : (fs.put f b).added = fs.added := by
  cases f <;> rfl

/-- Replace the value under a name, or add the name at the end. -/
def insertAdded (name : Text) (b : Bool) : List (Text × Bool) → List (Text × Bool)
  | [] => [(name, b)]
  | entry :: rest =>
    if entry.1 = name then (name, b) :: rest else entry :: insertAdded name b rest

/-- Set the flag of the given name, which is added if no flag has it. -/
def set (fs : Flags) (name : Text) (b : Bool) : Flags :=
  match Flag.ofName? name with
  | some f => fs.put f b
  | none => { fs with added := insertAdded name b fs.added }

/-- Names and values, in the order in which they are shown. -/
def entries (fs : Flags) : List (Text × Bool) :=
  (Flag.all.map fun f => (f.name, fs.get f)) ++ fs.added

def get? (fs : Flags) (name : Text) : Option Bool :=
  match Flag.ofName? name with
  | some f => some (fs.get f)
  | none => fs.added.lookup name

theorem get?_set_self (fs : Flags) (name : Text) (b : Bool) : (fs.set name b).get? name = some b := by
  unfold set get?
  cases h : Flag.ofName? name with
  | some f => simp [get_put]
  | none =>
    simp only
    induction fs.added with
    | nil => simp [insertAdded]
    | cons entry rest ih =>
      by_cases he : entry.1 = name
      · simp [insertAdded, he]
      · have : (name == entry.1) = false := by simpa using Ne.symm he
        obtain ⟨k, v⟩ := entry
        simp only at he this
        simp [insertAdded, he, List.lookup_cons, this, ih]

/-- The flags after an addition or subtraction with the given result, carry and overflow. -/
def afterResult (fs : Flags) (result : Int) (carry overflow : Bool) : Flags :=
  { fs with
    zf := wordOfInt result == 0
    sf := signBit result
    cf := carry
    of := overflow
    pf := evenParity (lowByte result)
    af := false }

end Flags
end Asm16
