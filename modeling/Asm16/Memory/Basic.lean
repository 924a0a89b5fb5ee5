import Asm16.Memory.Cells
import Asm16.Memory.Watcher
import Asm16.Step

/-!
# Memory

Memory is its cells together with the watchers that follow it.  A store changes the cell first and
announces the change afterwards, to the watchers subscribed at that moment, in the order of their
subscriptions.  A watcher that gives up ends the store at once, with the cell already changed.

* `Memory.subscribe`, `Memory.unsubscribe` — the list of subscriptions.
* `Memory.deliver` — announce a change.  Watchers may store bytes in turn, so this nests; a bound on
  the depth keeps it total.
* `Memory.readByte`, `writeByte`, `readWord`, `writeWord` — checked access.  Both cells of a word
  are checked before the first one is written.
* `Memory.Request` — the requests that a host can make, with `Memory.answer`.

Reading never changes anything, and without watchers a store changes the cell and nothing else
(`store_of_no_watchers`).
-/

namespace Asm16

/-- Cells, the watchers known by name, the subscriptions in order, and all that was announced. -/
structure Memory where
  cells : Cells
  known : List Watcher := []
  subscribed : List Text := []
  journal : List Notice := []

namespace Memory

/-- Memory of the given size, all zero and without watchers. -/
def blank (size : Nat) : Memory := { cells := Cells.blank size }

/-- How deeply stores may set each other off. -/
def nestingLimit : Nat := 1000

/-! ## Watchers -/

/-- A name stands for the first watcher that was introduced under it. -/
def introduce (m : Memory) (w : Watcher) : Memory :=
  if m.known.any fun k => k.name = w.name then m else { m with known := m.known ++ [w] }

/-- What the watcher of the given name does on hearing of a change. -/
def reactions (m : Memory) (name : Text) (change : Change) : List Reaction :=
  match m.known.find? fun k => k.name = name with
  | some w => w.react change
  | none => []

/-- Subscribe a watcher, behind those that are subscribed already. -/
def subscribe (m : Memory) (w : Watcher) : Memory :=
  let m := m.introduce w
  { m with subscribed := m.subscribed ++ [w.name] }

/-- End the oldest subscription under a name. -/
def unsubscribe (m : Memory) (name : Text) : Memory :=
  let m := m.introduce (Watcher.recorder name)
  { m with subscribed := m.subscribed.erase name }

/-- Replace one cell, silently. -/
def put (m : Memory) (a : Nat) (b : Byte) : Memory := { m with cells := m.cells.put a b }

/-- Zero every cell, silently; the watchers stay. -/
def clear (m : Memory) : Memory := { m with cells := m.cells.clear }

/-- Note that a watcher was told of a change. -/
def note (m : Memory) (notice : Notice) : Memory := { m with journal := m.journal ++ [notice] }

/-! ## Access -/

/-- An address in an error message: hexadecimal, or decimal with its sign if it is negative. -/
def addressText (a : Int) : Except Error Text :=
  if 0 ≤ a then .ok (text "0x" ++ upperHex a.toNat) else decimal? a

/-- The error of an access that leaves memory. -/
def outOfRange (a : Int) : Error :=
  match addressText a with
  | .ok shown => .ofCause .outOfRange shown
  | .error e => e

/-- Refuse an access that leaves memory. -/
def require (a : Int) (width : Nat) : Step Memory Unit := do
  if (← get).cells.fits a width then pure () else throw (outOfRange a)

/-- Change a cell, then announce the change. -/
def storeWith (announce : Change → Step Memory Unit) (a : Nat) (b : Byte) : Step Memory Unit := do
  let old := (← get).cells.byte a
  modify (·.put a b)
  announce ⟨a, old, b⟩

def perform (announce : Change → Step Memory Unit) : Reaction → Step Memory Unit
  | .subscribe name react => modify (·.subscribe ⟨name, react⟩)
  | .unsubscribe name => modify (·.unsubscribe name)
  | .write a v => do
    require a 1
    storeWith announce a.toNat (lowByte v)
  | .refuse e => throw e

/-- Tell one watcher of a change and carry out its reactions. -/
def tell (announce : Change → Step Memory Unit) (change : Change) (name : Text) :
    Step Memory Unit := do
  modify (·.note ⟨name, change⟩)
  ((← get).reactions name change).forM (perform announce)

/-- Tell every subscribed watcher of a change. -/
def deliver : Nat → Change → Step Memory Unit
  | 0, _ => do if (← get).subscribed.isEmpty then pure () else throw .nestedTooDeeply
  | depth + 1, change => do (← get).subscribed.forM (tell (deliver depth) change)

def store (a : Nat) (b : Byte) : Step Memory Unit := storeWith (deliver nestingLimit) a b

def readByte (a : Int) : Step Memory Byte := do
  require a 1
  return (← get).cells.byte a.toNat

def writeByte (a value : Int) : Step Memory Unit := do
  require a 1
  store a.toNat (lowByte value)

/-- The word at an address, low byte first. -/
def readWord (a : Int) : Step Memory Word := do
  require a 2
  return (← get).cells.word a.toNat

/-- Store the two low bytes of an integer, the lowest first. -/
def writeWord (a value : Int) : Step Memory Unit := do
  require a 2
  store a.toNat (lowByte value)
  store (a.toNat + 1) (highByte value)

/-! ## Requests of a host -/

/-- What a host can ask of memory. -/
inductive Request
  | size
  | readByte (address : Int)
  | writeByte (address value : Int)
  | readWord (address : Int)
  | writeWord (address value : Int)
  | clear
  | window (start rows : Int)
  | dump (start length : Int)
  | subscribe (watcher : Watcher)
  | unsubscribe (name : Text)
  /-- Read cells through the view of memory, which takes indexes rather than addresses. -/
  | view (indexes : List Int)
  /-- Write through the view of memory, which is never allowed. -/
  | writeView (index value : Int)

inductive Reply
  | done
  | number (n : Nat)
  | bytes (bs : List Byte)
  | window (w : Cells.Window)
  | text (t : Text)
  deriving DecidableEq, Repr

/-- The bytes at the given indexes of the view. -/
def viewBytes (m : Memory) (indexes : List Int) : Except Error (List Byte) :=
  indexes.mapM fun i =>
    match m.cells.at? i with
    | some b => .ok b
    | none => .error (.noSuchCell i)

def answer : Request → Step Memory Reply
  | .size => do return .number (← get).cells.size
  | .readByte a => do return .number (← readByte a).toNat
  | .writeByte a v => do writeByte a v; return .done
  | .readWord a => do return .number (← readWord a).toNat
  | .writeWord a v => do writeWord a v; return .done
  | .clear => do modify (·.clear); return .done
  | .window start rows => do return .window ((← get).cells.window start rows)
  | .dump start length => do return .text ((← get).cells.dump start length)
  | .subscribe w => do modify (·.subscribe w); return .done
  | .unsubscribe name => do modify (·.unsubscribe name); return .done
  | .view indexes => do return .bytes (← Step.ofExcept ((← get).viewBytes indexes))
  | .writeView _ _ => throw .readOnly

/-! ## Equations -/

theorem require_apply (a : Int) (width : Nat) (m : Memory) :
    require a width m = if m.cells.fits a width then .ok () m else .error (outOfRange a) m := by
  simp only [require, Step.bind_apply, Step.get_apply]
  split <;> rfl

theorem deliver_of_no_watchers {m : Memory} (h : m.subscribed = []) (depth : Nat) (c : Change) :
    deliver depth c m = .ok () m := by
  cases depth <;> simp [deliver, Step.bind_apply, h]

/-- Without watchers a store changes the cell and nothing else. -/
theorem store_of_no_watchers {m : Memory} (h : m.subscribed = []) (a : Nat) (b : Byte) :
    store a b m = .ok () (m.put a b) := by
  simp only [store, storeWith, Step.bind_apply, Step.get_apply, Step.modify_apply]
  exact deliver_of_no_watchers (m := m.put a b) h _ _

theorem readByte_apply (a : Int) (m : Memory) :
    readByte a m =
      if m.cells.fits a 1 then .ok (m.cells.byte a.toNat) m else .error (outOfRange a) m := by
  simp only [readByte, Step.bind_apply, require_apply]
  split
  next h => split at h <;> simp_all
  next h => split at h <;> simp_all

theorem readWord_apply (a : Int) (m : Memory) :
    readWord a m =
      if m.cells.fits a 2 then .ok (m.cells.word a.toNat) m else .error (outOfRange a) m := by
  simp only [readWord, Step.bind_apply, require_apply]
  split
  next h => split at h <;> simp_all
  next h => split at h <;> simp_all

/-- Without watchers a checked byte write changes the one cell. -/
theorem writeByte_of_no_watchers {m : Memory} (h : m.subscribed = []) (a v : Int) :
    writeByte a v m =
      if m.cells.fits a 1 then .ok () (m.put a.toNat (lowByte v))
      else .error (outOfRange a) m := by
  simp only [writeByte, Step.bind_apply, require_apply]
  by_cases hf : m.cells.fits a 1
  · simp [hf, store_of_no_watchers h]
  · simp [hf]

/-- Without watchers a checked word write changes the two cells. -/
theorem writeWord_of_no_watchers {m : Memory} (h : m.subscribed = []) (a v : Int) :
    writeWord a v m =
      if m.cells.fits a 2 then
        .ok () ((m.put a.toNat (lowByte v)).put (a.toNat + 1) (highByte v))
      else .error (outOfRange a) m := by
  have h' : (m.put a.toNat (lowByte v)).subscribed = [] := h
  simp only [writeWord, Step.bind_apply, require_apply]
  by_cases hf : m.cells.fits a 2
  · simp [hf, store_of_no_watchers h, store_of_no_watchers h']
  · simp [hf]

end Memory
end Asm16
