import Asm16.Log
import Asm16.Numeral.Digits
import Asm16.Program.Instruction
import Asm16.Text.Line
import Asm16.Text.Quoted

/-!
# Programs

A program is its lines and a table of its labels.  No instruction uses a label; the table is for
whoever asked for the run.

* `labelOf?` — the label that a line defines.
* `LabelTable` — names with the index of the line that defines them.  A name keeps the place of its
  first definition and has the index of its last.
* `Program.load` — from a text.
* `Program.loadLog` — what loading leaves in the log: each definition, a warning before one that
  replaces another, and the table at the end.
-/

namespace Asm16

/-- The label that a line defines: its text in small letters, without the colon. -/
def labelOf? (line : Text) : Option Text :=
  let t := stripComment line
  if isLabel t then some (Text.lower (Text.trim t.dropLast)) else none

/-- Names in order of first definition, with the index of the line of the last. -/
abbrev LabelTable := List (Text × Nat)

namespace LabelTable

/-- Define a name, which keeps its place if it has one. -/
def define (name : Text) (index : Nat) : LabelTable → LabelTable
  | [] => [(name, index)]
  | entry :: rest =>
    if entry.1 = name then (name, index) :: rest else entry :: define name index rest

def defines (table : LabelTable) (name : Text) : Bool := table.any fun entry => entry.1 = name

/-- The definitions that some lines make, the first line having the given index. -/
def definitions (first : Nat) (lines : List Text) : List (Text × Nat) :=
  (lines.zipIdx first).filterMap fun (line, index) => (labelOf? line).map (·, index)

def ofLines (lines : List Text) : LabelTable :=
  (definitions 0 lines).foldl (fun table (name, index) => table.define name index) []

def print (table : LabelTable) : Text :=
  ['\x7b'] ++ Text.joinWith (text ", ")
    (table.map fun (name, index) => name.quoted ++ text ": " ++ decimal index) ++ ['\x7d']

/-- What a list of definitions leaves in the log, on top of a table. -/
def log (table : LabelTable) : List (Text × Nat) → Log
  | [] => []
  | (name, index) :: rest =>
    (if table.defines name then
      [⟨.warning, text "Label " ++ name ++ text " redefined on line " ++ decimal (index + 1)⟩]
    else []) ++
    ⟨.info, text "Found label: " ++ name ++ text " at line " ++ decimal (index + 1)⟩ ::
      log (table.define name index) rest

end LabelTable

structure Program where
  lines : Array Text
  labels : LabelTable
  deriving DecidableEq, Repr

namespace Program

def ofLines (lines : List Text) : Program := ⟨lines.toArray, LabelTable.ofLines lines⟩

/-- The program that a text is. -/
def load (source : Text) : Program := ofLines (Text.lines source)

def size (p : Program) : Nat := p.lines.size

/-- The line at an index; a negative one counts from the end. -/
def line? (p : Program) (i : Int) : Option Text :=
  if 0 ≤ i then p.lines[i.toNat]?
  else if -p.size ≤ i then p.lines[(i + p.size).toNat]?
  else none

/-- What making a program of some lines leaves in the log. -/
def loadLog (lines : List Text) : Log :=
  LabelTable.log [] (LabelTable.definitions 0 lines) ++
    [⟨.debug, text "Label table: " ++ (LabelTable.ofLines lines).print⟩]

@[simp] theorem size_ofLines (lines : List Text) : (ofLines lines).size = lines.length := rfl

/-- An index from the front finds its line. -/
theorem line?_natCast (p : Program) (i : Nat) : p.line? i = p.lines[i]? := by
  simp [line?]

end Program
end Asm16
