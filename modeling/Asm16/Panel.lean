import Asm16.Machine.Basic
import Asm16.Numeral.Quotient

/-!
# The panel

What a terminal shows of a machine: registers four in a row, flags in a row with the raised ones
bright, a window of memory, progress and errors.  Colours are terminal control sequences.

* `styled` — text between a style and its end.
* `registerPanel`, `flagPanel`, `memoryPanel`, `statePanel` — a snapshot and memory.
* `progressLine`, `errorLine` — one line each.  Numbers beyond the decimal limit cannot be shown.
-/

namespace Asm16

inductive Style
  | red | green | yellow | blue | magenta | cyan | bright | dim | plain
  deriving DecidableEq, Repr

namespace Style

/-- The number of a style in a control sequence. -/
def code : Style → Nat
  | .plain => 0
  | .bright => 1
  | .dim => 2
  | .red => 31
  | .green => 32
  | .yellow => 33
  | .blue => 34
  | .magenta => 35
  | .cyan => 36

/-- The control sequence that turns a style on. -/
def sequence (style : Style) : Text := ['\x1b', '['] ++ decimal style.code ++ ['m']

end Style

/-- Text in the given styles, and plain again behind it. -/
def styled (styles : List Style) (t : Text) : Text :=
  styles.flatMap Style.sequence ++ t ++ Style.plain.sequence

namespace Panel

def registersPerRow : Nat := 4

/-- A list cut into rows of `width`, the last one possibly shorter. -/
def chunks {α : Type} (width : Nat) (items : List α) : List (List α) :=
  (List.range ((items.length + width - 1) / width)).map fun k =>
    (items.drop (k * width)).take width

def registerItem (name : Text) (w : Word) : Text :=
  styled [.cyan] (name.map Char.toUpper ++ [':']) ++ [' '] ++
    padLeft 4 '0' (numeral 16 w.toNat) ++ ['h']

/-- The registers, four in a row. -/
def registerPanel (s : Snapshot) : Text :=
  Text.joinWith ['\n']
    ((chunks registersPerRow (s.registers.entries.map fun (name, w) => registerItem name w)).map
      (Text.joinWith (text "   ")))

/-- A flag with its name; a raised one is bright. -/
def flagItem (name : Text) (b : Bool) : Text :=
  styled (if b then [.green, .bright] else [.dim]) (name ++ text ": " ++ [Machine.bit b])

def flagPanel (s : Snapshot) : Text :=
  Text.joinWith [' '] (s.flags.entries.map fun (name, b) => flagItem name b)

/-- The line above the rows of memory, with the offset of each column. -/
def memoryHeader : Text :=
  styled [.yellow] (text "Memory " ++
    Text.joinWith [' '] ((List.range rowWidth).map fun i => padLeft 2 '0' (upperHex i)))

def memoryRow (address : Int) (bs : List Byte) : Text :=
  styled [.blue] (hexWide 5 address) ++ text "  " ++ Cells.hexBytes bs

def memoryPanel (cells : Cells) (start rows : Int) : Text :=
  let window := cells.window start rows
  Text.joinWith ['\n'] (memoryHeader ::
    window.rows.zipIdx.map fun (bs, k) => memoryRow (window.start + k * rowWidth) bs)

/-- Registers, flags and a window of memory, with an empty line on either side. -/
def statePanel (s : Snapshot) (cells : Cells) (start rows : Int) : Text :=
  ['\n'] ++ styled [.yellow] (text "Registers:") ++ ['\n'] ++ registerPanel s ++ text "\n\n" ++
    styled [.yellow] (text "Flags:") ++ ['\n'] ++ flagPanel s ++ text "\n\n" ++
    memoryPanel cells start rows ++ ['\n']

def progressLine (done total : Int) : Except Error Text := do
  let percent ← percentage done total
  let doneText ← decimal? done
  let totalText ← decimal? total
  let percentText ← decimal? percent
  return styled [.magenta]
    (text "Progress: " ++ doneText ++ ['/'] ++ totalText ++ text " (" ++ percentText ++ text "%)")

def errorLine (line : Int) (message : Text) : Except Error Text := do
  return styled [.red] (text "Line " ++ (← decimal? line) ++ text ": " ++ message)

end Panel
end Asm16
