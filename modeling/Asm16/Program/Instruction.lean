import Asm16.Fault
import Asm16.Text.Blank
import Asm16.Text.Lower
import Asm16.Text.Word

/-!
# Instructions

A source line holds at most one instruction: a mnemonic, then operands with commas between them.
What follows the first semicolon is a comment.  A line whose text ends in a colon is a label.

* `stripComment` — the text of a line without comment and surrounding blanks.
* `isLabel` — the text names a place in the program.
* `Instruction.decode` — read a line; a blank line, a comment and a label hold no instruction.
* `Instruction.print` — write an instruction in its plain layout.

Decoding accepts any layout: blanks of any kind around mnemonic and operands, and a mnemonic in any
case, which is folded to small letters.
-/

namespace Asm16

/-- A mnemonic and the tokens behind it. -/
structure Instruction where
  mnemonic : Text
  operands : List Text := []
  deriving DecidableEq, Repr

/-- The text of a line: what stands before the first semicolon, without the blanks around it. -/
def stripComment (line : Text) : Text := (Text.before ';' line).trim

/-- The text names a place in the program. -/
def isLabel (t : Text) : Bool := Text.endsWith ':' t

namespace Instruction

/-- The tokens of a list of operands: trimmed, with commas between them; no text, no tokens. -/
def tokens (t : Text) : List Text :=
  if t.isEmpty then [] else (t.cut ',').map Text.trim

/-- Read the text of a line that is not a label.  It has to start with word characters, and after
those and the blanks behind them it may not go on to another line. -/
def parse (t : Text) : Except Error Instruction :=
  let mnemonic := t.takeWhile isWord
  let rest : Text := Text.trimLeft (t.dropWhile isWord)
  if mnemonic.isEmpty || rest.contains '\n' then .error (.ofCause .badFormat t)
  else .ok ⟨Text.lower mnemonic, tokens rest.trim⟩

/-- Read a line; `none` if it holds no instruction. -/
def decode (line : Text) : Except Error (Option Instruction) :=
  let t := stripComment line
  if t.isEmpty || isLabel t then .ok none else (parse t).map some

/-- The mnemonic, then the operands with commas between them. -/
def print (i : Instruction) : Text :=
  if i.operands.isEmpty then i.mnemonic
  else i.mnemonic ++ ' ' :: Text.joinWith (text ", ") i.operands

end Instruction
end Asm16
