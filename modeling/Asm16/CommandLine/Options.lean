import Asm16.Numeral.Setting
import Asm16.Text.Quoted

/-!
# Options

The command takes one operand, the program, and six options.  Options may stand before and behind
the operand; the rules for telling the words of a command line apart are these.

* A word that starts with a hyphen is an option, unless it is the hyphen alone, looks like a
  negative number, or holds a blank without being a known option.
* A long option may be shortened as far as it stays unique, and may carry its value behind an equals
  sign.  Otherwise its value is the next word, which must not look like an option.
* Two hyphens alone end the options: every word behind them is an operand.  They have that meaning
  even as a value behind an equals sign, where there is nothing to end: the option is then left with
  nothing.

`Arguments.parse` first gives every word its class, so an ambiguous word is reported before anything
else.  Then it reads the words in order and stops at the first that cannot be used.  A missing
program and words left over are reported at the end, in this order.
-/

namespace Asm16

inductive CommandOption
  | help | batchSize | memoryAddress | rows | trace | logLevel
  deriving DecidableEq, Repr

namespace CommandOption

/-- The spellings of the options, in the order in which they are declared. -/
def spellings : List (Text × CommandOption) :=
  [(text "-h", .help), (text "--help", .help), (text "--batch-size", .batchSize),
    (text "--memory-address", .memoryAddress), (text "--rows", .rows), (text "--trace", .trace),
    (text "--log-level", .logLevel)]

/-- An option as errors name it: all its spellings. -/
def display (o : CommandOption) : Text :=
  Text.joinWith ['/'] ((spellings.filter fun s => s.2 = o).map Prod.fst)

def takesValue : CommandOption → Bool
  | .help | .trace => false
  | .batchSize | .memoryAddress | .rows | .logLevel => true

def ofSpelling? (t : Text) : Option CommandOption := spellings.lookup t

end CommandOption

/-- What a word of the command line is. -/
inductive CommandWord
  | operand (t : Text)
  | endOfOptions
  /-- A known option with the value it carries, if any; `short` says that the spelling has one
  hyphen. -/
  | option (o : CommandOption) (short : Bool) (value : Option Text)
  | unknown (t : Text)
  deriving DecidableEq, Repr

/-- Why the words of a command line give no arguments. -/
inductive Refusal
  | help
  | usage (message : Text)
  deriving DecidableEq, Repr

/-- An error that concerns one option. -/
def Refusal.about (o : CommandOption) (message : Text) : Refusal :=
  .usage (text "argument " ++ o.display ++ text ": " ++ message)

/-- The word looks like a negative number; a line feed behind it does not matter. -/
def looksNegative (t : Text) : Bool :=
  match if Text.endsWith '\n' t then t.dropLast else t with
  | '-' :: digits =>
    let whole := digits.takeWhile isDecimalDigit
    match digits.dropWhile isDecimalDigit with
    | [] => !whole.isEmpty
    | '.' :: fraction => !fraction.isEmpty && fraction.all isDecimalDigit
    | _ => false
  | _ => false

/-- A word cut at the first equals sign. -/
def splitEquals (t : Text) : Text × Option Text :=
  (Text.before '=' t,
    match t.dropWhile (· ≠ '=') with
    | _ :: value => some value
    | [] => none)

namespace CommandWord

/-- The class of a word that is no known spelling and starts with a hyphen. -/
def guess (t : Text) : Except Refusal CommandWord :=
  let (name, value) := splitEquals t
  let candidates :=
    if (text "--").isPrefixOf t then CommandOption.spellings.filter fun s => name.isPrefixOf s.1 else []
  match candidates with
  | [(_, o)] => .ok (.option o false value)
  | first :: second :: rest =>
    .error (.usage (text "ambiguous option: " ++ t ++ text " could match " ++
      Text.joinWith (text ", ") ((first :: second :: rest).map Prod.fst)))
  | [] =>
    if (text "-h").isPrefixOf t then .ok (.option .help true (some (t.drop 2)))
    else if looksNegative t || t.contains ' ' then .ok (.operand t)
    else .ok (.unknown t)

/-- The class of a word in front of the end of the options. -/
def classify (t : Text) : Except Refusal CommandWord :=
  if !Text.startsWith '-' t then .ok (.operand t)
  else match CommandOption.ofSpelling? t with
    | some o => .ok (.option o (t.length = 2) none)
    | none =>
      if t.length = 1 then .ok (.operand t)
      else
        let (name, value) := splitEquals t
        match value, CommandOption.ofSpelling? name with
        | some v, some o => .ok (.option o (name.length = 2) (some v))
        | _, _ => guess t

def classifyAll : List Text → Except Refusal (List CommandWord)
  | [] => .ok []
  | t :: rest =>
    if t = text "--" then .ok (.endOfOptions :: rest.map .operand)
    else do
      let word ← classify t
      return word :: (← classifyAll rest)

end CommandWord

/-! ## Values -/

def positiveInteger (t : Text) : Except Text Int :=
  match parseSetting? 10 t with
  | none => .error (text "not an integer: " ++ t)
  | some n => if n < 1 then .error (text "must be at least 1: " ++ t) else .ok n

def hexAddress (t : Text) : Except Text Int :=
  match parseSetting? 16 t with
  | none => .error (text "not a hex address: " ++ t)
  | some n => .ok n

/-- What an option that takes a value was given. -/
inductive Given (α : Type)
  | nothing
  | value (a : α)
  deriving DecidableEq, Repr

/-- Read the value of an option. -/
def Given.read {α : Type} (read : Text → Except Text α) (t : Text) : Except Text (Given α) :=
  if t = text "--" then .ok .nothing else (read t).map .value

structure Arguments where
  program : Text
  batchSize : Option (Given Int) := none
  memoryAddress : Option (Given Int) := none
  rows : Given Int := .value 8
  trace : Bool := false
  logLevel : Option Text := none
  deriving DecidableEq, Repr

namespace Arguments

/-- The arguments read so far, and the words that have no use. -/
structure Draft where
  program : Option Text := none
  unused : List Text := []
  rest : Arguments := { program := [] }
  deriving DecidableEq, Repr

def Draft.leave (d : Draft) (t : Text) : Draft := { d with unused := d.unused ++ [t] }

def Draft.assign (d : Draft) (o : CommandOption) (value : Text) : Except Refusal Draft :=
  match o with
  | .batchSize =>
    match Given.read positiveInteger value with
    | .ok n => .ok { d with rest := { d.rest with batchSize := some n } }
    | .error message => .error (.about o message)
  | .memoryAddress =>
    match Given.read hexAddress value with
    | .ok n => .ok { d with rest := { d.rest with memoryAddress := some n } }
    | .error message => .error (.about o message)
  | .rows =>
    match Given.read positiveInteger value with
    | .ok n => .ok { d with rest := { d.rest with rows := n } }
    | .error message => .error (.about o message)
  | .logLevel =>
    .ok { d with rest := { d.rest with logLevel := if value = text "--" then none else some value } }
  | .help | .trace => .ok d

def Draft.raise (d : Draft) (o : CommandOption) : Except Refusal Draft :=
  match o with
  | .help => .error .help
  | .trace => .ok { d with rest := { d.rest with trace := true } }
  | _ => .error (.about o (text "expected one argument"))

/-- The error of a value that an option does not take. -/
def ignored (o : CommandOption) (value : Text) : Refusal :=
  .about o (text "ignored explicit argument " ++ value.quoted)

/-- Letters behind the short help option: each is another short option, of which there is only this
one. -/
def shortHelp : Text → Refusal
  | ['h'] => .help
  | 'h' :: c :: rest => shortHelp (c :: rest)
  | value => ignored .help value

/-- Read the words in order. -/
def read : List CommandWord → Draft → Except Refusal Draft
  | [], d => .ok d
  | .unknown t :: rest, d => read rest (d.leave t)
  | .option o short (some value) :: rest, d =>
    if o.takesValue then do read rest (← d.assign o value)
    else if short then .error (shortHelp value)
    else .error (ignored o value)
  | .option o _ none :: .operand value :: rest, d =>
    if o.takesValue then do read rest (← d.assign o value)
    else do read (.operand value :: rest) (← d.raise o)
  | .option o _ none :: rest, d => do read rest (← d.raise o)
  | .operand t :: .endOfOptions :: rest, d =>
    match d.program with
    | some _ => read (.endOfOptions :: rest) (d.leave t)
    | none => read rest { d with program := some t }
  | .operand t :: rest, d =>
    match d.program with
    | some _ => read rest (d.leave t)
    | none => read rest { d with program := some t }
  | .endOfOptions :: .operand t :: rest, d =>
    match d.program with
    | some _ => read (.operand t :: rest) (d.leave (text "--"))
    | none => read rest { d with program := some t }
  | .endOfOptions :: rest, d => read rest (d.leave (text "--"))

/-- The arguments that the words of a command line give. -/
def parse (words : List Text) : Except Refusal Arguments := do
  let draft ← read (← CommandWord.classifyAll words) {}
  match draft.program with
  | none => .error (.usage (text "the following arguments are required: program"))
  | some program =>
    if draft.unused.isEmpty then .ok { draft.rest with program }
    else .error (.usage (text "unrecognized arguments: " ++ Text.joinWith [' '] draft.unused))

end Arguments
end Asm16
