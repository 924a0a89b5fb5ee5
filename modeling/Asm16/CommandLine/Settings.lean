import Asm16.CommandLine.Options
import Asm16.Log
import Asm16.Run.Scheduler

/-!
# Settings

What the options leave open is looked up in the environment.

* `readInteger` — an integer setting.  One that is absent or blank has its default without a word;
  one that cannot be read, or is too small, has its default and leaves a warning.
* `threshold` — the least rank of log entries that a level name asks for.  Names are in capitals
  after folding; a name that says nothing asks for the usual level.  Two names are known to the log
  for other purposes and are no levels, which is an error.
* `Settings.resolve` — options, then environment, then defaults.
-/

namespace Asm16

/-- The values of the environment, by name. -/
abbrev Environment := Text → Option Text

namespace Environment

def batchSizeName : Text := text "EMU86_BATCH_SIZE"
def memoryAddressName : Text := text "EMU86_MEMORY_ADDRESS"
def logLevelName : Text := text "EMU86_LOG_LEVEL"
def logFileName : Text := text "EMU86_LOG_FILE"

end Environment

/-- The warning about a setting that cannot be used. -/
def ignoring (reason name raw below : Text) (default : Int) : Except Error Log := do
  return [⟨.warning, text "Ignoring " ++ reason ++ name ++ ['='] ++ raw.quoted ++ below ++
    text ", using " ++ (← decimal? default)⟩]

/-- An integer setting with its default, and the warning it leaves if it cannot be used. -/
def readInteger (name : Text) (raw : Option Text) (default base : Int) (minimum : Option Int) :
    Except Error (Int × Log) :=
  match raw with
  | none => .ok (default, [])
  | some raw =>
    if raw.trim.isEmpty then .ok (default, [])
    else match parseSetting? base raw with
      | none => do return (default, ← ignoring (text "invalid ") name raw [] default)
      | some n =>
        match minimum with
        | none => .ok (n, [])
        | some least =>
          if n < least then do
            return (default, ← ignoring [] name raw (text " below " ++ (← decimal? least)) default)
          else .ok (n, [])

/-! ## Log levels -/

/-- The capital form of a character, where it is ASCII; other characters do not matter. -/
def upperAscii (c : Char) : Text :=
  match c with
  | 'ß' => text "SS"
  | 'ı' => text "I"
  | 'ſ' => text "S"
  | 'ﬀ' => text "FF"
  | 'ﬁ' => text "FI"
  | 'ﬂ' => text "FL"
  | 'ﬃ' => text "FFI"
  | 'ﬄ' => text "FFL"
  | 'ﬅ' => text "ST"
  | 'ﬆ' => text "ST"
  | c => [c.toUpper]

/-- What a level name asks for. -/
inductive Threshold
  | rank (n : Nat)
  /-- The name stands for a text that is no level. -/
  | unknownLevel
  /-- The name stands for something that cannot be a level. -/
  | noLevel
  deriving DecidableEq, Repr

/-- The least rank of the entries that a level name asks for. -/
def threshold (name : Text) : Threshold :=
  let name := name.flatMap upperAscii
  if name = text "DEBUG" then .rank 10
  else if name = text "WARNING" || name = text "WARN" then .rank 30
  else if name = text "ERROR" then .rank 40
  else if name = text "CRITICAL" || name = text "FATAL" then .rank 50
  else if name = text "NOTSET" then .rank 0
  else if name = text "BASIC_FORMAT" then .unknownLevel
  else if name = text "_STYLES" then .noLevel
  else .rank 20

/-! ## All settings -/

/-- What a run of the command works with. -/
structure Settings where
  batchSize : Given Int
  memoryAddress : Given Int
  rows : Given Int
  trace : Bool
  deriving DecidableEq, Repr

namespace Settings

def levelName (args : Arguments) (env : Environment) : Text :=
  match args.logLevel with
  | some (c :: name) => c :: name
  | _ => (env Environment.logLevelName).getD (text "INFO")

def logFile (env : Environment) : Text := (env Environment.logFileName).getD (text "emu86.log")

/-- What an option was given, or else the setting of the environment, with what looking that up
leaves in the log. -/
def given (option : Option (Given Int)) (setting : Except Error (Int × Log)) :
    Except Error (Given Int × Log) :=
  match option with
  | some g => .ok (g, [])
  | none => setting.map fun (n, log) => (.value n, log)

/-- The batch size and what looking it up leaves in the log. -/
def batchSizeOf (args : Arguments) (env : Environment) : Except Error (Given Int × Log) :=
  given args.batchSize
    (readInteger Environment.batchSizeName (env Environment.batchSizeName)
      Scheduler.defaultBatchSize 10 (some 1))

/-- The start of the memory panel and what looking it up leaves in the log. -/
def memoryAddressOf (args : Arguments) (env : Environment) : Except Error (Given Int × Log) :=
  given args.memoryAddress
    (readInteger Environment.memoryAddressName (env Environment.memoryAddressName) 0 16 (some 0))

/-- The settings, and what looking them up leaves in the log. -/
def resolve (args : Arguments) (env : Environment) : Except Error (Settings × Log) := do
  let (batchSize, batchLog) ← batchSizeOf args env
  let (memoryAddress, addressLog) ← memoryAddressOf args env
  return ({ batchSize, memoryAddress, rows := args.rows, trace := args.trace },
    batchLog ++ addressLog)

/-- The start and the number of rows of the memory panel, if there is one to show. -/
def panel? (s : Settings) : Option (Int × Int) :=
  match s.memoryAddress, s.rows with
  | .value start, .value rows => some (start, rows)
  | _, _ => none

end Settings
end Asm16
