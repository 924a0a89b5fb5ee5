import Asm16.CommandLine.Report

/-!
# The command at work

The outer layer: it asks the world for what `Host` holds, leaves the rest to `Host.use`, and carries
out the report.  Nothing is decided here but how to reach files, environment and terminal.
-/

namespace Asm16.Main

def commandName : Text := text "asm16"

def lookUp (name : Text) : IO (Option Text) := do
  return (← IO.getEnv (String.ofList name)).map String.toList

/-- The environment, as far as the command looks at it. -/
def readEnvironment : IO Environment := do
  let names := [Environment.batchSizeName, Environment.memoryAddressName,
    Environment.logLevelName, Environment.logFileName]
  let values ← names.mapM lookUp
  return fun name => ((names.zip values).lookup name).join

/-- Why a file operation failed, as a number and words. -/
def explain (e : IO.Error) : ReadFailure :=
  match e with
  | .noFileOrDirectory _ code words | .permissionDenied _ code words
  | .inappropriateType _ code words | .invalidArgument _ code words =>
    .file code.toNat words.toList
  | e => .file 5 (toString e).toList

def readSource (path : Text) : IO (Except ReadFailure Text) := do
  if path.contains '\x00' then return .error .zeroInPath
  try
    let bytes ← IO.FS.readBinFile (String.ofList path)
    match String.fromUTF8? bytes with
    | some s => return .ok s.toList
    | none => return .error .notText
  catch e => return .error (explain e)

/-- All that stands on standard input, as far as it is text. -/
def readInput : IO Text := do
  let stdin ← IO.getStdin
  let mut all := ByteArray.empty
  let mut chunk ← stdin.read 65536
  while !chunk.isEmpty do
    all := all ++ chunk
    chunk ← stdin.read 65536
  return ((String.fromUTF8? all).getD "").toList

/-- Open the log file, and say why if that fails. -/
def tryLog (path : Text) : IO (Option FileFailure) := do
  if path.isEmpty then return none
  try
    IO.FS.withFile (String.ofList path) .append fun _ => pure ()
    return none
  catch
    | .noFileOrDirectory .. => return some .missing
    | _ => return some .isDirectory

def crashMessage : Crash → Text
  | .run e => (e.message?).getD (text "the run ended in an error")
  | .log failure => text "cannot open the log: " ++ failure.words
  | .zeroInPath => text "a path holds a zero character"
  | .unknownLevel | .noLevel => text "unknown log level"
  | .notText => text "the program is not valid UTF-8"

/-- Write the log entries to their file. -/
def writeLog (path : Text) (log : Log) : IO Unit := do
  unless path.isEmpty do
    IO.FS.withFile (String.ofList path) .append fun file =>
      (log.flatMap Report.logLines).forM fun line => file.putStrLn (String.ofList line)

end Asm16.Main

open Asm16 Asm16.Main in
/-- Use the command with the words given on the command line. -/
def main (words : List String) : IO UInt32 := do
  let words := words.map String.toList
  let environment ← readEnvironment
  let path := ((Arguments.parse words).toOption.map Arguments.program).getD []
  let logFile := Settings.logFile environment
  let parsed := (Arguments.parse words).toOption.isSome
  let logFailure ← if parsed then tryLog logFile else pure none
  let input ← if path = ['-'] then readInput else pure []
  let source ← if path = ['-'] then pure (.ok []) else readSource path
  let host : Host :=
    { command := commandName, environment, input, read := fun _ => source
      openLog := fun _ => logFailure }
  let report := host.use words
  let stdout ← IO.getStdout
  stdout.putStr (String.ofList
    (if ← stdout.isTty then report.terminalOutput else report.plainOutput))
  match report.log with
  | some log => writeLog logFile log
  | none => pure ()
  let stderr ← IO.getStderr
  match report.exit with
  | .status code => return code.toUInt32
  | .usage message => do
    stderr.putStrLn (String.ofList message)
    return 2
  | .crash c => do
    stderr.putStrLn (String.ofList (crashMessage c))
    return 1
