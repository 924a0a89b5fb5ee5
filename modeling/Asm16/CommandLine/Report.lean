import Asm16.CommandLine.Directory
import Asm16.CommandLine.Settings
import Asm16.Message
import Asm16.Panel
import Asm16.Run.Session
import Asm16.Text.Control

/-!
# The command

One use of the command, from its words to its report: read the options, look up the settings, read
the program, run it, and show the machine.  The command itself is a function; what it needs of the
world is the record `Host`, and what it does to the world is the record `Report`.

The exit status is 0 for a completed run, 1 for a failed one, 130 for one that was interrupted, and
2 when there was nothing to run.  A crash is an error that no part of the command deals with; what
was shown and logged until then stays.

Everything shown on the way is an event of the run (`shown`), in the order of the events.
-/

namespace Asm16

structure Host where
  command : Text
  environment : Environment
  /-- All that stands on standard input. -/
  input : Text
  read : Text → Except ReadFailure Text
  /-- Why a log file cannot be opened, `none` if it can. -/
  openLog : Text → Option FileFailure
  /-- Interrupt the run when so many lines are done. -/
  interruptAt : Option Int := none

/-- An error that the command does not deal with. -/
inductive Crash
  | run (error : Error)
  | log (failure : FileFailure)
  | zeroInPath
  | unknownLevel
  | noLevel
  | notText
  deriving DecidableEq, Repr

/-- The end of a use of the command. -/
inductive Exit
  | status (code : Nat)
  /-- The words of the command line were refused; the status is 2. -/
  | usage (message : Text)
  | crash (c : Crash)
  deriving DecidableEq, Repr

structure Report where
  exit : Exit
  /-- All that was printed, control sequences included. -/
  output : List Text := []
  /-- The entries of the log file, `none` if there is no such file. -/
  log : Option Log := none
  deriving DecidableEq, Repr

namespace Report

def logName : Text := text "EMU86"

/-- The lines of an entry in the log file. -/
def logLines (e : Entry) : List Text :=
  (logName ++ text " - " ++ e.level.name ++ text " - " ++ e.message).cut '\n'

/-- All that was printed, as it looks where no terminal is: without control sequences, a line end
behind each piece. -/
def plainOutput (r : Report) : Text := r.output.flatMap fun t => t.withoutControls ++ ['\n']

/-- All that was printed, as a terminal gets it: plain style again behind each piece and behind its
line end. -/
def terminalOutput (r : Report) : Text :=
  r.output.flatMap fun t => t ++ Style.plain.sequence ++ ['\n'] ++ Style.plain.sequence

end Report

namespace Host

/-- The hooks of a run: snapshots are followed if asked for, which takes a panel to show, and an
interruption is a request to stop when progress has come to the given line. -/
def hooks (host : Host) (settings : Settings) : Hooks where
  state :=
    if settings.trace then
      some fun _ _ => if settings.panel?.isSome then [] else [.refuse .nothingGiven]
    else none
  progress := some fun _ event =>
    match event with
    | .progress done _ => if host.interruptAt = some done then [.control .stop] else []
    | _ => []
  failure := some fun _ _ => []

/-- The panel of a machine, if there is one to show. -/
def panel? (settings : Settings) (s : Snapshot) (cells : Cells) : Option Text :=
  settings.panel?.map fun (start, rows) => Panel.statePanel s cells start rows

def shown (settings : Settings) : Event → List Text
  | .state s cells _ => (panel? settings s cells).toList
  | .progress done total => (Panel.progressLine done total).toOption.toList
  | .failure line message => (Panel.errorLine line message).toOption.toList
  | _ => []

/-- What is printed after a run, and its exit status. -/
def conclusion (panel : Text) (result : RunResult) : List Text × Nat :=
  let common := [panel, text "Instructions executed: " ++ decimal result.executed]
  match result.status with
  | .completed => (common, 0)
  | .failed => (common, 1)
  | .cancelled => (common ++ [styled [.yellow] (text "Execution stopped by user.")], 130)

/-- The report of a run: what was shown and logged on the way, then the conclusion. -/
def reportOf (settings : Settings) (outcome : Except Error (Option RunResult)) (s : Scheduler) :
    Report :=
  let output := s.events.flatMap (shown settings)
  let log := some s.log
  match outcome, panel? settings s.machine.snapshot s.machine.memory.cells with
  | .error e, _ => { exit := .crash (.run e), output, log }
  | .ok none, _ => { exit := .crash (.run .starved), output, log }
  | .ok (some _), none => { exit := .crash (.run .nothingGiven), output, log }
  | .ok (some result), some panel =>
    let (last, code) := conclusion panel result
    { exit := .status code, output := output ++ last, log }

def scheduler (host : Host) (settings : Settings) : Except Error Scheduler :=
  match settings.batchSize with
  | .nothing => .error .nothingGiven
  | .value n => Scheduler.make (Machine.initial defaultSize) n (host.hooks settings)

/-- Run a program; the answer holds the log of the run only. -/
def runProgram (host : Host) (settings : Settings) (source : Text) : Report :=
  match host.scheduler settings with
  | .error e => { exit := .crash (.run e), log := some [] }
  | .ok scheduler =>
    let run := Session.runAlone source
    let session : Session := { scheduler }
    reportOf settings (run.outcome session) (run.final session).scheduler

/-- The text of the program; a hyphen stands for standard input. -/
def source (host : Host) (path : Text) : Except ReadFailure Text :=
  if path = ['-'] then .ok host.input else host.read path

def readAndRun (host : Host) (settings : Settings) (path : Text) : Report :=
  match host.source path with
  | .ok source => host.runProgram settings source
  | .error .zeroInPath => { exit := .crash .zeroInPath, log := some [] }
  | .error .notText => { exit := .crash .notText, log := some [] }
  | .error (.file number words) =>
    let message := text "Cannot read program: " ++ fileMessage number words path
    { exit := .status 2, output := [styled [.red] message], log := some [⟨.error, message⟩] }

/-- Put entries in front of the log, keep those of the given rank, and leave the log out if it goes
to no file. -/
def keepLog (rank : Nat) (first : Log) (toFile : Bool) (r : Report) : Report :=
  { r with log := if toFile then r.log.map fun log => Log.atLeast rank (first ++ log) else none }

def useWith (host : Host) (args : Arguments) : Report :=
  let logFile := Settings.logFile host.environment
  let toFile := !logFile.isEmpty
  let empty : Option Log := if toFile then some [] else none
  if logFile.contains '\x00' then { exit := .crash .zeroInPath }
  else match if toFile then host.openLog logFile else none with
    | some failure => { exit := .crash (.log failure) }
    | none =>
      match threshold (Settings.levelName args host.environment) with
      | .unknownLevel => { exit := .crash .unknownLevel, log := empty }
      | .noLevel => { exit := .crash .noLevel, log := empty }
      | .rank rank =>
        match Settings.resolve args host.environment with
        | .error e => { exit := .crash (.run e), log := empty }
        | .ok (settings, log) =>
          keepLog rank log toFile (host.readAndRun settings args.program)

def help (host : Host) : Text :=
  text "usage: " ++ host.command ++ text (" [-h] [--batch-size N] [--memory-address HEX] [--rows N]" ++
    " [--trace] [--log-level LEVEL] program")

/-- Use the command with the given words. -/
def use (host : Host) (words : List Text) : Report :=
  match Arguments.parse words with
  | .error .help => { exit := .status 0, output := [host.help] }
  | .error (.usage message) => { exit := .usage (host.command ++ text ": error: " ++ message) }
  | .ok args => host.useWith args

end Host
end Asm16
