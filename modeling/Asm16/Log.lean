import Asm16.Text.Basic

/-!
# The log

Loading and running a program leave entries, each with a level.  A log is the list of its entries,
oldest first; a reader who wants only the important ones filters by level.
-/

namespace Asm16

/-- How important an entry is. -/
inductive Level
  | debug
  | info
  | warning
  | error
  | critical
  deriving DecidableEq, Repr

/-- The name an entry is printed with. -/
def Level.name : Level → Text
  | .debug => text "DEBUG"
  | .info => text "INFO"
  | .warning => text "WARNING"
  | .error => text "ERROR"
  | .critical => text "CRITICAL"

def Level.rank : Level → Nat
  | .debug => 10
  | .info => 20
  | .warning => 30
  | .error => 40
  | .critical => 50

structure Entry where
  level : Level
  message : Text
  deriving DecidableEq, Repr

/-- Entries, oldest first. -/
abbrev Log := List Entry

def Log.atLeast (rank : Nat) (log : Log) : Log := log.filter fun e => rank ≤ e.level.rank

end Asm16
