import ScriptFlow.Text.Basic

/-!
# Verbosity

How much is logged.  Each level logs what the one below it does and more.
-/

namespace ScriptFlow

/-- The levels of logging. -/
inductive Verbosity where
  /-- Nothing is logged. -/
  | quiet
  /-- Issues and fallbacks. -/
  | normal
  /-- One line for each script. -/
  | verbose
  /-- Every annotation and every reference. -/
  | debug
  deriving DecidableEq, Repr

namespace Verbosity

/-- The levels from the lowest to the highest. -/
def all : List Verbosity :=
  [.quiet, .normal, .verbose, .debug]

/-- The rank of a level. -/
def rank : Verbosity → Nat
  | quiet => 0
  | normal => 1
  | verbose => 2
  | debug => 3

/-- The level of a rank; ranks beyond the highest level count as that. -/
def ofRank : Nat → Verbosity
  | 0 => quiet
  | 1 => normal
  | 2 => verbose
  | _ => debug

/-- The name of a level. -/
def tag : Verbosity → Text
  | quiet => "quiet"
  | normal => "normal"
  | verbose => "verbose"
  | debug => "debug"

/-- The level with exactly this name. -/
def ofTag? (tag : Text) : Option Verbosity :=
  all.find? fun level => level.tag == tag

/-- The level some steps up, but not beyond the highest. -/
def raised (level : Verbosity) (steps : Nat) : Verbosity :=
  ofRank (level.rank + steps)

/-- Whether issues and fallbacks are logged. -/
def logsWarnings (level : Verbosity) : Bool :=
  normal.rank ≤ level.rank

/-- Whether each script is logged. -/
def logsProgress (level : Verbosity) : Bool :=
  verbose.rank ≤ level.rank

/-- Whether every annotation and reference is logged. -/
def logsDetails (level : Verbosity) : Bool :=
  debug.rank ≤ level.rank

/-- The least severe events that a level lets through. -/
def filter : Verbosity → Text
  | quiet => "off"
  | normal => "warn"
  | verbose => "info"
  | debug => "debug"

end Verbosity

end ScriptFlow
