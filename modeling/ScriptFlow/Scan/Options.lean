import ScriptFlow.Pattern.Occurrence
import ScriptFlow.Pattern.Parser
import ScriptFlow.Setting
import ScriptFlow.Verbosity

/-!
# Scan options

What can be chosen about a scan.
-/

namespace ScriptFlow

/-- Which nodes a scan produces. -/
inductive ScanMode where
  /-- Those annotated by hand. -/
  | annotated
  /-- Those detected from code, one for each script. -/
  | detected
  /-- Both, combined by a merge strategy. -/
  | merged
  deriving DecidableEq, Repr

namespace ScanMode

/-- The names of the modes. -/
def choices : List (Text × ScanMode) :=
  [("annotations", .annotated), ("manual", .annotated), ("auto", .detected),
    ("merge", .merged)]

/-- Reads the name of a mode. -/
def parse (text : Text) : Except SettingError ScanMode :=
  choose choices .unknownScanMode text

end ScanMode

/-- How the annotated and the detected nodes of a script are combined. -/
inductive MergeStrategy where
  /-- The detected node counts only if no node is annotated. -/
  | manualPriority
  /-- The first annotated node takes over what was detected and not declared. -/
  | supplement
  /-- All nodes are kept. -/
  | union
  deriving DecidableEq, Repr

namespace MergeStrategy

/-- The name of a strategy. -/
def tag : MergeStrategy → Text
  | manualPriority => "manual_priority"
  | supplement => "supplement"
  | union => "union"

/-- The names of the strategies. -/
def choices : List (Text × MergeStrategy) :=
  [MergeStrategy.manualPriority, .supplement, .union].map fun strategy =>
    (strategy.tag, strategy)

/-- Reads the name of a strategy, in which hyphens count as underscores. -/
def parse (text : Text) : Except SettingError MergeStrategy :=
  match choose? choices (text.map fun c => if c == '-' then '_' else c) with
  | some strategy => .ok strategy
  | none => .error (.unknownMergeStrategy text)

end MergeStrategy

/-- The choices for a scan. -/
structure ScanOptions where
  /-- Folders inside the root are entered. -/
  recursive : Bool := true
  /-- Only files whose name holds a match are read. -/
  pattern : Option Pattern := none
  mode : ScanMode := .annotated
  strategy : MergeStrategy := .manualPriority
  verbosity : Verbosity := .normal

namespace ScanOptions

/-- Reads the pattern for file names. -/
def parsePattern (wording : Wording) (text : Text) : Except SettingError Pattern :=
  match Pattern.parse? text with
  | some pattern => .ok pattern
  | none => .error (.invalidPattern text (wording.pattern text))

end ScanOptions

end ScriptFlow
