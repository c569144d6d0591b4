import ScriptFlow.Setting

/-!
# Sinks

Where the text that was asked for goes.
-/

namespace ScriptFlow

/-- Where the text that was asked for goes. -/
inductive Sink where
  /-- Printed below a short header. -/
  | console
  /-- Printed alone. -/
  | raw
  /-- Written to a file. -/
  | file
  deriving DecidableEq, Repr

namespace Sink

/-- The names of the sinks. -/
def choices : List (Text × Sink) :=
  [("console", .console), ("raw", .raw), ("file", .file)]

/-- Reads the name of a sink. -/
def parse (text : Text) : Except SettingError Sink :=
  choose choices .unknownSink text

end Sink

end ScriptFlow
