import ScriptFlow.Issue
import ScriptFlow.Json.Basic
import ScriptFlow.Language
import ScriptFlow.Reference.Basic
import ScriptFlow.Text.Quoted
import ScriptFlow.Verbosity

/-!
# Log events

What a scan and a drawing log, with the fields of each event.
-/

namespace ScriptFlow

/-- An event of the log. -/
inductive Event where
  /-- An annotation with its line and its number of properties. -/
  | annotationRead (file : FilePath) (line properties : Nat)
  /-- The files that a script refers to. -/
  | referencesFound (file : FilePath) (files : References)
  /-- A script with its language and its number of nodes. -/
  | scriptScanned (file : FilePath) (language : Language) (nodes : Nat)
  /-- An issue or a fallback. -/
  | warning (message : Text)
  deriving DecidableEq, Repr

namespace Event

/-- How severe an event is. -/
def level : Event → Text
  | annotationRead .. => "DEBUG"
  | referencesFound .. => "DEBUG"
  | scriptScanned .. => "INFO"
  | warning _ => "WARN"

/-- What an event says. -/
def message : Event → Text
  | annotationRead .. => "parsed annotation"
  | referencesFound .. => "detected references"
  | scriptScanned .. => "scanned file"
  | warning message => message

/-- The fields of an event beside its level and its message. -/
def fields : Event → List (Text × Json)
  | annotationRead file line properties =>
    [("file", .str (Text.shown file)), ("line", .nat line), ("pairs", .nat properties)]
  | referencesFound file files =>
    [("file", .str (Text.shown file)), ("inputs", .str (Text.quotedList files.inputs)),
      ("outputs", .str (Text.quotedList files.outputs)),
      ("dependencies", .str (Text.quotedList files.dependencies))]
  | scriptScanned file language nodes =>
    [("file", .str (Text.shown file)), ("language", .str language.tag), ("nodes", .nat nodes)]
  | warning _ => []

/-- An event as an object. -/
def toJson (event : Event) : Json :=
  .obj (("level", .str event.level) :: ("message", .str event.message) :: event.fields)

/-- The warnings that a level of logging lets through. -/
def warnings (verbosity : Verbosity) (messages : List Text) : List Event :=
  if verbosity.logsWarnings then messages.map .warning else []

end Event

end ScriptFlow
