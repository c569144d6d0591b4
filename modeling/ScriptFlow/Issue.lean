import ScriptFlow.FilePath

/-!
# Issues

What went wrong during a scan without ending it.
-/

namespace ScriptFlow

/-- The kinds of issues. -/
inductive IssueKind where
  /-- A faulty annotation, which was dropped. -/
  | syntaxError
  /-- Questionable content, which was kept. -/
  | validation
  /-- A file that could not be read. -/
  | io
  deriving DecidableEq, Repr

namespace IssueKind

/-- The name of a kind. -/
def tag : IssueKind → Text
  | syntaxError => "syntax"
  | validation => "validation"
  | io => "io"

/-- The kind with exactly this name. -/
def ofTag? (tag : Text) : Option IssueKind :=
  [syntaxError, validation, io].find? fun kind => kind.tag == tag

end IssueKind

/-- Something that went wrong in a file, and on which line if that is known. -/
structure Issue where
  kind : IssueKind
  file : FilePath
  line : Option Nat := none
  message : Text
  deriving DecidableEq, Repr

namespace Issue

/-- The place and the message on one line. -/
def describe (issue : Issue) : Text :=
  let file := Text.shown issue.file
  let place :=
    match issue.line with
    | some line => file ++ ":" ++ Text.ofNat line
    | none => file
  "[" ++ issue.kind.tag ++ "] " ++ place ++ ": " ++ issue.message

end Issue

end ScriptFlow
