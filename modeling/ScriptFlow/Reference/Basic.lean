import ScriptFlow.Reference.Rules

/-!
# References

The files that the code of a script refers to, found by the rules of its
language.  `References.ofLines` lists them by kind: each path once, in the order
in which it was first found.  A path that is sourced anywhere in the script is
not listed among the files it reads.
-/

namespace ScriptFlow

/-- A reference found on a line, counted from 1. -/
structure Reference where
  kind : ReferenceKind
  path : Text
  line : Nat
  deriving DecidableEq, Repr

namespace ReferenceRule

/-- The paths that a rule finds in a line, trimmed and not empty. -/
def paths (rule : ReferenceRule) (line : Text) : List Text :=
  let found := (rule.pattern.matchesIn line).filterMap fun m => m.groupText? rule.path
  (found.map Text.trim).filter fun path => !path.isEmpty

end ReferenceRule

namespace Reference

/-- The references on one line, rule by rule. -/
def ofLine (rules : List ReferenceRule) (number : Nat) (line : Text) : List Reference :=
  rules.flatMap fun rule => (rule.paths line).map fun path => ⟨rule.kind, path, number⟩

/-- The references on some lines, of which the first has the given number. -/
def ofLinesFrom (rules : List ReferenceRule) : Nat → List Text → List Reference
  | _, [] => []
  | number, line :: rest => ofLine rules number line ++ ofLinesFrom rules (number + 1) rest

/-- The references of a script, line by line. -/
def ofLines (rules : List ReferenceRule) (lines : List Text) : List Reference :=
  ofLinesFrom rules 1 lines

end Reference

/-- The files that a script refers to, each list in the order of first mention. -/
structure References where
  inputs : List Text := []
  outputs : List Text := []
  dependencies : List Text := []
  deriving DecidableEq, Repr

namespace References

/-- The distinct paths of a kind. -/
def pathsOf (kind : ReferenceKind) (found : List Reference) : List Text :=
  ((found.filter fun reference => reference.kind == kind).map Reference.path).eraseDups

/-- The files among some references. -/
def ofList (found : List Reference) : References :=
  let dependencies := pathsOf .dependency found
  { inputs := (pathsOf .input found).filter fun path => !dependencies.contains path
    outputs := pathsOf .output found
    dependencies }

/-- The files that the lines of a script refer to. -/
def ofLines (rules : List ReferenceRule) (lines : List Text) : References :=
  ofList (Reference.ofLines rules lines)

/-- Whether there is no file at all. -/
def isEmpty (files : References) : Bool :=
  files.inputs.isEmpty && files.outputs.isEmpty && files.dependencies.isEmpty

end References

end ScriptFlow
