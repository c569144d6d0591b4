import ScriptFlow.Issue
import ScriptFlow.Node

/-!
# Workflow tables

The nodes that a scan found, in order, and the issues that came up.
-/

namespace ScriptFlow

/-- The result of a scan. -/
structure Table where
  nodes : List Node := []
  issues : List Issue := []
  deriving DecidableEq, Repr

namespace Table

/-- The position of the first node with an identifier. -/
def indexOf? (table : Table) (id : Text) : Option Nat :=
  table.nodes.findIdx? fun node => node.id == id

/-- The number of issues of a kind. -/
def issueCount (table : Table) (kind : IssueKind) : Nat :=
  table.issues.countP fun issue => issue.kind == kind

end Table

end ScriptFlow
