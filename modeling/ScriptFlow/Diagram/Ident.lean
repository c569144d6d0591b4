import ScriptFlow.Fresh

/-!
# Identifiers in diagrams

An identifier in a diagram is made of letters, digits and `_` of ASCII, does not
start with a digit and is no word of the diagram language.  `Ident.ofText` makes
one out of any text, and `Ident.allocate` makes distinct ones out of several.
-/

namespace ScriptFlow

namespace Ident

/-- The words of the diagram language, in lower case. -/
def reservedWords : List Text :=
  ["end", "graph", "flowchart", "subgraph", "click", "call", "href", "style", "class",
    "classdef", "linkstyle", "direction", "default", "interpolate"]

/-- Whether a text is a word of the diagram language in some letter case. -/
def isReserved (t : Text) : Bool :=
  reservedWords.contains (Text.toLower t)

/-- A character that may stand in an identifier, or `_` in its place. -/
def plainChar (c : Char) : Char :=
  if c.isAlphanum || c == '_' then c else '_'

/-- The identifier for a text.  A blank text counts as `node`, and what would be
read as a number or a word gets `n_` in front. -/
def ofText (t : Text) : Text :=
  let id :=
    match (Text.trim t).map plainChar with
    | [] => "node"
    | id => id
  if isReserved id || id.head?.any Char.isDigit then "n_" ++ id else id

/-- An identifier for a text that differs from those taken. -/
def fresh (taken : List Text) (t : Text) : Text :=
  Fresh.name taken (ofText t)

/-- Identifiers for some texts, distinct from one another and from those taken. -/
def allocate (taken : List Text) : List Text → List Text
  | [] => []
  | t :: rest =>
    let id := fresh taken t
    id :: allocate (id :: taken) rest

/-- Every text gets an identifier. -/
@[simp] theorem length_allocate (taken texts : List Text) :
    (allocate taken texts).length = texts.length := by
  induction texts generalizing taken with
  | nil => rfl
  | cons t rest ih => simp [allocate, ih]

end Ident

end ScriptFlow
