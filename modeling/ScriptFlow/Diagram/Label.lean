import ScriptFlow.Text.Basic

/-!
# Labels in diagrams

A label stands between double quotes on one line.  What would end it or start
something else is written as an entity, and so is the sign that entities start
with, so that no label can be mistaken for another.
-/

namespace ScriptFlow

namespace Label

/-- A character as it stands in a label: a line feed becomes a space, and a
carriage return nothing. -/
def escapeChar (c : Char) : Text :=
  match c with
  | '#' => "#35;"
  | '"' => "#quot;"
  | '|' => "#124;"
  | '<' => "#lt;"
  | '>' => "#gt;"
  | '\r' => []
  | '\n' => [' ']
  | c => [c]

/-- A text as it stands in a label. -/
def escape (t : Text) : Text :=
  Text.trim (t.flatMap escapeChar)

end Label

end ScriptFlow
