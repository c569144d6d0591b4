import ScriptFlow.Json.Basic

/-!
# Writing JSON

Two layouts of the same value: `Json.compact` writes no space at all, and
`Json.pretty` puts every element and member on a line of its own, two spaces
deeper than its container, and `[]` or `{}` for an empty one.

In a string only the quote, the backslash and the control characters below space
are escaped; every other character is written as it is.
-/

namespace ScriptFlow

namespace Json

/-! ### Strings -/

/-- The lower-case hexadecimal digit of a number below 16. -/
def hexDigit (n : Nat) : Char :=
  Nat.digitChar n

/-- A character as it stands in a string. -/
def escapeChar (c : Char) : Text :=
  match c with
  | '"' => ['\\', '"']
  | '\\' => ['\\', '\\']
  | '\x08' => ['\\', 'b']
  | '\t' => ['\\', 't']
  | '\n' => ['\\', 'n']
  | '\x0c' => ['\\', 'f']
  | '\r' => ['\\', 'r']
  | c =>
    if c.toNat < 0x20 then
      "\\u00" ++ [hexDigit (c.toNat / 16), hexDigit (c.toNat % 16)]
    else [c]

/-- A text in quotes. -/
def quote (t : Text) : Text :=
  '"' :: (t.flatMap escapeChar ++ ['"'])

/-! ### Layouts -/

/-- The text of a value that holds no others. -/
def scalar : Json → Text
  | .null => "null"
  | .bool true => "true"
  | .bool false => "false"
  | .nat value => Text.ofNat value
  | .decimal literal => literal
  | .str text => quote text
  | .unpaired => "\"\\ud800\""
  | .arr _ => "[]"
  | .obj _ => "\x7b\x7d"

mutual

/-- The value on one line without spaces. -/
def compact : Json → Text
  | .arr elements => ['['] ++ Text.join [','] (compactElements elements) ++ [']']
  | .obj members => ['\x7b'] ++ Text.join [','] (compactMembers members) ++ ['\x7d']
  | value => scalar value

/-- The elements, each on its own. -/
def compactElements : List Json → List Text
  | [] => []
  | value :: rest => compact value :: compactElements rest

/-- The members, each on its own. -/
def compactMembers : List (Text × Json) → List Text
  | [] => []
  | (key, value) :: rest => (quote key ++ [':'] ++ compact value) :: compactMembers rest

end

/-- A line end and the indentation of a depth. -/
def newLine (depth : Nat) : Text :=
  '\n' :: List.replicate (2 * depth) ' '

/-- Items on lines of their own between brackets. -/
def block (opening closing : Char) (depth : Nat) (items : List Text) : Text :=
  if items.isEmpty then [opening, closing]
  else
    [opening] ++ Text.join [','] (items.map (newLine (depth + 1) ++ ·)) ++
      newLine depth ++ [closing]

mutual

/-- The value over several lines, at an indentation depth. -/
def prettyAt (depth : Nat) : Json → Text
  | .arr elements => block '[' ']' depth (prettyElements (depth + 1) elements)
  | .obj members => block '\x7b' '\x7d' depth (prettyMembers (depth + 1) members)
  | value => scalar value

/-- The elements, each on its own. -/
def prettyElements (depth : Nat) : List Json → List Text
  | [] => []
  | value :: rest => prettyAt depth value :: prettyElements depth rest

/-- The members, each on its own. -/
def prettyMembers (depth : Nat) : List (Text × Json) → List Text
  | [] => []
  | (key, value) :: rest =>
    (quote key ++ [':', ' '] ++ prettyAt depth value) :: prettyMembers depth rest

end

/-- The value over several lines. -/
def pretty (value : Json) : Text :=
  prettyAt 0 value

end Json

end ScriptFlow
