import ScriptFlow.Json.Basic
import ScriptFlow.Json.Token

/-!
# Reading JSON

`Json.parse?` reads one value and nothing after it.  The grammar is strict: no
comma before a closing bracket, no comments, string keys only.  Every recursive
call is made after a token was consumed, so the number of tokens bounds the
depth of the calls.
-/

namespace ScriptFlow

namespace Json

/-- The object with these members; one key without a text spoils it. -/
def ofMembers (members : List (Option Text × Json)) : Json :=
  match members.mapM fun (key, value) => key.map (·, value) with
  | some members => .obj members
  | none => .unpaired

mutual

/-- The value that the tokens start with. -/
def readValue : Nat → List Token → Option (Json × List Token)
  | 0, _ => none
  | depth + 1, tokens =>
    match tokens with
    | .null :: rest => some (.null, rest)
    | .true :: rest => some (.bool true, rest)
    | .false :: rest => some (.bool false, rest)
    | .nat value :: rest => some (.nat value, rest)
    | .decimal literal :: rest => some (.decimal literal, rest)
    | .str text :: rest => some (.str text, rest)
    | .unpaired :: rest => some (.unpaired, rest)
    | .openBracket :: .closeBracket :: rest => some (.arr [], rest)
    | .openBracket :: rest => do
      let (elements, rest) ← readElements depth rest
      some (.arr elements, rest)
    | .openBrace :: .closeBrace :: rest => some (.obj [], rest)
    | .openBrace :: rest => do
      let (members, rest) ← readMembers depth rest
      some (ofMembers members, rest)
    | _ => none

/-- One or more elements up to the closing bracket. -/
def readElements : Nat → List Token → Option (List Json × List Token)
  | 0, _ => none
  | depth + 1, tokens => do
    let (value, rest) ← readValue depth tokens
    match rest with
    | .closeBracket :: rest => some ([value], rest)
    | .comma :: rest =>
      let (values, rest) ← readElements depth rest
      some (value :: values, rest)
    | _ => none

/-- One or more members up to the closing brace. -/
def readMembers : Nat → List Token → Option (List (Option Text × Json) × List Token)
  | 0, _ => none
  | depth + 1, tokens => do
    let (key, rest) ←
      match tokens with
      | .str key :: .colon :: rest => some (some key, rest)
      | .unpaired :: .colon :: rest => some (none, rest)
      | _ => none
    let (value, rest) ← readValue depth rest
    match rest with
    | .closeBrace :: rest => some ([(key, value)], rest)
    | .comma :: rest =>
      let (members, rest) ← readMembers depth rest
      some ((key, value) :: members, rest)
    | _ => none

end

/-- The value that tokens spell. -/
def ofTokens? (tokens : List Token) : Option Json :=
  match readValue tokens.length tokens with
  | some (value, []) => some value
  | _ => none

/-- The value that a text spells. -/
def parse? (t : Text) : Option Json :=
  (Token.ofText? t).bind ofTokens?

end Json

end ScriptFlow
