import ScriptFlow.KeyMap

/-!
# Property lists

The body of an annotation is a list of properties `key: value` between commas.
A key is an identifier.  A value is a text in double or in single quotes, in
which the other quote is an ordinary character, or a bare text without quotes.
Commas and colons inside quotes divide nothing, and a blank part between two
commas is skipped.

`Property.parse` reads a body.  An open quote is reported before anything else;
after that the first faulty part decides.
-/

namespace ScriptFlow

/-- A key with its value. -/
structure Property where
  key : Text
  value : Text
  deriving DecidableEq, Repr

/-- Why a body is no property list. -/
inductive PropertyError where
  /-- Every part is blank. -/
  | empty
  /-- The body ends inside a quote; columns count from 1. -/
  | unterminatedQuote (quote : Char) (column : Nat)
  /-- A value has a quote that does not enclose all of it. -/
  | mismatchedQuotes (key value : Text)
  /-- A part has no colon outside quotes. -/
  | missingSeparator (part : Text)
  /-- What stands before the colon is no identifier. -/
  | invalidKey (key : Text)
  deriving DecidableEq, Repr

namespace PropertyError

/-- The wording of an error. -/
def message : PropertyError → Text
  | empty => "Annotation has no properties"
  | unterminatedQuote quote column =>
    "Unterminated " ++ [quote] ++ " quote starting at column " ++ Text.ofNat column
  | mismatchedQuotes key value =>
    "Value for '" ++ key ++ "' has mismatched quotes: " ++ value
  | missingSeparator part => "Missing ':' separator in '" ++ part ++ "'"
  | invalidKey key => "Invalid property name '" ++ key ++ "'"

end PropertyError

namespace Property

/-- Whether a character opens and closes quotes. -/
def isQuote (c : Char) : Bool :=
  c == '"' || c == '\''

/-- A quote that is open, and the column of the character that opened it. -/
structure OpenQuote where
  quote : Char
  column : Nat
  deriving DecidableEq, Repr

/-! ### Division outside quotes -/

/-- Puts a character in front of the first of several parts. -/
def extendFirst (c : Char) : List Text → List Text
  | [] => [[c]]
  | part :: rest => (c :: part) :: rest

/-- The parts of a text between the commas outside quotes, or the quote it ends
in.  The column is that of the text's first character. -/
def partsFrom : Nat → Option OpenQuote → Text → Except OpenQuote (List Text)
  | _, none, [] => .ok [[]]
  | _, some opened, [] => .error opened
  | column, some opened, c :: rest =>
    let state := if c == opened.quote then none else some opened
    (partsFrom (column + 1) state rest).map (extendFirst c)
  | column, none, c :: rest =>
    if isQuote c then
      (partsFrom (column + 1) (some ⟨c, column⟩) rest).map (extendFirst c)
    else if c == ',' then (partsFrom (column + 1) none rest).map ([] :: ·)
    else (partsFrom (column + 1) none rest).map (extendFirst c)

/-- The parts of a body between the commas outside quotes. -/
def parts (body : Text) : Except OpenQuote (List Text) :=
  partsFrom 1 none body

/-- The texts before and after the first colon outside quotes, in a text that is
read inside the given quote if there is one. -/
def cutColonFrom? : Option Char → Text → Option (Text × Text)
  | _, [] => none
  | some quote, c :: rest =>
    (cutColonFrom? (if c == quote then none else some quote) rest).map
      fun (before, after) => (c :: before, after)
  | none, c :: rest =>
    if c == ':' then some ([], rest)
    else
      (cutColonFrom? (if isQuote c then some c else none) rest).map
        fun (before, after) => (c :: before, after)

/-- The texts before and after the first colon outside quotes. -/
def cutColon? (part : Text) : Option (Text × Text) :=
  cutColonFrom? none part

/-! ### Values and properties -/

/-- The text between a quote at the start and the same quote at the end. -/
def inner? (quote : Char) (rest : Text) : Option Text :=
  match Text.beforeSuffix? [quote] rest with
  | some text => if text.contains quote then none else some text
  | none => none

/-- The value that a trimmed text stands for. -/
def unquote? : Text → Option Text
  | [] => some []
  | c :: rest =>
    if isQuote c then inner? c rest
    else if rest.any isQuote then none
    else some (c :: rest)

/-- Reads one part, trimmed and not blank. -/
def ofPart (part : Text) : Except PropertyError Property :=
  match cutColon? part with
  | none => .error (.missingSeparator part)
  | some (before, after) =>
    let key := Text.trim before
    let raw := Text.trim after
    if !Text.isIdentifier key then .error (.invalidKey key)
    else
      match unquote? raw with
      | none => .error (.mismatchedQuotes key raw)
      | some value => .ok ⟨key, value⟩

/-- Reads the properties of a body. -/
def parse (body : Text) : Except PropertyError (List Property) :=
  match parts (Text.trim body) with
  | .error opened => .error (.unterminatedQuote opened.quote opened.column)
  | .ok parts =>
    match (parts.map Text.trim).filter fun part => !part.isEmpty with
    | [] => .error .empty
    | parts => parts.mapM ofPart

/-- Whether a text starts with an identifier and, after blanks, a colon. -/
def startsWithKey (t : Text) : Bool :=
  let isKeyChar := fun (c : Char) => c.isAlphanum || c == '_'
  Text.isIdentifier (t.takeWhile isKeyChar) &&
    Text.startsWith [':'] (Text.trimStart (t.dropWhile isKeyChar))

/-! ### Property lists as maps -/

/-- The value of a key; of several, the last. -/
def lookup? (key : Text) (properties : List Property) : Option Text :=
  (properties.reverse.find? fun p => p.key == key).map Property.value

/-- Whether a key occurs. -/
def hasKey (key : Text) (properties : List Property) : Bool :=
  properties.any fun p => p.key == key

/-- The values by key; of several values for one key, the last. -/
def toMap (properties : List Property) : KeyMap Text :=
  KeyMap.ofList (properties.map fun p => (p.key, p.value))

end Property

end ScriptFlow
