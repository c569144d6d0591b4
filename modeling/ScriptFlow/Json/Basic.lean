import ScriptFlow.Text.Basic

/-!
# JSON values

The values of JSON, with the members of an object in the order written, repeated
keys included: what a repeated key means is for the reader of the object to say.

A string may escape half of a surrogate pair without the other half.  No text
holds such a character, so a value with such a string, or an object with such a
key, is `Json.unpaired`: well formed, fine to skip, and never what a reader asks
for.
-/

namespace ScriptFlow

/-- A JSON value. -/
inductive Json where
  | null
  | bool (value : Bool)
  /-- A number written with digits only. -/
  | nat (value : Nat)
  /-- Any other number, as written. -/
  | decimal (literal : Text)
  | str (text : Text)
  | arr (elements : List Json)
  | obj (members : List (Text × Json))
  /-- A string, or an object with a key, in which half a surrogate pair stands alone. -/
  | unpaired
  deriving Repr, Inhabited

namespace Json

/-- The text of a string. -/
def text? : Json → Option Text
  | .str text => some text
  | _ => none

/-- The elements of an array. -/
def elements? : Json → Option (List Json)
  | .arr elements => some elements
  | _ => none

/-- The members of an object. -/
def members? : Json → Option (List (Text × Json))
  | .obj members => some members
  | _ => none

/-- The strings of an array of strings. -/
def texts? (value : Json) : Option (List Text) :=
  value.elements?.bind fun elements => elements.mapM text?

/-- A number of at most 64 bits written with digits only. -/
def word? : Json → Option Nat
  | .nat value => if value < 0x10000000000000000 then some value else none
  | _ => none

/-- Reads an optional value: `null` is none. -/
def orNull? {α : Type} (read : Json → Option α) : Json → Option (Option α)
  | .null => some none
  | value => (read value).map some

/-- An array of strings. -/
def ofTexts (texts : List Text) : Json :=
  .arr (texts.map .str)

/-- The value, or `null` for none. -/
def ofOption {α : Type} (write : α → Json) : Option α → Json
  | none => .null
  | some value => write value

/-- The values of the members with a key, in the order written. -/
def valuesOf (key : Text) (members : List (Text × Json)) : List Json :=
  members.filterMap fun (k, value) => if k == key then some value else none

/-- The value of the member with a key; of several, the last. -/
def get? (key : Text) (members : List (Text × Json)) : Option Json :=
  (valuesOf key members).getLast?

end Json

end ScriptFlow
