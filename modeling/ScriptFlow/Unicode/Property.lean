import ScriptFlow.Unicode.Age
import ScriptFlow.Unicode.Break

/-!
# Properties by name

A set of characters can be asked for by one name, which is that of a property,
of a class of general categories or of a script; or by the name of a property
together with a value.  Names are compared without regard to letter case,
blanks, hyphens, low lines and an `is` in front.
-/

namespace ScriptFlow

namespace Unicode

/-- A request for a set of characters. -/
inductive Request where
  | named (name : Text)
  | valued (property value : Text)
  deriving DecidableEq, Repr

namespace Request

/-! ### Spelling of names -/

/-- A name without the `is` that it may start with. -/
def dropIs : Text → Text
  | c :: d :: rest => if Text.sameLetters [c, d] "is" then rest else c :: d :: rest
  | name => name

/-- The spelling that a name is compared in.  Only the name of one property is
left its `is`, because the category of the other characters is called `c`. -/
def plainName (name : Text) : Text :=
  let rest := dropIs name
  let isPlain := fun (c : Char) => c.toNat < 0x80 && c != ' ' && c != '_' && c != '-'
  let plain := Text.toLower (rest.filter isPlain)
  if rest != name && plain == "c" then "isc" else plain

/-- The request that a text spells, and whether the set is left out instead: a
property and its value have `!=`, `:` or `=` between them. -/
def ofText (t : Text) : Request × Bool :=
  match Text.cut? "!=" t with
  | some (property, value) => (valued property value, true)
  | none =>
    match Text.cut? ":" t <|> Text.cut? "=" t with
    | some (property, value) => (valued property value, false)
    | none => (named t, false)

/-! ### Look-up -/

/-- The characters of a class of general categories. -/
def category? (name : Text) : Option Described :=
  if name == "any" then some .everything
  else if name == "ascii" then some (.listed "0-7F")
  else (Category.named? name).map Category.charsOf

/-- Whether a name is that of a category first, and of a property after it. -/
def isCategoryFirst (name : Text) : Bool :=
  name == "cf" || name == "sc" || name == "lc"

/-- The characters that one name stands for. -/
def ofName? (name : Text) : Option Described :=
  let property := if isCategoryFirst name then none else Binary.named? name
  property <|> category? name <|> (Script.named? name).map Script.chars

/-- The characters for which a property has a value. -/
def ofValue? (property value : Text) : Option Described :=
  if property == "gc" || property == "generalcategory" then category? value
  else if property == "sc" || property == "script" then
    (Script.named? value).map Script.chars
  else if property == "scx" || property == "scriptextensions" then
    (Script.named? value).map Script.extended
  else if property == "age" then Age.named? value
  else if property == "gcb" || property == "graphemeclusterbreak" then
    Break.named? Break.graphemes value
  else if property == "wb" || property == "wordbreak" then Break.named? Break.words value
  else if property == "sb" || property == "sentencebreak" then
    Break.named? Break.sentences value
  else none

/-- The set of characters asked for, if there is one. -/
def chars? : Request → Option Described
  | named name => ofName? (plainName name)
  | valued property value => ofValue? (plainName property) (plainName value)

end Request

end Unicode

end ScriptFlow
