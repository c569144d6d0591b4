import ScriptFlow.Pattern.Reader
import ScriptFlow.Unicode.Property

/-!
# Escapes and named classes

What a backslash starts in a pattern: a character by its code point or by a
letter, a class of characters, a property of the Unicode standard, or a
position.  Other characters of ASCII that are neither letters nor digits stand
for themselves after a backslash.

Inside brackets there are, besides, the classes of ASCII by name.
-/

namespace ScriptFlow

namespace Pattern

/-- What an escape stands for. -/
inductive Escaped where
  | char (c : Char)
  | set (set : CharSet)
  | position (condition : Assertion)

namespace Reader

/-! ### Classes of ASCII -/

/-- The digits of ASCII. -/
def asciiDigit : CharSet :=
  .range '0' '9'

/-- The letters of ASCII. -/
def asciiLetter : CharSet :=
  .union (.range 'a' 'z') (.range 'A' 'Z')

/-- The word characters of ASCII. -/
def asciiWord : CharSet :=
  .union (.union asciiLetter asciiDigit) (.single '_')

/-- The blanks of ASCII. -/
def asciiBlank : CharSet :=
  .union (.range '\t' '\r') (.single ' ')

/-- The characters of ASCII that print and are neither letters nor digits. -/
def asciiPunctuation : CharSet :=
  .union (.union (.range '!' '/') (.range ':' '@')) (.union (.range '[' '\x60') (.range '\x7b' '~'))

/-- The class of a name between `[:` and `:]`. -/
def namedClass? (name : Text) : Option CharSet :=
  let classes : List (Text × CharSet) :=
    [("alnum", .union asciiLetter asciiDigit), ("alpha", asciiLetter),
      ("ascii", .range '\x00' '\x7f'), ("blank", .union (.single '\t') (.single ' ')),
      ("cntrl", .union (.range '\x00' '\x1f') (.single '\x7f')), ("digit", asciiDigit),
      ("graph", .range '!' '~'), ("lower", .range 'a' 'z'), ("print", .range ' ' '~'),
      ("punct", asciiPunctuation), ("space", asciiBlank), ("upper", .range 'A' 'Z'),
      ("word", asciiWord),
      ("xdigit", .union asciiDigit (.union (.range 'a' 'f') (.range 'A' 'F')))]
  (classes.find? fun entry => entry.1 == name).map Prod.snd

/-! ### Classes by a letter -/

/-- The word characters under the flags. -/
def wordSet : Reader CharSet :=
  return if (← get).flags.unicode then .word else asciiWord

/-- The class that a letter after a backslash names. -/
def letterClass? (c : Char) : Reader (Option CharSet) := do
  let unicode := (← get).flags.unicode
  let digit := if unicode then CharSet.decimal else asciiDigit
  let space := if unicode then CharSet.blank else asciiBlank
  match c with
  | 'd' => return some digit
  | 's' => return some space
  | 'w' => return some (← wordSet)
  | 'D' => return some (← complement digit)
  | 'S' => return some (← complement space)
  | 'W' => return some (← complement (← wordSet))
  | _ => return none

/-! ### Properties -/

/-- The name of a property: one character, or a text in braces. -/
def propertyName : Reader (Unicode.Request × Bool) := do
  skip
  match ← next with
  | '\x7b' =>
    let name ← span (· != '\x7d')
    expect ['\x7d']
    return Unicode.Request.ofText name
  | c =>
    guard (c != '\\')
    return (.named [c], false)

/-- The characters with a property, or those without it; the names are those of
the Unicode standard, so there is no such class among the characters of ASCII. -/
def property (negated : Bool) : Reader CharSet := do
  guard (← get).flags.unicode
  let (request, excluded) ← propertyName
  let found ← (request.chars? : Reader Unicode.Described)
  complementIf (negated != excluded) (← fold (.listed found.ranges))

/-! ### Code points -/

/-- The value of a hexadecimal digit. -/
def hexValue? (c : Char) : Option Nat :=
  if c.isDigit then some (c.toNat - '0'.toNat)
  else if 'a' ≤ c ∧ c ≤ 'f' then some (c.toNat - 'a'.toNat + 10)
  else if 'A' ≤ c ∧ c ≤ 'F' then some (c.toNat - 'A'.toNat + 10)
  else none

/-- The character with a code point in hexadecimal digits. -/
def charOfHex (digits : Text) : Reader Char := do
  guard !digits.isEmpty
  let values ← digits.mapM fun c => (hexValue? c : Reader Nat)
  let n := values.foldl (fun n d => Nat.min (n * 16 + d) 0x110000) 0
  guard (n < 0xD800 || (0xDFFF < n && n < 0x110000))
  return Char.ofNat n

/-- The character after the letter of a hexadecimal escape, which has a fixed
number of digits or any number of them in braces. -/
def hexEscape (digits : Nat) : Reader Char := do
  skip
  if (← peek) == some '\x7b' then
    advance
    let found ← span (· != '\x7d')
    let _ ← next
    charOfHex found
  else charOfHex (← take digits)

/-- The character after `\x`.  Two digits stand for a byte where the flags turn
Unicode off, and a byte beyond ASCII is no character. -/
def byteEscape : Reader Char := do
  skip
  let isByte := (← peek) != some '\x7b' && !(← get).flags.unicode
  let c ← hexEscape 2
  guard !(isByte && 0x80 ≤ c.toNat)
  return c

/-! ### Positions -/

/-- The condition after `\b`, which may be spelled out in braces. -/
def boundaryEscape : Reader Assertion := do
  let letters ← wordSet
  let isNameChar := fun (c : Char) => c.isAlpha || c == '-'
  let start ← get
  if (← takeIf ['\x7b']) then
    skip
    let name ← span isNameChar
    if name.isEmpty then
      guard (← peek).isSome
      set start
      return .wordBoundary letters
    expect ['\x7d']
    if name == "start" then return .wordStart letters
    else if name == "end" then return .wordEnd letters
    else if name == "start-half" then return .noWordBefore letters
    else if name == "end-half" then return .noWordAfter letters
    else failure
  else return .wordBoundary letters

/-! ### Escapes -/

/-- What follows a backslash. -/
def escape : Reader Escaped := do
  match (← get).rest with
  | [] => failure
  | c :: rest =>
    modify fun s => { s with rest }
    match ← letterClass? c with
    | some set => return .set set
    | none =>
      match c with
      | 'p' => return .set (← property false)
      | 'P' => return .set (← property true)
      | 'x' => return .char (← byteEscape)
      | 'u' => return .char (← hexEscape 4)
      | 'U' => return .char (← hexEscape 8)
      | 'a' => return .char '\x07'
      | 'f' => return .char '\x0c'
      | 't' => return .char '\t'
      | 'n' => return .char '\n'
      | 'r' => return .char '\r'
      | 'v' => return .char '\x0b'
      | 'A' => return .position .textStart
      | 'z' => return .position .textEnd
      | 'b' => return .position (← boundaryEscape)
      | 'B' => return .position (.noWordBoundary (← wordSet))
      | '<' => return .position (.wordStart (← wordSet))
      | '>' => return .position (.wordEnd (← wordSet))
      | c =>
        guard (c.toNat < 0x80 && !c.isAlphanum)
        return .char c

end Reader

end Pattern

end ScriptFlow
