/-!
# Text

Every name, label, path and line of this library is a `Text`, a list of
characters, so that functions on it are recursions on a list and their laws are
laws of lists.  A string literal is accepted wherever a `Text` is expected.

This file holds the blank characters, trimming, cutting at a mark, and the
division of a text into lines.
-/

namespace ScriptFlow

/-- A text is the list of its characters. -/
abbrev Text := List Char

instance : Coe String Text where
  coe := String.toList

namespace Text

/-! ### Blank characters -/

/-- The white space of Unicode: tabulators and line ends, the spaces of every
width, and the two separators of lines and paragraphs. -/
def isBlank (c : Char) : Bool :=
  let n := c.toNat
  (9 ≤ n && n ≤ 13) || n == 0x20 || n == 0x85 || n == 0xA0 || n == 0x1680 ||
    (0x2000 ≤ n && n ≤ 0x200A) || n == 0x2028 || n == 0x2029 || n == 0x202F ||
    n == 0x205F || n == 0x3000

/-- The text without the blanks it starts with. -/
def trimStart (t : Text) : Text :=
  t.dropWhile isBlank

/-- The text without the blanks it ends with. -/
def trimEnd (t : Text) : Text :=
  (t.reverse.dropWhile isBlank).reverse

/-- The text without the blanks around it. -/
def trim (t : Text) : Text :=
  trimEnd (trimStart t)

/-! ### Marks -/

/-- The part before a mark that ends the text. -/
def beforeSuffix? (mark t : Text) : Option Text :=
  (mark.reverse.isPrefixOf? t.reverse).map List.reverse

/-- Whether the text starts with the mark. -/
def startsWith (mark t : Text) : Bool :=
  mark.isPrefixOf t

/-- Whether the text ends with the mark. -/
def endsWith (mark t : Text) : Bool :=
  mark.reverse.isPrefixOf t.reverse

/-- The parts before and after the first occurrence of a mark. -/
def cut? {α : Type} [DecidableEq α] (mark : List α) : List α → Option (List α × List α)
  | [] => (mark.isPrefixOf? []).map ([], ·)
  | c :: r =>
    match mark.isPrefixOf? (c :: r) with
    | some after => some ([], after)
    | none => (cut? mark r).map fun (before, after) => (c :: before, after)

/-- The parts before and after the last occurrence of a letter. -/
def cutLast? {α : Type} [DecidableEq α] (mark : α) (t : List α) : Option (List α × List α) :=
  (cut? [mark] t.reverse).map fun (after, before) => (before.reverse, after.reverse)

/-- Whether the text holds a double or a single quote. -/
def hasQuote (t : Text) : Bool :=
  t.any fun c => c == '"' || c == '\''

/-! ### Letter case -/

/-- The text with the letters `A` to `Z` in lower case. -/
def toLower (t : Text) : Text :=
  t.map Char.toLower

/-- Equality up to the case of the letters `A` to `Z`. -/
def sameLetters (s t : Text) : Bool :=
  toLower s == toLower t

/-- An identifier: a letter or `_`, then letters, digits and `_`, all of ASCII. -/
def isIdentifier : Text → Bool
  | [] => false
  | c :: r => (c.isAlpha || c == '_') && r.all fun d => d.isAlphanum || d == '_'

/-! ### Lines and lists -/

/-- A line without the one carriage return it may end with. -/
def dropReturn (line : Text) : Text :=
  (beforeSuffix? ['\r'] line).getD line

/-- The lines of a text.  A line feed ends a line, together with a carriage
return right before it; what follows the last line feed is a line only if it
is not empty. -/
def lines (t : Text) : List Text :=
  let pieces := t.splitOn '\n'
  let last := pieces.getLastD []
  pieces.dropLast.map dropReturn ++ (if last.isEmpty then [] else [last])

/-- The texts one after the other with a separator between neighbours. -/
def join (separator : Text) (parts : List Text) : Text :=
  separator.intercalate parts

/-- The trimmed parts between commas, those that are blank left out. -/
def commaList (t : Text) : List Text :=
  ((t.splitOn ',').map trim).filter fun part => !part.isEmpty

/-- The decimal digits of a number. -/
def ofNat (n : Nat) : Text :=
  Nat.toDigits 10 n

end Text

end ScriptFlow
