import ScriptFlow.Text.Basic
import ScriptFlow.Text.CaseFold
import ScriptFlow.Text.Word

/-!
# Patterns

Regular expressions as syntax trees: sets of characters, positions, sequences,
alternatives, repetitions and groups whose text can be asked for.

The second half of the file builds patterns from smaller ones.
-/

namespace ScriptFlow

/-! ### Sets of characters -/

/-- A set of characters. -/
inductive CharSet where
  | none
  /-- The characters between two, both included. -/
  | range (first last : Char)
  | word
  | decimal
  | blank
  | listed (ranges : Text.Ranges)
  | union (a b : CharSet)
  | inter (a b : CharSet)
  | compl (a : CharSet)
  /-- The characters that differ in letter case only from one in the set. -/
  | caseless (a : CharSet)
  /-- As `caseless`, for the letters of ASCII only. -/
  | asciiCaseless (a : CharSet)
  deriving DecidableEq, Repr

namespace CharSet

/-- Whether a character is in a set. -/
def has : CharSet → Char → Bool
  | none, _ => false
  | range first last, c => first ≤ c && c ≤ last
  | word, c => Text.isWord c
  | decimal, c => Text.isDecimal c
  | blank, c => Text.isBlank c
  | listed ranges, c => ranges.has c.toNat
  | union a b, c => a.has c || b.has c
  | inter a b, c => a.has c && b.has c
  | compl a, c => !a.has c
  | caseless a, c => (Text.caseVariants c).any a.has
  | asciiCaseless a, c => (Text.asciiVariants c).any a.has

/-- The blanks as ranges. -/
def blankRanges : Text.Ranges :=
  Text.Ranges.ofText "9-D 20 85 A0 1680 2000-200A 2028-2029 202F 205F 3000"

/-- The ranges of the characters in a set, in normal form. -/
def ranges : CharSet → Text.Ranges
  | none => []
  | range first last => Text.Ranges.normalize [(first.toNat, last.toNat)]
  | word => Text.Ranges.normalize Text.allWordRanges
  | decimal => Text.Ranges.normalize Text.allDigitRanges
  | blank => Text.Ranges.normalize blankRanges
  | listed ranges => Text.Ranges.normalize ranges
  | union a b => a.ranges.union b.ranges
  | inter a b => a.ranges.inter b.ranges
  | compl a => a.ranges.compl
  | caseless a => a.ranges.caseless
  | asciiCaseless a => a.ranges.asciiCaseless

/-- The set of one character. -/
def single (c : Char) : CharSet :=
  range c c

/-- The characters of a text. -/
def ofText : Text → CharSet
  | [] => none
  | [c] => single c
  | c :: rest => union (single c) (ofText rest)

/-- The characters in one set but not in another. -/
def diff (a b : CharSet) : CharSet :=
  inter a (compl b)

/-- The characters in exactly one of two sets. -/
def symmDiff (a b : CharSet) : CharSet :=
  union (diff a b) (diff b a)

/-- Every character but a line feed. -/
def notLineFeed : CharSet :=
  compl (single '\n')

end CharSet

/-! ### Positions -/

/-- A condition on the characters before and after a position. -/
inductive Assertion where
  | textStart
  | textEnd
  | lineStart
  | lineEnd
  /-- As `lineStart`, where a carriage return also ends lines. -/
  | lineStartReturn
  /-- As `lineEnd`, where a carriage return also ends lines. -/
  | lineEndReturn
  /-- A word starts or ends here, where words are made of the given characters. -/
  | wordBoundary (letters : CharSet)
  | noWordBoundary (letters : CharSet)
  | wordStart (letters : CharSet)
  | wordEnd (letters : CharSet)
  | noWordBefore (letters : CharSet)
  | noWordAfter (letters : CharSet)
  deriving DecidableEq, Repr

namespace Assertion

/-- Whether a condition holds between two characters, if there are any. -/
def holds (before after : Option Char) : Assertion → Bool
  | textStart => before.isNone
  | textEnd => after.isNone
  | lineStart => before.isNone || before == some '\n'
  | lineEnd => after.isNone || after == some '\n'
  | lineStartReturn =>
    before.isNone || before == some '\n' || (before == some '\r' && after != some '\n')
  | lineEndReturn =>
    after.isNone || after == some '\r' || (after == some '\n' && before != some '\r')
  | wordBoundary letters => before.any letters.has != after.any letters.has
  | noWordBoundary letters => before.any letters.has == after.any letters.has
  | wordStart letters => !before.any letters.has && after.any letters.has
  | wordEnd letters => before.any letters.has && !after.any letters.has
  | noWordBefore letters => !before.any letters.has
  | noWordAfter letters => !after.any letters.has

end Assertion

/-! ### Patterns -/

/-- A regular expression. -/
inductive Pattern where
  | empty
  | chars (set : CharSet)
  | assert (condition : Assertion)
  | seq (p q : Pattern)
  /-- Either of two, the first if both lead to a match. -/
  | alt (p q : Pattern)
  /-- From `min` to `max` copies; as many as possible if greedy, else as few. -/
  | repeated (p : Pattern) (min : Nat) (max : Option Nat) (greedy : Bool)
  /-- A part whose text can be asked for by number, and by name if it has one. -/
  | group (index : Nat) (name : Option Text) (p : Pattern)
  deriving DecidableEq, Repr

namespace Pattern

/-- One character. -/
def char (c : Char) : Pattern :=
  chars (.single c)

/-- The characters of a text in order. -/
def literal : Text → Pattern
  | [] => empty
  | [c] => char c
  | c :: rest => seq (char c) (literal rest)

/-- The characters of a text in order, in any letter case. -/
def caselessLiteral : Text → Pattern
  | [] => empty
  | [c] => chars (.caseless (.single c))
  | c :: rest => seq (chars (.caseless (.single c))) (caselessLiteral rest)

/-- Patterns one after the other. -/
def sequence : List Pattern → Pattern
  | [] => empty
  | [p] => p
  | p :: rest => seq p (sequence rest)

/-- The first of several patterns that leads to a match. -/
def anyOf : List Pattern → Pattern
  | [] => chars .none
  | [p] => p
  | p :: rest => alt p (anyOf rest)

/-- The first of several texts that leads to a match. -/
def words (texts : List Text) : Pattern :=
  anyOf (texts.map literal)

/-- As many copies as possible, or none. -/
def many (p : Pattern) : Pattern :=
  repeated p 0 none true

/-- As many copies as possible, at least one. -/
def some1 (p : Pattern) : Pattern :=
  repeated p 1 none true

/-- The pattern, or nothing. -/
def maybe (p : Pattern) : Pattern :=
  repeated p 0 (some 1) true

/-- The start or the end of a word. -/
def boundary : Pattern :=
  assert (.wordBoundary .word)

/-- Blanks, or nothing. -/
def blanks : Pattern :=
  many (chars .blank)

/-- At least one blank. -/
def blanks1 : Pattern :=
  some1 (chars .blank)

end Pattern

end ScriptFlow
