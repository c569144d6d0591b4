import ScriptFlow.Pattern.Basic

/-!
# Steps of reading a pattern

A reader passes over the characters of a written pattern and keeps the flags
that hold at the place it has come to, together with the groups so far.  A step
refuses a text that is not well formed by failing.

In a verbose pattern, blanks and comments may stand between the parts and also
inside some of them; a comment runs from `#` to the end of its line.
-/

namespace ScriptFlow

namespace Pattern

/-- The flags that change how a part is read. -/
structure Flags where
  caseless : Bool := false
  multiline : Bool := false
  /-- A point stands for a line feed too. -/
  dotAll : Bool := false
  /-- Repetitions are lazy unless marked. -/
  swapGreed : Bool := false
  /-- Classes are those of Unicode, not of ASCII. -/
  unicode : Bool := true
  /-- A carriage return ends lines too. -/
  returns : Bool := false
  /-- Blanks and comments are skipped. -/
  verbose : Bool := false

/-- What was read so far and what is left. -/
structure Reading where
  rest : Text
  flags : Flags := {}
  groups : Nat := 0
  names : List Text := []
  /-- The number of groups and brackets around. -/
  depth : Nat := 0

/-- A step of reading, which may refuse. -/
abbrev Reader := StateT Reading Option

/-- What a part of a written pattern stands for, with the number of levels that
it is nested. -/
structure Nested (α : Type) where
  value : α
  height : Nat := 0

/-- The number of levels that a pattern may be nested. -/
def heightLimit : Nat :=
  250

namespace Reader

/-! ### Characters -/

/-- A text without blanks and comments in front. -/
def dropVerbose : Bool → Text → Text
  | _, [] => []
  | true, c :: rest => dropVerbose (c != '\n') rest
  | false, c :: rest =>
    if Text.isBlank c then dropVerbose false rest
    else if c == '#' then dropVerbose true rest
    else c :: rest

/-- Skips what a verbose pattern may hold between its parts. -/
def skip : Reader Unit :=
  modify fun s => if s.flags.verbose then { s with rest := dropVerbose false s.rest } else s

/-- The next character, if there is one. -/
def peek : Reader (Option Char) :=
  return (← get).rest.head?

/-- Passes one character, and what a verbose pattern may hold after it. -/
def advance : Reader Unit := do
  modify fun s => { s with rest := s.rest.tail }
  skip

/-- Passes a text if it comes next, and says whether it did. -/
def takeIf (expected : Text) : Reader Bool := do
  match expected.isPrefixOf? (← get).rest with
  | some rest =>
    modify fun s => { s with rest }
    return true
  | none => return false

/-- Passes a text that has to come next. -/
def expect (expected : Text) : Reader Unit := do
  guard (← takeIf expected)

/-- The next character, which is passed together with what a verbose pattern may
hold after it. -/
def next : Reader Char := do
  match ← peek with
  | none => failure
  | some c =>
    advance
    return c

/-- The longest run of characters with a property. -/
def spanOf (property : Char → Bool) : Nat → Reader Text
  | 0 => return []
  | n + 1 => do
    match ← peek with
    | some c =>
      if property c then
        advance
        return c :: (← spanOf property n)
      else return []
    | none => return []

/-- The longest run of characters with a property. -/
def span (property : Char → Bool) : Reader Text := do
  spanOf property (← get).rest.length

/-- A number of characters. -/
def take : Nat → Reader Text
  | 0 => return []
  | n + 1 => do
    let c ← next
    return c :: (← take n)

/-! ### Nesting -/

/-- Reads something that is nested one level deeper. -/
def deeper (inner : Reader α) : Reader α := do
  guard ((← get).depth < heightLimit)
  modify fun s => { s with depth := s.depth + 1 }
  let found ← inner
  modify fun s => { s with depth := s.depth - 1 }
  return found

/-! ### Sets under flags -/

/-- A set, closed under letter case if the flags ask for it. -/
def fold (set : CharSet) : Reader CharSet := do
  let flags := (← get).flags
  if !flags.caseless then return set
  else if flags.unicode then return .caseless set
  else return .asciiCaseless set

/-- A complement, which exists only among all characters of Unicode. -/
def complement (set : CharSet) : Reader CharSet := do
  guard (← get).flags.unicode
  return .compl set

/-- A set or its complement. -/
def complementIf (negated : Bool) (set : CharSet) : Reader CharSet :=
  if negated then complement set else return set

end Reader

end Pattern

end ScriptFlow
