import ScriptFlow.Pattern.Basic

/-!
# Matching

`Pattern.results` lists every way to match a pattern from a position on, in
order of preference: the first alternative before the second, more copies before
fewer in a greedy repetition.  The match at a position is the first of the list,
and the matches of a text are those found from left to right, each starting where
the one before it ended at the earliest.

A copy in a repetition that consumes nothing, beyond those required, leads
nowhere new and is left out; so the length of the remaining text bounds the
number of copies.
-/

namespace ScriptFlow

namespace Pattern

/-- The text of a group. -/
structure Captured where
  index : Nat
  name : Option Text
  text : Text
  deriving DecidableEq, Repr

/-- A position in a text, with the number of characters passed since the start
of the match and the groups so far, the latest first. -/
structure Cursor where
  before : Option Char
  rest : Text
  passed : Nat := 0
  captured : List Captured := []
  deriving DecidableEq, Repr

namespace Cursor

/-- Passes one character of a set. -/
def pass (set : CharSet) (here : Cursor) : List Cursor :=
  match here.rest with
  | [] => []
  | c :: rest =>
    if set.has c then [{ here with before := some c, rest, passed := here.passed + 1 }]
    else []

/-- Notes the text between two positions as that of a group. -/
def capture (start : Cursor) (index : Nat) (name : Option Text) (stop : Cursor) : Cursor :=
  let text := start.rest.take (stop.passed - start.passed)
  { stop with captured := ⟨index, name, text⟩ :: stop.captured }

end Cursor

/-- The ways to pass a number of copies. -/
def copies (step : Cursor → List Cursor) : Nat → Cursor → List Cursor
  | 0, here => [here]
  | n + 1, here => (step here).flatMap (copies step n)

/-- The ways to pass at most a number of copies, each of which consumes
something. -/
def upTo (step : Cursor → List Cursor) (greedy : Bool) : Nat → Cursor → List Cursor
  | 0, here => [here]
  | n + 1, here =>
    let further := (step here).filter fun next => here.passed < next.passed
    let longer := further.flatMap (upTo step greedy n)
    if greedy then longer ++ [here] else here :: longer

/-- The number of copies beyond the required ones that can consume something. -/
def optionalCopies (min : Nat) (max : Option Nat) (here : Cursor) : Nat :=
  match max with
  | none => here.rest.length
  | some max => Nat.min (max - min) here.rest.length

/-- The positions after a match that starts here, the preferred one first. -/
def results : Pattern → Cursor → List Cursor
  | empty, here => [here]
  | chars set, here => here.pass set
  | assert condition, here =>
    if condition.holds here.before here.rest.head? then [here] else []
  | seq p q, here => (results p here).flatMap (results q)
  | alt p q, here => results p here ++ results q here
  | repeated p min max greedy, here =>
    (copies (results p) min here).flatMap fun next =>
      upTo (results p) greedy (optionalCopies min max next) next
  | group index name p, here => (results p here).map (here.capture index name)

/-- The match that starts between a character and a text. -/
def matchAt? (p : Pattern) (before : Option Char) (rest : Text) : Option Cursor :=
  (results p { before, rest }).head?

/-- The matches in a text after a character, of which the first characters are
skipped. -/
def matchesFrom (p : Pattern) : Nat → Option Char → Text → List Cursor
  | 0, before, [] => (matchAt? p before []).toList
  | _ + 1, _, [] => []
  | skip + 1, _, c :: rest => matchesFrom p skip (some c) rest
  | 0, before, c :: rest =>
    match matchAt? p before (c :: rest) with
    | some found => found :: matchesFrom p (found.passed - 1) (some c) rest
    | none => matchesFrom p 0 (some c) rest

/-- The matches in a text, from left to right and without overlap. -/
def matchesIn (p : Pattern) (t : Text) : List Cursor :=
  matchesFrom p 0 none t

/-! ### Groups -/

/-- Which group of a match to ask for. -/
inductive GroupRef where
  | position (index : Nat)
  | named (name : Text)
  deriving DecidableEq, Repr

/-- Whether a captured text is the one asked for. -/
def GroupRef.isOf (ref : GroupRef) (found : Captured) : Bool :=
  match ref with
  | .position index => found.index == index
  | .named name => found.name == some name

/-- The text of a group in a match, if the group took part. -/
def Cursor.groupText? (found : Cursor) (ref : GroupRef) : Option Text :=
  (found.captured.find? ref.isOf).map Captured.text

end Pattern

end ScriptFlow
