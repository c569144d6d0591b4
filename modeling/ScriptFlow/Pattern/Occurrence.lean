import ScriptFlow.Pattern.Basic

/-!
# Occurrence

Whether a text holds a match of a pattern at all.  The matches are not listed
for it: there may be as many of them as there are ways to cut the text.
Instead, positions of the text are marked, and a pattern takes some marked
positions to those where the matches that start at one of them end.

Where a text has `n` characters, one of `n + 1` copies in a row consumes nothing
and can be left out or repeated, so no more copies have to be looked at.
-/

namespace ScriptFlow

/-- Marks on the positions of a text, from the one before its first character to
the one after its last. -/
abbrev Marks := List Bool

namespace Marks

/-- Marks on all positions of a text. -/
def every (t : Text) : Marks :=
  List.replicate (t.length + 1) true

/-- Whether a position is marked. -/
def isAny (marks : Marks) : Bool :=
  marks.any id

/-- The positions with either of two marks. -/
def either (a b : Marks) : Marks :=
  List.zipWith or a b

/-- The positions after a marked one and a character of a set. -/
def pass (set : CharSet) (t : Text) (marks : Marks) : Marks :=
  false :: List.zipWith (fun mark c => mark && set.has c) marks t

/-- The marked positions at which a condition holds, from a position on in a
text. -/
def keep (condition : Assertion) : Option Char → Text → Marks → Marks
  | _, _, [] => []
  | before, t, mark :: marks =>
    (mark && condition.holds before t.head?) :: keep condition t.head? t.tail marks

/-- The positions after a number of steps. -/
def iterate (step : Marks → Marks) : Nat → Marks → Marks
  | 0, marks => marks
  | n + 1, marks => if marks.isAny then iterate step n (step marks) else marks

/-- The positions after at most a number of steps. -/
def within (step : Marks → Marks) : Nat → Marks → Marks
  | 0, marks => marks
  | n + 1, marks =>
    let next := marks.either (step marks)
    if next == marks then marks else within step n next

end Marks

namespace Pattern

/-- The positions of a text where the matches end that start at a marked one. -/
def ends (t : Text) : Pattern → Marks → Marks
  | empty, marks => marks
  | chars set, marks => marks.pass set t
  | assert condition, marks => marks.keep condition none t
  | seq p q, marks => ends t q (ends t p marks)
  | alt p q, marks => (ends t p marks).either (ends t q marks)
  | repeated p min max _, marks =>
    let required := marks.iterate (ends t p) (Nat.min min (t.length + 1))
    match max with
    | none => required.within (ends t p) t.length
    | some max => required.within (ends t p) (Nat.min (max - min) t.length)
  | group _ _ p, marks => ends t p marks

/-- Whether a text holds a match. -/
def occursIn (p : Pattern) (t : Text) : Bool :=
  (ends t p (Marks.every t)).isAny

end Pattern

end ScriptFlow
