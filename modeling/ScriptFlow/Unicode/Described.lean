import ScriptFlow.Text.Basic
import ScriptFlow.Text.Ranges

/-!
# Described sets of characters

The Unicode standard describes a set of characters by a list, or by what other
sets hold: the alphabetic characters, for instance, are the letters with the
letter numbers and a list of others.  A `Described` set is such a description;
`Described.ranges` works it out.
-/

namespace ScriptFlow

namespace Unicode

open Text (Ranges)

/-- A set of characters as the standard describes it. -/
inductive Described where
  | nothing
  | everything
  /-- A written list of code points, as `Ranges.ofText` reads it. -/
  | listed (written : String)
  | either (a b : Described)
  /-- The characters of the first set that are not in the second. -/
  | except (a b : Described)
  deriving DecidableEq, Repr

namespace Described

/-- The characters in one of several sets. -/
def anyOf (sets : List Described) : Described :=
  sets.foldr either nothing

/-- The characters outside of a set. -/
def outside (a : Described) : Described :=
  except everything a

/-- The characters in both of two sets. -/
def both (a b : Described) : Described :=
  except a (outside b)

/-- The ranges that a description stands for, in normal form. -/
def ranges : Described → Ranges
  | nothing => []
  | everything => Ranges.compl []
  | listed written => Ranges.normalize (Ranges.ofText written)
  | either a b => Ranges.union a.ranges b.ranges
  | except a b => Ranges.diff a.ranges b.ranges

end Described

end Unicode

end ScriptFlow
