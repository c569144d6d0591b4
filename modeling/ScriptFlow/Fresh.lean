import ScriptFlow.Text.Basic

/-!
# Fresh names

A name that is taken is told apart by a number: `base`, then `base_2`, `base_3`
and so on, the first that is free.  Among one more candidates than there are
names taken one is free, so their number bounds the search.
-/

namespace ScriptFlow

namespace Fresh

/-- A name with a number. -/
def numbered (base : Text) (k : Nat) : Text :=
  base ++ ['_'] ++ Text.ofNat k

/-- The first free name with a number from `k` on, searched for a number of
steps. -/
def search (taken : List Text) (base : Text) : Nat → Nat → Text
  | 0, k => numbered base k
  | steps + 1, k =>
    if taken.contains (numbered base k) then search taken base steps (k + 1)
    else numbered base k

/-- The name if it is free, and otherwise the first free one with a number. -/
def name (taken : List Text) (base : Text) : Text :=
  if taken.contains base then search taken base taken.length 2 else base

end Fresh

end ScriptFlow
