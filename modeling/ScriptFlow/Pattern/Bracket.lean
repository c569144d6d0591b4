import ScriptFlow.Pattern.Escape

/-!
# Classes in brackets

A class lists characters, ranges and other classes; `^` in front stands for the
characters outside.  The operators `&&`, `--` and `~~` join the parts before
them with those after them, from left to right.  A hyphen or a closing bracket
in front is a character, and so is a hyphen with nothing to make a range of.

The items between two operators are one level, if there are several, and each
operator and each pair of brackets is one more.
-/

namespace ScriptFlow

namespace Pattern

namespace Reader

/-! ### Items -/

/-- A set operator between parts of a class. -/
inductive SetOperator where
  | inter
  | diff
  | symmDiff

/-- The set that an operator makes of two. -/
def SetOperator.apply : SetOperator → CharSet → CharSet → CharSet
  | inter, a, b => .inter a b
  | diff, a, b => .diff a b
  | symmDiff, a, b => .symmDiff a b

/-- The items between two operators. -/
structure Items where
  set : CharSet := .none
  count : Nat := 0
  height : Nat := 0

namespace Items

/-- Adds one item. -/
def add (items : Items) (set : CharSet) (height : Nat := 0) : Items :=
  { set := if items.count == 0 then set else .union items.set set
    count := items.count + 1
    height := Nat.max items.height height }

/-- The items as one set. -/
def nested (items : Items) : Nested CharSet :=
  { value := items.set
    height := if items.count < 2 then items.height else items.height + 1 }

end Items

/-- A set operator that waits for its second part. -/
structure PendingSet where
  operator : SetOperator
  first : Nested CharSet

/-- The set of the parts so far, under the flags. -/
def combine (pending : Option PendingSet) (items : Items) : Reader (Nested CharSet) := do
  let second := items.nested
  match pending with
  | none => return second
  | some ⟨operator, first⟩ =>
    return {
      value := operator.apply (← fold first.value) (← fold second.value)
      height := Nat.max first.height second.height + 1 }

/-- A class by name, if the text goes on with one. -/
def bracketName : Reader (Option CharSet) := do
  let start ← get
  if !(← takeIf ['[', ':']) then return none
  let negated ← takeIf ['^']
  let rest := (← get).rest
  match Text.cut? [':'] rest with
  | none =>
    set start
    return none
  | some (name, after) =>
    match namedClass? name, after with
    | some found, ']' :: rest =>
      modify fun s => { s with rest }
      return some (← complementIf negated (← fold found))
    | _, _ =>
      set start
      return none

/-! ### Ranges -/

/-- A character inside brackets, which has to be one of ASCII where the flags
turn Unicode off. -/
def classChar (c : Char) : Reader Escaped := do
  guard ((← get).flags.unicode || c.toNat < 0x80)
  return .char c

/-- One character or class inside brackets. -/
def classItem : Reader Escaped := do
  match (← get).rest with
  | [] => failure
  | '\\' :: rest =>
    modify fun s => { s with rest }
    match ← escape with
    | .char c => classChar c
    | other => return other
  | c :: rest =>
    modify fun s => { s with rest }
    classChar c

/-- The character that decides about a hyphen, in a verbose pattern: the first
that is not blank, where the sign of a comment is passed over once. -/
def decisive : Bool → Text → Option Char
  | _, [] => none
  | inComment, c :: rest =>
    if Text.isBlank c then decisive inComment rest
    else if !inComment && c == '#' then decisive true rest
    else some c

/-- Whether what follows a hyphen makes it the sign of a range. -/
def isRangeSign : Reader Bool := do
  let s ← get
  match s.rest with
  | '-' :: rest =>
    let found := if s.flags.verbose then decisive false rest <|> rest.head? else rest.head?
    return found != some ']' && found != some '-'
  | _ => return false

/-- A character, a class, or a range of characters inside brackets. -/
def classRange : Reader CharSet := do
  let first ← classItem
  skip
  if (← isRangeSign) then
    advance
    match first, ← classItem with
    | .char a, .char b =>
      guard (a ≤ b)
      return .range a b
    | _, _ => failure
  else
    match first with
    | .char c => return .single c
    | .set set => return set
    | .position _ => failure

/-! ### Classes -/

/-- The items that a class may start with: hyphens, or else a closing bracket. -/
def leadingItems : Reader Items := do
  let hyphens ← span (· == '-')
  if hyphens.isEmpty && (← peek) == some ']' then
    advance
    return Items.add {} (.single ']')
  else return hyphens.foldl (fun items c => items.add (.single c)) {}

mutual

/-- A class, after its opening bracket. -/
def bracket : Nat → Reader (Nested CharSet)
  | 0 => failure
  | fuel + 1 => deeper do
    skip
    let negated ← takeIf ['^']
    skip
    let found ← classParts fuel none (← leadingItems)
    return {
      value := ← complementIf negated (← fold found.value)
      height := found.height + 1 }

/-- The parts of a class up to its closing bracket. -/
def classParts : Nat → Option PendingSet → Items → Reader (Nested CharSet)
  | 0, _, _ => failure
  | fuel + 1, pending, items => do
    skip
    match (← get).rest with
    | [] => failure
    | ']' :: rest =>
      modify fun s => { s with rest }
      combine pending items
    | '[' :: _ =>
      match ← bracketName with
      | some found => classParts fuel pending (items.add found)
      | none =>
        modify fun s => { s with rest := s.rest.tail }
        let inner ← bracket fuel
        classParts fuel pending (items.add inner.value inner.height)
    | '&' :: '&' :: rest =>
      modify fun s => { s with rest }
      classParts fuel (some ⟨.inter, ← combine pending items⟩) {}
    | '-' :: '-' :: rest =>
      modify fun s => { s with rest }
      classParts fuel (some ⟨.diff, ← combine pending items⟩) {}
    | '~' :: '~' :: rest =>
      modify fun s => { s with rest }
      classParts fuel (some ⟨.symmDiff, ← combine pending items⟩) {}
    | _ => classParts fuel pending (items.add (← classRange))

end

end Reader

end Pattern

end ScriptFlow
