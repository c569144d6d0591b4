import ScriptFlow.Pattern.Basic
import ScriptFlow.Text.Utf8

/-!
# The size of a pattern

A pattern is run by a machine that reads a text byte by byte.  Every byte that
it may read is a state, and so is every choice between ways to go on; a state
takes 32 bytes, and more for each way out of it.  A repetition takes as many
copies of what it repeats as it counts, so short patterns can have large
machines, and one of more than ten mebibytes is refused.

There are two machines: one reads forward and notes where groups start and end,
the other reads backward and notes nothing.  They differ in how they share the
bytes of the characters of a class: forward, what follows on different bytes is
shared, so a class takes the states of its least automaton; backward, what comes
before is shared, as the states of a tree.
-/

namespace ScriptFlow

/-- The ways to read a text. -/
inductive Course where
  | forward
  | backward
  deriving DecidableEq, Repr

namespace Machine

/-! ### States -/

/-- The number of bytes that a state takes. -/
def state : Nat :=
  32

/-- The number of bytes that a way out on a range of bytes takes. -/
def edge : Nat :=
  8

/-- The number of bytes that a way out on nothing takes. -/
def branch : Nat :=
  4

/-- The number of bytes that a machine may take. -/
def limit : Nat :=
  0xA00000

/-- The number of bytes of several parts. -/
def total (parts : List Nat) : Nat :=
  parts.foldr Nat.add 0

/-! ### Classes -/

/-- A state of an automaton for byte sequences: its ways out, each to a state
that comes earlier in a list. -/
abbrev Ways := List ((Nat × Nat) × Nat)

/-- The states of an automaton, each of them once. -/
abbrev States := List Ways

/-- The sequences by the range that they start with, those after it gathered. -/
def byLead : List Text.ByteSequence → List ((Nat × Nat) × List Text.ByteSequence)
  | [] => []
  | [] :: rest => byLead rest
  | (lead :: tail) :: rest =>
    match byLead rest with
    | (lead', tails) :: groups =>
      if lead == lead' then (lead, tail :: tails) :: groups
      else (lead, [tail]) :: (lead', tails) :: groups
    | [] => [(lead, [tail])]

/-- The number of a state, which is added if there is no such state yet. -/
def number (ways : Ways) (states : States) : Nat × States :=
  match states.idxOf? ways with
  | some index => (index + 1, states)
  | none => (states.length + 1, states ++ [ways])

/-- The states that read one of some sequences, of at most a number of bytes; the
number of the last one comes with them, and 0 is the number of the end. -/
def addStates : Nat → List Text.ByteSequence → States → Nat × States
  | 0, _, states => (0, states)
  | length + 1, sequences, states =>
    if sequences.all List.isEmpty then (0, states)
    else
      let step := fun (found : Ways × States) (group : (Nat × Nat) × List Text.ByteSequence) =>
        let (index, states) := addStates length group.2 found.2
        (found.1 ++ [(group.1, index)], states)
      let (ways, states) := (byLead sequences).foldl step ([], states)
      number ways states

/-- The bytes of an automaton for a class that reads forward. -/
def forwardClass (sequences : List Text.ByteSequence) : Nat :=
  let (_, states) := addStates 5 sequences []
  state + total (states.map fun ways => state + edge * ways.length)

/-- The number of nodes of the tree of some sequences, of at most a number of
bytes. -/
def treeNodes : Nat → List Text.ByteSequence → Nat
  | 0, _ => 0
  | length + 1, sequences =>
    total ((byLead sequences).map fun group => treeNodes length group.2 + 1)

/-- The bytes of a tree for a class that reads backward. -/
def backwardClass (sequences : List Text.ByteSequence) : Nat :=
  2 * state + state * treeNodes 5 sequences + branch * sequences.length

/-- The bytes that a set of characters takes.  One character is a state for each
of its bytes, and the characters of ASCII are ways out of one state. -/
def ofClass (course : Course) (set : Text.Ranges) : Nat :=
  let sequences := Text.byteSequences set
  match sequences, set with
  | [sequence], [(first, last)] =>
    if first == last then state * sequence.length
    else if sequence.length == 1 then 2 * state + edge
    else
      match course with
      | .forward => forwardClass sequences
      | .backward => backwardClass sequences
  | _, _ =>
    if sequences.all fun sequence => sequence.length == 1 then
      2 * state + edge * sequences.length
    else
      match course with
      | .forward => forwardClass sequences
      | .backward => backwardClass sequences

end Machine

namespace Pattern

open Machine

/-! ### What a pattern may consume -/

/-- Whether a pattern may match without consuming anything. -/
def mayBeEmpty : Pattern → Bool
  | empty => true
  | chars _ => false
  | assert _ => true
  | seq p q => p.mayBeEmpty && q.mayBeEmpty
  | alt p q => p.mayBeEmpty || q.mayBeEmpty
  | repeated p min _ _ => min == 0 || p.mayBeEmpty
  | group _ _ p => p.mayBeEmpty

/-- Whether no match of a pattern consumes anything. -/
def isAlwaysEmpty : Pattern → Bool
  | empty => true
  | chars _ => false
  | assert _ => true
  | seq p q => p.isAlwaysEmpty && q.isAlwaysEmpty
  | alt p q => p.isAlwaysEmpty && q.isAlwaysEmpty
  | repeated p _ max _ => max == some 0 || p.isAlwaysEmpty
  | group _ _ p => p.isAlwaysEmpty

/-! ### Bytes -/

/-- The bytes of a repetition, given those of one copy. -/
def repeatedBytes (copy : Nat) (mayBeEmpty : Bool) (min : Nat) : Option Nat → Nat
  | none =>
    if min != 0 then min * copy + state + 2 * branch
    else if mayBeEmpty then copy + 3 * state + 4 * branch
    else copy + state + 2 * branch
  | some max =>
    if min == max then if max == 0 then state else min * copy
    else
      let choices := (max - min) * (copy + state + 2 * branch)
      min * copy + choices + state

/-- The counts of a repetition; what consumes nothing need not be repeated. -/
def usefulCounts (p : Pattern) (min : Nat) (max : Option Nat) : Nat × Option Nat :=
  if p.isAlwaysEmpty then (Nat.min min 1, some (Nat.min (max.getD 1) 1)) else (min, max)

/-- What the machine of a pattern takes. -/
inductive Cost where
  /-- A class of characters. -/
  | oneOf (set : CharSet)
  /-- The bytes of states, without the choice between alternatives. -/
  | states (bytes alternatives : Nat)

namespace Cost

/-- The bytes of the states alone. -/
def stateBytes (course : Course) : Cost → Nat
  | oneOf set => ofClass course set.ranges
  | states bytes _ => bytes

/-- The number of alternatives. -/
def alternatives : Cost → Nat
  | oneOf _ => 1
  | states _ alternatives => alternatives

/-- The bytes of a machine, with the choice between its alternatives. -/
def bytes (course : Course) (cost : Cost) : Nat :=
  if cost.alternatives < 2 then cost.stateBytes course
  else cost.stateBytes course + 2 * state + branch * cost.alternatives

/-- Either of two; two classes are one. -/
def either (course : Course) : Cost → Cost → Cost
  | oneOf a, oneOf b => oneOf (.union a b)
  | a, b =>
    states (a.stateBytes course + b.stateBytes course) (a.alternatives + b.alternatives)

end Cost

/-- What a pattern takes. -/
def cost (course : Course) : Pattern → Cost
  | empty => .states state 1
  | chars set => .oneOf set
  | assert _ => .states state 1
  | seq p q => .states ((p.cost course).bytes course + (q.cost course).bytes course) 1
  | alt p q => (p.cost course).either course (q.cost course)
  | repeated p min max _ =>
    let (min, max) := p.usefulCounts min max
    .states (repeatedBytes ((p.cost course).bytes course) p.mayBeEmpty min max) 1
  | group _ _ p =>
    match course with
    | .forward => .states ((p.cost course).bytes course + 2 * state) 1
    | .backward => .states ((p.cost course).bytes course) 1

/-- The bytes of the machine of a pattern.  Forward, a match may start anywhere
in a text, and the machine notes where. -/
def machineBytes (course : Course) (p : Pattern) : Nat :=
  match course with
  | .forward => (p.cost course).bytes course + 6 * state + edge + 2 * branch
  | .backward => (p.cost course).bytes course + state

/-- Whether the machines of a pattern are not too large. -/
def fits (p : Pattern) : Bool :=
  p.machineBytes .forward ≤ limit && p.machineBytes .backward ≤ limit

end Pattern

end ScriptFlow
