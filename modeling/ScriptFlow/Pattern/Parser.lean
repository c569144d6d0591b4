import ScriptFlow.Pattern.Bracket
import ScriptFlow.Pattern.Size
import ScriptFlow.Unicode.Binary

/-!
# Reading patterns

The text form of regular expressions: literals and escapes, `.`, classes in
brackets, the positions `^`, `$`, `\A`, `\z` and those around words, groups
with and without a name or flags, alternatives, and repetitions with counts,
which may be lazy.

There are no references to earlier groups and no conditions that look further
than one character; their spellings are refused, as is a repetition of nothing.
Flags hold from where they are set to the end of their group.  A pattern that is
nested too deep, or that would take a machine too large, is refused as well.

Every step consumes a character or enters a group, so the length of the text
bounds the depth of the calls.
-/

namespace ScriptFlow

namespace Pattern

namespace Reader

/-! ### Repetitions -/

/-- A count of at most 32 bits, with blanks around it. -/
def count : Reader Nat := do
  modify fun s => { s with rest := Text.trimStart s.rest }
  let digits ← span Char.isDigit
  modify fun s => { s with rest := Text.trimStart s.rest }
  skip
  guard !digits.isEmpty
  let n := Nat.ofDigitChars 10 digits 0
  guard (n < 0x100000000)
  return n

/-- The counts between braces, after the opening one. -/
def counts : Reader (Nat × Option Nat) := do
  skip
  let min ← count
  match ← next with
  | '\x7d' => return (min, some min)
  | ',' =>
    if (← peek) == some '\x7d' then
      advance
      return (min, none)
    let max ← count
    guard ((← next) == '\x7d' && min ≤ max)
    return (min, some max)
  | _ => failure

/-! ### Groups and flags -/

/-- The flags changed by a letter. -/
def setFlag (value : Bool) (flags : Flags) : Char → Option Flags
  | 'i' => some { flags with caseless := value }
  | 'm' => some { flags with multiline := value }
  | 's' => some { flags with dotAll := value }
  | 'U' => some { flags with swapGreed := value }
  | 'u' => some { flags with unicode := value }
  | 'R' => some { flags with returns := value }
  | 'x' => some { flags with verbose := value }
  | _ => none

/-- The flags after some letters, of which none may be repeated; those after a
hyphen are turned off, and something must follow it. -/
def flagsOf (value : Bool) (seen : List Char) (flags : Flags) : Text → Option Flags
  | [] => if seen.head? == some '-' then none else some flags
  | c :: rest =>
    if seen.contains c then none
    else if c == '-' then flagsOf false (c :: seen) flags rest
    else (setFlag value flags c).bind fun flags => flagsOf value (c :: seen) flags rest

/-- Whether a text may be the name of a group: it starts with `_` or an
alphabetic character, and numbers, `.` and square brackets may follow as well. -/
def isGroupName (name : Text) : Bool :=
  let letters := Unicode.Binary.alphabetic.ranges
  let numbers := (Unicode.Category.charsOf Unicode.Category.numbers).ranges
  let isStart := fun (c : Char) => c == '_' || letters.has c.toNat
  let isNameChar := fun (c : Char) =>
    isStart c || c == '.' || c == '[' || c == ']' || numbers.has c.toNat
  name.head?.any isStart && name.all isNameChar

/-- How a parenthesis opens. -/
inductive Opening where
  /-- A group that can be asked for. -/
  | group (index : Nat) (name : Option Text)
  /-- A group for the sake of precedence. -/
  | plain
  /-- Flags for the rest of the group around. -/
  | flags (flags : Flags)

/-- Gives the next group its number. -/
def openGroup (name : Option Text) : Reader Opening := do
  let s ← get
  set { s with groups := s.groups + 1, names := name.toList ++ s.names }
  return .group (s.groups + 1) name

/-- What stands after an opening parenthesis. -/
def opening : Reader Opening := do
  if (← takeIf "?P<") || (← takeIf "?<") then
    let name := (← get).rest.takeWhile (· != '>')
    guard (isGroupName name)
    guard !(← get).names.contains name
    expect (name ++ ['>'])
    openGroup (some name)
  else if (← takeIf "?") then
    let isEnd := fun (c : Char) => c == ':' || c == ')'
    let s ← get
    let letters := s.rest.takeWhile fun c => !isEnd c
    let flags ← (flagsOf true [] s.flags letters : Reader Flags)
    expect letters
    if (← takeIf [')']) then
      guard !letters.isEmpty
      return .flags flags
    expect [':']
    modify fun s => { s with flags }
    return .plain
  else openGroup none

/-! ### Patterns -/

/-- The pattern of a point. -/
def point : Reader Pattern := do
  let flags := (← get).flags
  guard flags.unicode
  if flags.dotAll then return .chars (.compl .none)
  else if flags.returns then return .chars (.compl (.ofText ['\n', '\r']))
  else return .chars .notLineFeed

/-- The pattern of `^`. -/
def caret : Reader Pattern := do
  let flags := (← get).flags
  return .assert
    (if !flags.multiline then .textStart
      else if flags.returns then .lineStartReturn else .lineStart)

/-- The pattern of `$`. -/
def dollar : Reader Pattern := do
  let flags := (← get).flags
  return .assert
    (if !flags.multiline then .textEnd
      else if flags.returns then .lineEndReturn else .lineEnd)

/-- The pattern of an escape. -/
def escapedPart : Reader Pattern := do
  match ← escape with
  | .char c => return .chars (← fold (.single c))
  | .set set => return .chars set
  | .position condition => return .assert condition

/-- A part of an alternative, which only sets flags if it stands for no
pattern. -/
abbrev Part := Nested (Option Pattern)

/-- A part that is not nested. -/
def plainPart (p : Pattern) : Part :=
  { value := some p }

/-- The part that a repetition applies to: the last one, unless it only set
flags. -/
def lastPart : List Part → Reader (Nested Pattern × List Part)
  | ⟨some p, height⟩ :: parts => return (⟨p, height⟩, parts)
  | _ => failure

/-- The parts with the last one repeated, as the text before says. -/
def repeatLast (read : List Part) (min : Nat) (max : Option Nat) : Reader (List Part) := do
  let (part, others) ← lastPart read
  let isLazy ← takeIf ['?']
  let repeated := Pattern.repeated part.value min max (isLazy == (← get).flags.swapGreed)
  return ⟨some repeated, part.height + 1⟩ :: others

/-- The level of several parts: one more than theirs, unless there is but one. -/
def levelOf (heights : List Nat) : Nat :=
  let height := heights.foldl Nat.max 0
  if heights.length < 2 then height else height + 1

/-- The pattern of parts, of which the last one comes first. -/
def concatenated (parts : List Part) : Nested Pattern :=
  { value := .sequence (parts.reverse.filterMap Nested.value)
    height := levelOf (parts.map Nested.height) }

/-- The pattern of alternatives. -/
def alternation (branches : List (Nested Pattern)) : Nested Pattern :=
  { value := .anyOf (branches.map Nested.value)
    height := levelOf (branches.map Nested.height) }

mutual

/-- Alternatives up to the end of the group. -/
def alternatives : Nat → Reader (List (Nested Pattern))
  | 0 => failure
  | fuel + 1 => do
    let first ← parts fuel []
    if (← takeIf ['|']) then return first :: (← alternatives fuel)
    else return [first]

/-- The parts of one alternative, given those read, the last one first. -/
def parts : Nat → List Part → Reader (Nested Pattern)
  | 0, _ => failure
  | fuel + 1, read => do
    skip
    match (← get).rest with
    | [] => return concatenated read
    | '|' :: _ => return concatenated read
    | ')' :: _ => return concatenated read
    | c :: rest =>
      modify fun s => { s with rest }
      match c with
      | '(' => parts fuel ((← group fuel) :: read)
      | '[' =>
        let found ← bracket fuel
        parts fuel (⟨some (.chars found.value), found.height⟩ :: read)
      | '*' => parts fuel (← repeatLast read 0 none)
      | '+' => parts fuel (← repeatLast read 1 none)
      | '?' => parts fuel (← repeatLast read 0 (some 1))
      | '\x7b' =>
        let (min, max) ← counts
        parts fuel (← repeatLast read min max)
      | '\\' => parts fuel (plainPart (← escapedPart) :: read)
      | '.' => parts fuel (plainPart (← point) :: read)
      | '^' => parts fuel (plainPart (← caret) :: read)
      | '$' => parts fuel (plainPart (← dollar) :: read)
      | c => parts fuel (plainPart (.chars (← fold (.single c))) :: read)

/-- A group after its opening parenthesis; there is no pattern if it only set
flags. -/
def group : Nat → Reader Part
  | 0 => failure
  | fuel + 1 => do
    skip
    let flags := (← get).flags
    match ← opening with
    | .flags flags =>
      modify fun s => { s with flags }
      return { value := none }
    | .plain =>
      let found := alternation (← deeper (alternatives fuel))
      expect [')']
      modify fun s => { s with flags }
      return { value := some found.value, height := found.height + 1 }
    | .group index name =>
      let found := alternation (← deeper (alternatives fuel))
      expect [')']
      modify fun s => { s with flags }
      return { value := some (.group index name found.value), height := found.height + 1 }

end

end Reader

/-- The pattern that a text spells. -/
def parse? (t : Text) : Option Pattern :=
  match (Reader.alternatives (4 * t.length + 4)).run { rest := t } with
  | some (branches, s) =>
    let found := Reader.alternation branches
    if s.rest.isEmpty && found.height ≤ heightLimit && found.value.fits then some found.value
    else none
  | none => none

end Pattern

end ScriptFlow
