import ScriptFlow.Language

/-!
# Comments

What the lines of a script hold as comment text.  A line is a line comment when
its first characters are the mark of the language's family.  Inside a block
comment every line is comment text up to the closing mark; what follows that
mark on its line is ignored, and so is a block that opens after other text.
-/

namespace ScriptFlow

/-- Whether a comment runs to the end of its line or between two marks. -/
inductive CommentKind where
  | line
  | block
  deriving DecidableEq, Repr

/-- The comment text of one line, without marks. -/
structure Comment where
  kind : CommentKind
  text : Text
  deriving DecidableEq, Repr

/-- The comment marks to look for. -/
structure CommentMarks where
  group : CommentGroup
  block : Option BlockDelimiters := none
  deriving DecidableEq, Repr

namespace CommentMarks

/-- The comment marks of a language. -/
def ofLanguage (language : Language) : CommentMarks where
  group := language.group
  block := language.block

end CommentMarks

namespace Comment

/-- A line of a block comment without the star that may decorate it. -/
def dropStar (t : Text) : Text :=
  match Text.trimStart t with
  | '*' :: rest => Text.trimEnd rest
  | rest => Text.trimEnd rest

/-- Reads block comment text up to the closing mark; the truth value says whether
the block is still open at the end of the line. -/
def inBlock (block : BlockDelimiters) (t : Text) : Option Comment × Bool :=
  match Text.cut? block.closing t with
  | some (before, _) => (some ⟨.block, dropStar before⟩, false)
  | none => (some ⟨.block, dropStar t⟩, true)

/-- Reads a line outside block comments as a line comment. -/
def lineComment? (marks : CommentMarks) (line : Text) : Option Comment :=
  (marks.group.mark.isPrefixOf? line).map fun text => ⟨.line, text⟩

/-- The comment of one line without blanks in front, and whether a block comment
is open after it. -/
def ofLine (marks : CommentMarks) (isOpen : Bool) (line : Text) : Option Comment × Bool :=
  match marks.block with
  | none => (lineComment? marks line, isOpen)
  | some block =>
    if isOpen then inBlock block line
    else
      match block.opening.isPrefixOf? line with
      | some rest => inBlock block rest
      | none => (lineComment? marks line, false)

/-- The comments of the lines, given whether a block comment is open. -/
def ofLinesFrom (marks : CommentMarks) : Bool → List Text → List (Option Comment)
  | _, [] => []
  | isOpen, line :: rest =>
    let (comment, isOpen) := ofLine marks isOpen (Text.trimStart line)
    comment :: ofLinesFrom marks isOpen rest

/-- The comment of every line of a script. -/
def ofLines (marks : CommentMarks) (lines : List Text) : List (Option Comment) :=
  ofLinesFrom marks false lines

@[simp] theorem length_ofLinesFrom (marks : CommentMarks) (isOpen : Bool)
    (lines : List Text) : (ofLinesFrom marks isOpen lines).length = lines.length := by
  induction lines generalizing isOpen with
  | nil => rfl
  | cons line rest ih => simp [ofLinesFrom, ih]

/-- Every line has its comment, or none, at its own position. -/
@[simp] theorem length_ofLines (marks : CommentMarks) (lines : List Text) :
    (ofLines marks lines).length = lines.length :=
  length_ofLinesFrom marks false lines

end Comment

end ScriptFlow
