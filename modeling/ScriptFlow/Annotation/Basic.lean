import ScriptFlow.Annotation.Comment
import ScriptFlow.Annotation.Property

/-!
# Annotations

An annotation starts at a head, a comment that begins with `put` and carries a
property list.  Prose that happens to begin with `put` is told apart by what it
lacks: a head holds a quote or ends in a backslash, and a head without a
separator after `put` goes on with a key and a colon.

A body that ends in a backslash goes on with the comment of the next line, if
that line is a comment of the same kind.  `Annotations.ofLines` reads every head
of a script, and a faulty annotation never affects those after it.
-/

namespace ScriptFlow

/-- The properties of an annotation and the line of its head, counted from 1. -/
structure Annotation where
  line : Nat
  properties : List Property
  deriving DecidableEq, Repr

/-- An annotation whose body is no property list. -/
structure FaultyAnnotation where
  line : Nat
  error : PropertyError
  deriving DecidableEq, Repr

namespace Annotations

/-- The body of a head; `none` for any other comment. -/
def headBody? (comment : Text) : Option Text :=
  match Text.trimStart comment with
  | 'p' :: 'u' :: 't' :: rest =>
    let (hasSeparator, body) :=
      match rest with
      | '|' :: body => (true, body)
      | ':' :: body => (true, body)
      | c :: _ => (Text.isBlank c, rest)
      | [] => (false, rest)
    let body := Text.trim body
    let hasContent := Text.hasQuote body || Text.endsWith ['\\'] body
    if hasContent && (hasSeparator || Property.startsWithKey body) then some body
    else none
  | _ => none

/-- The body before the backslash that continues it. -/
def continued? (body : Text) : Option Text :=
  (Text.beforeSuffix? ['\\'] (Text.trimEnd body)).map Text.trimEnd

/-- The whole body of a head, given the comments of the lines after it, and the
number of those lines that belong to it. -/
def gather (kind : CommentKind) (body : Text) : List (Option Comment) → Text × Nat
  | [] => ((continued? body).getD body, 0)
  | comment :: rest =>
    match continued? body with
    | none => (body, 0)
    | some start =>
      match comment with
      | none => (start, 0)
      | some next =>
        if next.kind = kind then
          let (whole, used) := gather kind (start ++ [' '] ++ Text.trim next.text) rest
          (whole, used + 1)
        else (start, 0)

/-- Reads the body of a head found on a line. -/
def ofBody (line : Nat) (body : Text) : Except FaultyAnnotation Annotation :=
  match Property.parse body with
  | .ok properties => .ok ⟨line, properties⟩
  | .error error => .error ⟨line, error⟩

/-- The annotations of the comments, of which the first stands on the given line.
The number of comments to skip is that of the lines used up by the last head. -/
def ofCommentsFrom :
    Nat → Nat → List (Option Comment) → List (Except FaultyAnnotation Annotation)
  | _, _, [] => []
  | line, skip + 1, _ :: rest => ofCommentsFrom (line + 1) skip rest
  | line, 0, none :: rest => ofCommentsFrom (line + 1) 0 rest
  | line, 0, some comment :: rest =>
    match headBody? comment.text with
    | none => ofCommentsFrom (line + 1) 0 rest
    | some body =>
      let (whole, used) := gather comment.kind body rest
      ofBody line whole :: ofCommentsFrom (line + 1) used rest

/-- The annotations of a script, in order. -/
def ofLines (marks : CommentMarks) (lines : List Text) :
    List (Except FaultyAnnotation Annotation) :=
  ofCommentsFrom 1 0 (Comment.ofLines marks lines)

/-- The annotation of a single line, if it is a head. -/
def ofLine? (marks : CommentMarks) (line : Text) :
    Option (Except FaultyAnnotation Annotation) :=
  (ofLines marks [line]).head?

end Annotations

end ScriptFlow
