import ScriptFlow.Proofs.Annotation.Blocks

/-!
# Lines of code between annotations

A line of code is neither a line comment nor the start of a block comment.  Where no block
comment is open it ends whatever stands before it: a body that still asks for a continuation
finds no comment there (`gather_append_none`).  What stands behind it is read as if it were a
script of its own, only further down (`ofCommentsFrom_add`).

So a script is read part by part (`ofLines_append_codeLine`): whatever is wrong with an
annotation, it does not reach beyond the next line of code.
-/

namespace ScriptFlow

open Text

namespace CommentMarks

/-- A line that holds no comment and opens none, unless a block comment is open. -/
structure IsCodeLine (marks : CommentMarks) (line : Text) : Prop where
  noMark : ¬marks.group.mark <+: trimStart line
  noOpening : ∀ block ∈ marks.block, ¬block.opening <+: trimStart line

end CommentMarks

namespace Comment

/-- A line of code has no comment and leaves block comments closed. -/
lemma ofLine_of_isCodeLine {marks : CommentMarks} {line : Text} (h : marks.IsCodeLine line) :
    ofLine marks false (trimStart line) = (none, false) := by
  have hmark : lineComment? marks (trimStart line) = none := by
    rw [lineComment?, isPrefixOf?_eq_none_iff.mpr h.noMark, Option.map_none]
  rw [ofLine, hmark]
  split
  · rfl
  next block hblock =>
    rw [isPrefixOf?_eq_none_iff.mpr (h.noOpening block hblock)]
    rfl

/-- Behind a line of code the comments are those of a script of its own. -/
lemma ofLines_append_cons {marks : CommentMarks} {code : Text} (hcode : marks.IsCodeLine code)
    {before : List Text} (hclosed : isOpenAfter marks false before = false) (after : List Text) :
    ofLines marks (before ++ code :: after) =
      ofLines marks before ++ none :: ofLines marks after := by
  rw [ofLines, ofLinesFrom_append, hclosed, ofLinesFrom, ofLine_of_isCodeLine hcode]
  rfl

end Comment

namespace Annotations

/-! ## Scripts further down -/

/-- The same result about a line that stands some lines further down. -/
def moveDown (n : Nat) : Except FaultyAnnotation Annotation → Except FaultyAnnotation Annotation
  | .ok found => .ok { found with line := found.line + n }
  | .error fault => .error { fault with line := fault.line + n }

/-- What a body is read as does not depend on its line. -/
lemma ofBody_add (line n : Nat) (body : Text) :
    ofBody (line + n) body = moveDown n (ofBody line body) := by
  rw [ofBody, ofBody]
  cases Property.parse body <;> rfl

/-- What comments are read as does not depend on the line of the first one. -/
lemma ofCommentsFrom_add (line n skip : Nat) (comments : List (Option Comment)) :
    ofCommentsFrom (line + n) skip comments =
      (ofCommentsFrom line skip comments).map (moveDown n) := by
  induction comments generalizing line skip with
  | nil => rfl
  | cons comment rest ih =>
    have hrest : ∀ skip, ofCommentsFrom (line + n + 1) skip rest =
        (ofCommentsFrom (line + 1) skip rest).map (moveDown n) := by
      intro skip
      rw [Nat.add_right_comm]
      exact ih (line + 1) skip
    cases skip with
    | succ skip => exact hrest skip
    | zero =>
      cases comment with
      | none => exact hrest 0
      | some comment =>
        rw [ofCommentsFrom, ofCommentsFrom]
        cases headBody? comment.text with
        | none => exact hrest 0
        | some body =>
          dsimp only
          rw [hrest, ofBody_add, List.map_cons]

/-! ## Where a body ends -/

/-- A body takes in no more comments than there are. -/
lemma gather_le_length (kind : CommentKind) (body : Text) (comments : List (Option Comment)) :
    (gather kind body comments).2 ≤ comments.length := by
  induction comments generalizing body with
  | nil => exact Nat.zero_le _
  | cons comment rest ih =>
    rw [gather, List.length_cons]
    cases continued? body with
    | none => exact Nat.zero_le _
    | some start =>
      cases comment with
      | none => exact Nat.zero_le _
      | some next =>
        dsimp only
        split
        · exact Nat.succ_le_succ (ih _)
        · exact Nat.zero_le _

/-- A line without a comment ends a body, also one that asks for a continuation. -/
lemma gather_append_none (kind : CommentKind) (body : Text) (before after : List (Option Comment)) :
    gather kind body (before ++ none :: after) = gather kind body before := by
  refine gather_append fun _ comment hcomment => ?_
  cases hcomment

/-- Comments are read apart from those behind a line without a comment. -/
lemma ofCommentsFrom_append_none {line skip : Nat} {before : List (Option Comment)}
    (hskip : skip ≤ before.length) (after : List (Option Comment)) :
    ofCommentsFrom line skip (before ++ none :: after) =
      ofCommentsFrom line skip before ++ ofCommentsFrom (line + (before.length + 1)) 0 after := by
  induction before generalizing line skip with
  | nil =>
    obtain rfl : skip = 0 := Nat.le_zero.mp hskip
    rfl
  | cons comment rest ih =>
    have hrest : ∀ skip ≤ rest.length, ofCommentsFrom (line + 1) skip (rest ++ none :: after) =
        ofCommentsFrom (line + 1) skip rest ++
          ofCommentsFrom (line + ((comment :: rest).length + 1)) 0 after := by
      intro skip hskip
      rw [ih hskip, List.length_cons, Nat.add_assoc line, Nat.add_comm 1]
    rw [List.cons_append]
    cases skip with
    | succ skip => exact hrest skip (Nat.le_of_succ_le_succ hskip)
    | zero =>
      cases comment with
      | none => exact hrest 0 (Nat.zero_le _)
      | some comment =>
        rw [ofCommentsFrom, ofCommentsFrom]
        cases headBody? comment.text with
        | none => exact hrest 0 (Nat.zero_le _)
        | some body =>
          -- what the head takes in lies in front of the line without a comment
          dsimp only
          rw [gather_append_none, hrest _ (gather_le_length _ _ _), List.cons_append]

/-! ## Scripts around a line of code -/

/-- A script is read in two parts at a line of code: what stands before, if no block comment is
open there, and what stands behind, as a script of its own further down. -/
theorem ofLines_append_codeLine {marks : CommentMarks} {code : Text}
    (hcode : marks.IsCodeLine code) {before : List Text}
    (hclosed : Comment.isOpenAfter marks false before = false) (after : List Text) :
    ofLines marks (before ++ code :: after) =
      ofLines marks before ++ (ofLines marks after).map (moveDown (before.length + 1)) := by
  rw [ofLines, Comment.ofLines_append_cons hcode hclosed,
    ofCommentsFrom_append_none (Nat.zero_le _), Comment.length_ofLines, ofCommentsFrom_add]
  rfl

/-- A quote that stays open in a block comment, and a head that asks for a continuation. -/
def unfinishedHeads : List Text :=
  ["/* put label:\"a */", "// put label:\"b\", \\"]

/-- Code with a head behind it, which is no line comment. -/
def codeWithHead : Text :=
  "  x = 1; // put label:\"c\""

/-- A line that would continue the head before the code, and another head. -/
def linesBehindCode : List Text :=
  ["// output:\"d\"", "// put label:\"e\""]

theorem ofLines_append_codeLine_unfinished :
    (CommentMarks.ofLanguage .c).IsCodeLine codeWithHead ∧
      Comment.isOpenAfter (.ofLanguage .c) false unfinishedHeads = false ∧
      ofLines (.ofLanguage .c) (unfinishedHeads ++ codeWithHead :: linesBehindCode) =
        [.error ⟨1, .unterminatedQuote '"' 7⟩, .ok ⟨2, [⟨"label", "b"⟩]⟩,
          .ok ⟨5, [⟨"label", "e"⟩]⟩] := by
  have hcode : (CommentMarks.ofLanguage .c).IsCodeLine codeWithHead := ⟨by decide, by decide⟩
  have hclosed : Comment.isOpenAfter (.ofLanguage .c) false unfinishedHeads = false := by decide
  refine ⟨hcode, hclosed, ?_⟩
  rw [ofLines_append_codeLine hcode hclosed]
  decide

end Annotations

end ScriptFlow
