import Mathlib.Data.List.Basic
import ScriptFlow.Annotation.Basic
import ScriptFlow.Proofs.Text.Lines

/-!
# Annotations in block comments

Whether a block comment is open is carried from line to line, and a body is continued by
comments of the same kind.  So once the block comment of a head is closed, the lines
behind it change nothing about this head (`resultAt_ofLines_block`), unless the very
next line opens another block comment: its text has the same kind, and a body that ends
in a backslash goes on there (`resultAt_ofLines_adjoining`).
-/

namespace ScriptFlow

open Text

namespace Comment

/-- Whether a block comment is open after some lines. -/
def isOpenAfter (marks : CommentMarks) (isOpen : Bool) (lines : List Text) : Bool :=
  lines.foldl (fun isOpen line => (ofLine marks isOpen (trimStart line)).2) isOpen

/-- The comments of lines that follow others depend on those by what is open after them. -/
lemma ofLinesFrom_append (marks : CommentMarks) (isOpen : Bool) (before after : List Text) :
    ofLinesFrom marks isOpen (before ++ after) =
      ofLinesFrom marks isOpen before ++
        ofLinesFrom marks (isOpenAfter marks isOpen before) after := by
  induction before generalizing isOpen with
  | nil => rfl
  | cons line rest ih =>
    rw [List.cons_append, ofLinesFrom, ofLinesFrom]
    dsimp only
    rw [ih, List.cons_append]
    rfl

/-- A line that neither lies in a block comment nor opens one is no text of one. -/
lemma kind_ne_block_of_ofLine {marks : CommentMarks} {block : BlockDelimiters}
    (hblock : marks.block = some block) {line : Text} (hline : ¬block.opening <+: line) :
    ∀ comment ∈ (ofLine marks false line).1, comment.kind ≠ .block := by
  intro comment hcomment
  have hopening : block.opening.isPrefixOf? line = none := by
    cases hcut : block.opening.isPrefixOf? line with
    | none => rfl
    | some rest => exact absurd ⟨rest, (isPrefixOf?_eq_some_iff.mp hcut).symm⟩ hline
  rw [ofLine, hblock] at hcomment
  simp only [hopening] at hcomment
  obtain ⟨text, -, rfl⟩ := Option.map_eq_some_iff.mp (Option.mem_def.mp hcomment)
  exact CommentKind.noConfusion

end Comment

namespace Annotations

/-- The line of the head that a result is about. -/
def headLine : Except FaultyAnnotation Annotation → Nat
  | .ok annotation => annotation.line
  | .error faulty => faulty.line

/-- What is reported for a head on a line. -/
def resultAt (line : Nat) (results : List (Except FaultyAnnotation Annotation)) :
    Option (Except FaultyAnnotation Annotation) :=
  results.find? fun result => headLine result == line

/-- A body is reported for the line of its head. -/
lemma headLine_ofBody (line : Nat) (body : Text) : headLine (ofBody line body) = line := by
  unfold ofBody
  split <;> rfl

/-! ## What a body is put together from -/

/-- Whether a body still asks for a continuation when some comments have been gathered. -/
def dangles (kind : CommentKind) (body : Text) : List (Option Comment) → Bool
  | [] => (continued? body).isSome
  | comment :: rest =>
    match continued? body with
    | none => false
    | some start =>
      match comment with
      | none => false
      | some next =>
        next.kind = kind && dangles kind (start ++ [' '] ++ trim next.text) rest

/-- A body that asks for a continuation has taken in all the comments before. -/
lemma length_le_of_dangles {kind : CommentKind} {body : Text} {before : List (Option Comment)}
    (h : dangles kind body before = true) (after : List (Option Comment)) :
    before.length ≤ (gather kind body (before ++ after)).2 := by
  induction before generalizing body with
  | nil => exact Nat.zero_le _
  | cons comment rest ih =>
    rw [dangles] at h
    rw [List.cons_append, gather, List.length_cons]
    cases hcontinued : continued? body with
    | none => simp [hcontinued] at h
    | some start =>
      cases comment with
      | none => simp [hcontinued] at h
      | some next =>
        simp only [hcontinued, Bool.and_eq_true, decide_eq_true_eq] at h
        dsimp only
        rw [if_pos h.1]
        exact Nat.succ_le_succ (ih h.2)

/-- A body depends on what is behind some comments only if it still asks for a
continuation there and finds one of its kind. -/
lemma gather_append {kind : CommentKind} {body : Text} {before after : List (Option Comment)}
    (hafter : dangles kind body before = true →
      ∀ comment, after.head? = some (some comment) → comment.kind ≠ kind) :
    gather kind body (before ++ after) = gather kind body before := by
  induction before generalizing body with
  | nil =>
    rw [List.nil_append]
    cases after with
    | nil => rfl
    | cons comment rest =>
      rw [gather, gather]
      cases hcontinued : continued? body with
      | none => rfl
      | some start =>
        cases comment with
        | none => rfl
        | some next =>
          have hdangles : dangles kind body [] = true := by rw [dangles, hcontinued]; rfl
          exact if_neg (hafter hdangles next rfl)
  | cons comment rest ih =>
    rw [dangles] at hafter
    rw [List.cons_append, gather, gather]
    cases hcontinued : continued? body with
    | none => rfl
    | some start =>
      cases comment with
      | none => rfl
      | some next =>
        dsimp only
        split
        next hkind =>
          have hrest : gather kind (start ++ [' '] ++ trim next.text) (rest ++ after) =
              gather kind (start ++ [' '] ++ trim next.text) rest := by
            refine ih fun hdangles => hafter ?_
            simp only [hcontinued, hkind, decide_true, Bool.true_and, hdangles]
          rw [hrest]
        next => rfl

/-! ## What is reported for a line -/

/-- Results are about the lines of the comments they are read from, those that are skipped
left out. -/
lemma le_headLine_of_mem {line skip : Nat} {comments : List (Option Comment)}
    {result : Except FaultyAnnotation Annotation}
    (h : result ∈ ofCommentsFrom line skip comments) : line + skip ≤ headLine result := by
  induction comments generalizing line skip with
  | nil => simp [ofCommentsFrom] at h
  | cons comment rest ih =>
    have hrest : ∀ skip, result ∈ ofCommentsFrom (line + 1) skip rest →
        line + 1 + skip ≤ headLine result := fun skip h => ih h
    cases skip with
    | succ skip =>
      have hle := hrest skip h
      omega
    | zero =>
      have hlater : ∀ skip, result ∈ ofCommentsFrom (line + 1) skip rest →
          line + 0 ≤ headLine result := by
        intro skip h
        have hle := hrest skip h
        omega
      cases comment with
      | none => exact hlater 0 h
      | some comment =>
        rw [ofCommentsFrom] at h
        split at h
        · exact hlater 0 h
        · rcases List.mem_cons.mp h with rfl | h
          · rw [headLine_ofBody]
            exact Nat.le_refl line
          · exact hlater _ h

/-- Results are about lines that there are. -/
lemma headLine_lt_of_mem {line skip : Nat} {comments : List (Option Comment)}
    {result : Except FaultyAnnotation Annotation}
    (h : result ∈ ofCommentsFrom line skip comments) :
    headLine result < line + comments.length := by
  induction comments generalizing line skip with
  | nil => simp [ofCommentsFrom] at h
  | cons comment rest ih =>
    rw [List.length_cons]
    have hrest : ∀ skip, result ∈ ofCommentsFrom (line + 1) skip rest →
        headLine result < line + (rest.length + 1) := by
      intro skip h
      have hlt := ih h
      omega
    cases skip with
    | succ skip => exact hrest skip h
    | zero =>
      cases comment with
      | none => exact hrest 0 h
      | some comment =>
        rw [ofCommentsFrom] at h
        split at h
        · exact hrest 0 h
        · rcases List.mem_cons.mp h with rfl | h
          · rw [headLine_ofBody]
            omega
          · exact hrest _ h

/-- Results are about different lines, in increasing order. -/
lemma pairwise_headLine (line skip : Nat) (comments : List (Option Comment)) :
    (ofCommentsFrom line skip comments).Pairwise fun a b => headLine a < headLine b := by
  induction comments generalizing line skip with
  | nil => exact .nil
  | cons comment rest ih =>
    cases skip with
    | succ skip => exact ih (line + 1) skip
    | zero =>
      cases comment with
      | none => exact ih (line + 1) 0
      | some comment =>
        rw [ofCommentsFrom]
        split
        · exact ih (line + 1) 0
        · refine List.pairwise_cons.mpr ⟨fun result hresult => ?_, ih (line + 1) _⟩
          have hle := le_headLine_of_mem hresult
          rw [headLine_ofBody]
          omega

/-- At most one result is about a line. -/
lemma eq_of_headLine_eq {marks : CommentMarks} {lines : List Text}
    {a b : Except FaultyAnnotation Annotation} (ha : a ∈ ofLines marks lines)
    (hb : b ∈ ofLines marks lines) (hline : headLine a = headLine b) : a = b := by
  have hsorted := pairwise_headLine 1 0 (Comment.ofLines marks lines)
  obtain ⟨i, hi, rfl⟩ := List.getElem_of_mem ha
  obtain ⟨j, hj, rfl⟩ := List.getElem_of_mem hb
  rcases Nat.lt_trichotomy i j with hlt | rfl | hlt
  · exact absurd hline (Nat.ne_of_lt (List.pairwise_iff_getElem.mp hsorted i j hi hj hlt))
  · rfl
  · exact absurd hline.symm (Nat.ne_of_lt (List.pairwise_iff_getElem.mp hsorted j i hj hi hlt))

/-- What is read from a script is about one of its lines. -/
lemma headLine_le_of_mem_ofLines {marks : CommentMarks} {lines : List Text}
    {result : Except FaultyAnnotation Annotation} (h : result ∈ ofLines marks lines) :
    headLine result ≤ lines.length := by
  have hlt := headLine_lt_of_mem h
  rw [Comment.length_ofLines] at hlt
  omega

/-- Nothing is reported for a line before the comments or for one that is skipped. -/
lemma resultAt_eq_none {line skip k : Nat} (hlt : k < line + skip)
    (comments : List (Option Comment)) :
    resultAt k (ofCommentsFrom line skip comments) = none := by
  refine List.find?_eq_none.mpr fun result hresult hk => ?_
  have hle := le_headLine_of_mem hresult
  rw [beq_iff_eq] at hk
  omega

/-- A head is reported for its own line, and for the other lines those behind what it takes
in. -/
lemma resultAt_ofCommentsFrom_head {comment : Comment} {body : Text}
    (hbody : headBody? comment.text = some body) (line k : Nat) (rest : List (Option Comment)) :
    resultAt k (ofCommentsFrom line 0 (some comment :: rest)) =
      if line = k then some (ofBody line (gather comment.kind body rest).1)
      else resultAt k (ofCommentsFrom (line + 1) (gather comment.kind body rest).2 rest) := by
  rw [ofCommentsFrom, hbody]
  dsimp only
  rw [resultAt, List.find?_cons, headLine_ofBody]
  split
  next h => rw [if_pos (beq_iff_eq.mp h)]
  next h => rw [if_neg (beq_eq_false_iff_ne.mp h), resultAt]

/-- Whether the body of a head still asks for a continuation after the comments behind it. -/
def headDangles (head : Comment) (behind : List (Option Comment)) : Bool :=
  (headBody? head.text).any fun body => dangles head.kind body behind

/-- What is reported for a line does not depend on the comments behind others, unless the
head on this line still asks for a continuation there and finds one of its kind. -/
lemma resultAt_ofCommentsFrom_append {before after : List (Option Comment)} {i : Nat}
    {head : Comment} (hhead : before[i]? = some (some head))
    (hafter : headDangles head (before.drop (i + 1)) = true →
      ∀ comment, after.head? = some (some comment) → comment.kind ≠ head.kind)
    (line skip : Nat) :
    resultAt (line + i) (ofCommentsFrom line skip (before ++ after)) =
      resultAt (line + i) (ofCommentsFrom line skip before) := by
  induction before generalizing line skip i with
  | nil => simp at hhead
  | cons comment rest ih =>
    -- the lines behind this one, when it is not the line asked about or is no head
    have hrest : ∀ skip, resultAt (line + i) (ofCommentsFrom (line + 1) skip (rest ++ after)) =
        resultAt (line + i) (ofCommentsFrom (line + 1) skip rest) := by
      intro skip
      cases i with
      | zero => rw [resultAt_eq_none (by omega), resultAt_eq_none (by omega)]
      | succ i =>
        rw [List.getElem?_cons_succ] at hhead
        rw [show line + (i + 1) = line + 1 + i by omega]
        exact ih hhead hafter (line + 1) skip
    cases skip with
    | succ skip => exact hrest skip
    | zero =>
      cases comment with
      | none => exact hrest 0
      | some comment =>
        rw [List.cons_append]
        cases hbody : headBody? comment.text with
        | none =>
          rw [ofCommentsFrom, ofCommentsFrom, hbody]
          exact hrest 0
        | some body =>
          rw [resultAt_ofCommentsFrom_head hbody, resultAt_ofCommentsFrom_head hbody]
          cases i with
          | zero =>
            obtain rfl := Option.some.inj (Option.some.inj hhead)
            have hgather : gather comment.kind body (rest ++ after) =
                gather comment.kind body rest := by
              refine gather_append fun hdangles => hafter ?_
              rw [headDangles, hbody]
              exact hdangles
            rw [hgather, if_pos (Nat.add_zero line).symm, if_pos (Nat.add_zero line).symm]
          | succ i =>
            rw [if_neg (by omega), if_neg (by omega)]
            cases hdangles : dangles comment.kind body rest with
            | false =>
              rw [gather_append fun h => absurd h (by rw [hdangles]; exact Bool.false_ne_true)]
              exact hrest _
            | true =>
              -- this head takes in the line asked about, with or without what comes behind
              have hlt : i < rest.length :=
                Nat.lt_of_succ_lt_succ (List.getElem?_eq_some_iff.mp hhead).1
              have htaken := length_le_of_dangles hdangles after
              have htaken' := length_le_of_dangles hdangles []
              rw [List.append_nil] at htaken'
              exact (resultAt_eq_none (by omega) _).trans (resultAt_eq_none (by omega) _).symm

/-- What is reported for a head in a block comment depends only on the lines up to the one
that closes it, whatever follows: unless the head still asks for a continuation there, which
a block comment on the very next line would give. -/
theorem resultAt_ofLines_block {marks : CommentMarks} {block : BlockDelimiters}
    (hblock : marks.block = some block) {before after after' : List Text} {i : Nat}
    {head : Comment} (hhead : (Comment.ofLines marks before)[i]? = some (some head))
    (hkind : head.kind = .block) (hclosed : Comment.isOpenAfter marks false before = false)
    (hafter : headDangles head ((Comment.ofLines marks before).drop (i + 1)) = true →
      ∀ line ∈ after.head?, ¬block.opening <+: trimStart line)
    (hafter' : headDangles head ((Comment.ofLines marks before).drop (i + 1)) = true →
      ∀ line ∈ after'.head?, ¬block.opening <+: trimStart line) :
    resultAt (i + 1) (ofLines marks (before ++ after)) =
      resultAt (i + 1) (ofLines marks (before ++ after')) := by
  have hends : ∀ {after : List Text},
      (∀ line ∈ after.head?, ¬block.opening <+: trimStart line) →
        ∀ comment, (Comment.ofLinesFrom marks false after).head? = some (some comment) →
          comment.kind ≠ head.kind := by
    intro after hafter comment hcomment
    cases after with
    | nil => simp [Comment.ofLinesFrom] at hcomment
    | cons line rest =>
      rw [hkind]
      refine Comment.kind_ne_block_of_ofLine hblock (hafter line rfl) comment ?_
      exact Option.some.inj hcomment
  have hread : ∀ {after : List Text},
      (headDangles head ((Comment.ofLines marks before).drop (i + 1)) = true →
        ∀ line ∈ after.head?, ¬block.opening <+: trimStart line) →
        resultAt (i + 1) (ofLines marks (before ++ after)) =
          resultAt (i + 1) (ofLines marks before) := by
    intro after hafter
    rw [ofLines, ofLines, Comment.ofLines, Comment.ofLinesFrom_append, hclosed,
      Nat.add_comm i 1]
    exact resultAt_ofCommentsFrom_append hhead (fun hdangles => hends (hafter hdangles)) 1 0
  rw [hread hafter, hread hafter']

/-- A head that ends in a backslash, in a block comment that is closed on its line. -/
def danglingHead : List Text :=
  ["/* put label:\"a\", \\ */"]

/-- A line comment behind it. -/
def lineCommentBehind : List Text :=
  ["// output:\"b\""]

/-- Another block comment behind it. -/
def blockBehind : List Text :=
  ["/* output:\"b\" */"]

/-- The line comment changes nothing about the head. -/
theorem resultAt_ofLines_block_lineComment :
    (CommentMarks.ofLanguage .c).block = some ⟨"/*", "*/"⟩ ∧
      (Comment.ofLines (.ofLanguage .c) danglingHead)[0]? =
        some (some ⟨.block, "put label:\"a\", \\"⟩) ∧
      Comment.isOpenAfter (.ofLanguage .c) false danglingHead = false ∧
      resultAt 1 (ofLines (.ofLanguage .c) (danglingHead ++ lineCommentBehind)) =
        resultAt 1 (ofLines (.ofLanguage .c) (danglingHead ++ [])) := by
  have hblock : (CommentMarks.ofLanguage .c).block = some ⟨"/*", "*/"⟩ := rfl
  have hhead : (Comment.ofLines (.ofLanguage .c) danglingHead)[0]? =
      some (some ⟨.block, "put label:\"a\", \\"⟩) := by decide
  exact ⟨hblock, hhead, by decide,
    resultAt_ofLines_block hblock hhead rfl (by decide) (by decide) (by decide)⟩

/-- The block comment takes part in the body of the head, although the one of the head is
closed. -/
theorem resultAt_ofLines_adjoining :
    (Comment.ofLines (.ofLanguage .c) danglingHead)[0]? =
        some (some ⟨.block, "put label:\"a\", \\"⟩) ∧
      Comment.isOpenAfter (.ofLanguage .c) false danglingHead = false ∧
      resultAt 1 (ofLines (.ofLanguage .c) (danglingHead ++ [])) =
        some (.ok ⟨1, [⟨"label", "a"⟩]⟩) ∧
      resultAt 1 (ofLines (.ofLanguage .c) (danglingHead ++ blockBehind)) =
        some (.ok ⟨1, [⟨"label", "a"⟩, ⟨"output", "b"⟩]⟩) := by
  decide

end Annotations

end ScriptFlow
