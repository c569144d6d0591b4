import ScriptFlow.Proofs.Annotation.Blocks
import ScriptFlow.Proofs.Results

/-!
# Heads and what they take in

Reading a script is two loops over the positions of its comments.  The outer one goes from
head to head (`Scans`).  The inner one starts at a head and joins the next comment to the body
as long as the body asks for it (`Joins`); the outer one goes on behind the last comment that
was joined.  Reading comments one by one, with those to skip counted, is a run of these loops
(`joins_gather`, `exists_scans`), so both of them end.

A run leaves no head out: one that is not reported lies within the extent of the nearest head
before it that is (`Scans.exists_nearest`).  Extents lie behind each other
(`Scans.pairwise_extents`), so no comment is read twice.
-/

namespace ScriptFlow

open Text

namespace Annotations

/-! ## The loops -/

/-- The whole body of a head, from its beginning and the position that it has got to, with the
position of the last comment that is joined to it. -/
inductive Joins (comments : List (Option Comment)) (kind : CommentKind) :
    Nat → Text → Text → Nat → Prop
  | done {i : Nat} {body : Text} (hdone : continued? body = none) :
      Joins comments kind i body body i
  | alone {i : Nat} {body start : Text} (hcontinued : continued? body = some start)
      (hnext : ∀ next, comments[i + 1]? = some (some next) → next.kind ≠ kind) :
      Joins comments kind i body start i
  | next {i last : Nat} {body start whole : Text} {next : Comment}
      (hcontinued : continued? body = some start) (hnext : comments[i + 1]? = some (some next))
      (hkind : next.kind = kind)
      (hrest : Joins comments kind (i + 1) (start ++ [' '] ++ trim next.text) whole last) :
      Joins comments kind i body whole last

/-- The positions of the comments that a result is read from. -/
structure Extent where
  /-- The position of the head. -/
  first : Nat
  /-- The position of the last comment that is joined to it. -/
  last : Nat
  deriving DecidableEq, Repr

/-- A result is read from a head and the comments that are joined to it. -/
inductive ReadFrom (comments : List (Option Comment)) :
    Extent → Except FaultyAnnotation Annotation → Prop
  | mk {first last : Nat} {head : Comment} {body whole : Text}
      (hhead : comments[first]? = some (some head)) (hbody : headBody? head.text = some body)
      (hjoins : Joins comments head.kind first body whole last) :
      ReadFrom comments ⟨first, last⟩ (ofBody (first + 1) whole)

/-- What is read from some comments on from a position, with the extent of each result. -/
inductive Scans (comments : List (Option Comment)) :
    Nat → List Extent → List (Except FaultyAnnotation Annotation) → Prop
  | done {i : Nat} (hend : comments.length ≤ i) : Scans comments i [] []
  | pass {i : Nat} {extents : List Extent} {results : List (Except FaultyAnnotation Annotation)}
      (hlt : i < comments.length)
      (hpass : ∀ comment, comments[i]? = some (some comment) → headBody? comment.text = none)
      (hrest : Scans comments (i + 1) extents results) : Scans comments i extents results
  | head {extent : Extent} {result : Except FaultyAnnotation Annotation}
      {extents : List Extent} {results : List (Except FaultyAnnotation Annotation)}
      (hread : ReadFrom comments extent result)
      (hrest : Scans comments (extent.last + 1) extents results) :
      Scans comments extent.first (extent :: extents) (result :: results)

variable {comments : List (Option Comment)} {kind : CommentKind} {i : Nat}

/-- What is left of a list from a position on starts with the entry there. -/
lemma getElem?_of_drop_eq_cons {α : Type} {list rest : List α} {a : α}
    (h : list.drop i = a :: rest) : list[i]? = some a ∧ list.drop (i + 1) = rest := by
  constructor
  · rw [← List.head?_drop, h, List.head?_cons]
  · rw [← List.tail_drop, h, List.tail_cons]

/-- Gathering a body joins comments to it. -/
lemma joins_gather (body : Text) {rest : List (Option Comment)}
    (hrest : comments.drop (i + 1) = rest) :
    Joins comments kind i body (gather kind body rest).1 (i + (gather kind body rest).2) := by
  induction rest generalizing i body with
  | nil =>
    have hend : comments[i + 1]? = none := by rw [← List.head?_drop, hrest, List.head?_nil]
    rw [gather]
    cases hcontinued : continued? body with
    | none => exact .done hcontinued
    | some start =>
      refine .alone hcontinued fun next hnext => ?_
      rw [hend] at hnext
      cases hnext
  | cons comment rest ih =>
    obtain ⟨hcomment, hbehind⟩ := getElem?_of_drop_eq_cons hrest
    rw [gather]
    cases hcontinued : continued? body with
    | none => exact .done hcontinued
    | some start =>
      cases comment with
      | none =>
        refine .alone hcontinued fun next hnext => ?_
        rw [hcomment] at hnext
        cases hnext
      | some other =>
        dsimp only
        split
        next hkind =>
          refine .next hcontinued hcomment hkind ?_
          rw [← Nat.add_assoc, Nat.add_right_comm]
          exact ih _ hbehind
        next hkind =>
          refine .alone hcontinued fun next hnext => ?_
          obtain rfl := Option.some.inj (Option.some.inj (hcomment.symm.trans hnext))
          exact hkind

/-- Reading comments one by one is a run of the loops, which goes on behind those that are
skipped. -/
lemma exists_scans (skip : Nat) {rest : List (Option Comment)} (hrest : comments.drop i = rest) :
    ∃ extents, Scans comments (i + skip) extents (ofCommentsFrom (i + 1) skip rest) := by
  induction rest generalizing i skip with
  | nil =>
    have hend : comments.length ≤ i + skip :=
      Nat.le_add_right_of_le (List.drop_eq_nil_iff.mp hrest)
    exact ⟨[], .done hend⟩
  | cons comment rest ih =>
    obtain ⟨hcomment, hbehind⟩ := getElem?_of_drop_eq_cons hrest
    have hlt : i < comments.length := (List.getElem?_eq_some_iff.mp hcomment).1
    cases skip with
    | succ skip =>
      rw [ofCommentsFrom, ← Nat.add_assoc, Nat.add_right_comm]
      exact ih skip hbehind
    | zero =>
      cases comment with
      | none =>
        obtain ⟨extents, hscans⟩ := ih 0 hbehind
        refine ⟨extents, .pass hlt (fun comment hsome => ?_) hscans⟩
        cases hcomment.symm.trans hsome
      | some head =>
        rw [ofCommentsFrom]
        cases hbody : headBody? head.text with
        | none =>
          obtain ⟨extents, hscans⟩ := ih 0 hbehind
          refine ⟨extents, .pass hlt (fun comment hsome => ?_) hscans⟩
          obtain rfl := Option.some.inj (Option.some.inj (hcomment.symm.trans hsome))
          exact hbody
        | some body =>
          obtain ⟨extents, hscans⟩ := ih (gather head.kind body rest).2 hbehind
          rw [Nat.add_right_comm] at hscans
          exact ⟨_, .head (.mk hcomment hbody (joins_gather body hbehind)) hscans⟩

/-! ## What a run does -/

/-- A body gets no further than the last comment. -/
lemma Joins.bounds {body whole : Text} {last : Nat} (h : Joins comments kind i body whole last)
    (hlt : i < comments.length) : i ≤ last ∧ last < comments.length := by
  induction h with
  | done => exact ⟨Nat.le_refl _, hlt⟩
  | alone => exact ⟨Nat.le_refl _, hlt⟩
  | next _ hnext _ _ ih =>
    obtain ⟨hle, hlast⟩ := ih (List.getElem?_eq_some_iff.mp hnext).1
    exact ⟨Nat.le_of_succ_le hle, hlast⟩

/-- An extent starts at a comment and ends at one. -/
lemma ReadFrom.bounds {extent : Extent} {result : Except FaultyAnnotation Annotation}
    (h : ReadFrom comments extent result) :
    extent.first ≤ extent.last ∧ extent.last < comments.length := by
  cases h with
  | mk hhead _ hjoins => exact hjoins.bounds (List.getElem?_eq_some_iff.mp hhead).1

/-- A result is about the line of its head, counted from 1. -/
lemma ReadFrom.headLine_eq {extent : Extent} {result : Except FaultyAnnotation Annotation}
    (h : ReadFrom comments extent result) : headLine result = extent.first + 1 := by
  cases h with
  | mk => exact headLine_ofBody _ _

namespace Scans

variable {extents : List Extent} {results : List (Except FaultyAnnotation Annotation)}

/-- Every result is read from its extent. -/
lemma forall₂ (h : Scans comments i extents results) :
    List.Forall₂ (ReadFrom comments) extents results := by
  induction h with
  | done => exact .nil
  | pass _ _ _ ih => exact ih
  | head hread _ ih => exact .cons hread ih

/-- A run goes ahead only. -/
lemma le_first (h : Scans comments i extents results) : ∀ extent ∈ extents, i ≤ extent.first := by
  induction h with
  | done => exact fun _ hextent => absurd hextent List.not_mem_nil
  | pass _ _ _ ih => exact fun extent hextent => Nat.le_of_succ_le (ih extent hextent)
  | @head first _ _ _ hread _ ih =>
    refine List.forall_mem_cons.mpr ⟨Nat.le_refl _, fun extent hextent => ?_⟩
    have hle := ih extent hextent
    have hbounds := hread.bounds
    omega

/-- Extents lie behind each other. -/
lemma pairwise_extents (h : Scans comments i extents results) :
    extents.Pairwise fun a b => a.last < b.first := by
  induction h with
  | done => exact .nil
  | pass _ _ _ ih => exact ih
  | head _ hrest ih => exact List.pairwise_cons.mpr ⟨hrest.le_first, ih⟩

/-- Every head lies in an extent, and no other extent starts in between: the outer loop passes
a head only where the inner one has joined it to another. -/
lemma exists_nearest (h : Scans comments i extents results) {k : Nat} (hle : i ≤ k)
    {comment : Comment} (hcomment : comments[k]? = some (some comment))
    (hhead : (headBody? comment.text).isSome) :
    ∃ extent ∈ extents, extent.first ≤ k ∧ k ≤ extent.last ∧
      ∀ other ∈ extents, other.first ≤ k → other.first ≤ extent.first := by
  have hlt : k < comments.length := (List.getElem?_eq_some_iff.mp hcomment).1
  induction h with
  | done hend => omega
  | pass _ hpass _ ih =>
    refine ih (Nat.lt_of_le_of_ne hle ?_)
    rintro rfl
    rw [hpass comment hcomment] at hhead
    cases hhead
  | @head extent _ extents _ hread hrest ih =>
    by_cases hlast : k ≤ extent.last
    · refine ⟨extent, List.mem_cons_self, hle, hlast, ?_⟩
      refine List.forall_mem_cons.mpr ⟨fun _ => Nat.le_refl _, fun other hother hfirst => ?_⟩
      have hbehind := hrest.le_first other hother
      omega
    · obtain ⟨nearest, hnearest, hfirst, hlast, hothers⟩ := ih (Nat.lt_of_not_le hlast)
      refine ⟨nearest, List.mem_cons_of_mem _ hnearest, hfirst, hlast, ?_⟩
      refine List.forall_mem_cons.mpr ⟨fun _ => ?_, hothers⟩
      have hbehind := hrest.le_first nearest hnearest
      have hbounds := hread.bounds
      omega

end Scans

/-! ## The heads of a script -/

/-- What is read from a script accounts for its heads, with an extent for every result. -/
structure AccountsForHeads (marks : CommentMarks) (lines : List Text) (extents : List Extent) :
    Prop where
  /-- The loops over the lines end, and with the results that are reported. -/
  scans : Scans (Comment.ofLines marks lines) 0 extents (ofLines marks lines)
  increasing : ((ofLines marks lines).map headLine).Pairwise (· < ·)
  between : ∀ result ∈ ofLines marks lines,
    1 ≤ headLine result ∧ headLine result ≤ lines.length
  /-- A result is about a line with a head, and its extent starts there. -/
  reads : List.Forall₂
    (fun extent result => headLine result = extent.first + 1 ∧
      ReadFrom (Comment.ofLines marks lines) extent result)
    extents (ofLines marks lines)
  bounded : ∀ extent ∈ extents, extent.first ≤ extent.last ∧ extent.last < lines.length
  /-- No line is in two extents. -/
  separate : extents.Pairwise fun a b => a.last < b.first
  /-- A head is in the extent of the nearest head before it that is reported, or in its own. -/
  covers : ∀ k comment, (Comment.ofLines marks lines)[k]? = some (some comment) →
    (headBody? comment.text).isSome → ∃ extent ∈ extents,
      extent.first ≤ k ∧ k ≤ extent.last ∧
        ∀ other ∈ extents, other.first ≤ k → other.first ≤ extent.first

/-- Every head of a script is accounted for.  The loops over the lines end; what they report is
about heads, in the order of their lines and at most once for each.  Every head is reported, or
it was joined by backslashes to the nearest one before it that is, and no line is part of two
results. -/
theorem accountsForHeads_ofLines (marks : CommentMarks) (lines : List Text) :
    ∃ extents, AccountsForHeads marks lines extents := by
  have hlength : (Comment.ofLines marks lines).length = lines.length :=
    Comment.length_ofLines marks lines
  obtain ⟨extents, hscans⟩ : ∃ extents,
      Scans (Comment.ofLines marks lines) 0 extents (ofLines marks lines) := exists_scans 0 rfl
  have hincreasing := pairwise_headLine 1 0 (Comment.ofLines marks lines)
  exact ⟨extents, {
    scans := hscans
    increasing := List.pairwise_map.mpr hincreasing
    between := fun result hresult =>
      ⟨le_headLine_of_mem hresult, headLine_le_of_mem_ofLines hresult⟩
    reads := hscans.forall₂.imp fun _ _ hread => ⟨hread.headLine_eq, hread⟩
    bounded := fun extent hextent => by
      obtain ⟨result, -, hread⟩ := exists_mem_right_of_forall₂ hscans.forall₂ hextent
      rw [← hlength]
      exact hread.bounds
    separate := hscans.pairwise_extents
    covers := fun k comment hcomment hhead =>
      hscans.exists_nearest (Nat.zero_le k) hcomment hhead }⟩

/-- A head that is joined to the one before it is not reported. -/
example : (ofLines (.ofLanguage .r)
    ["# put label:\"a\", \\", "# put output:\"b\"", "x <- 1", "# put id:\"c\""]).map headLine =
      [1, 4] := by
  decide

end Annotations

end ScriptFlow
