import ScriptFlow.Annotation.Basic
import ScriptFlow.Proofs.Annotation.Spelling

/-!
# What an annotation can hold

The text of a comment is a part of its line, and the body of an annotation is put
together from comments and blanks.  So an annotation read from lines holds no line
ends, and the grammar tells that none of its values holds both quotes: whatever was
read can be written (`isSpellable_of_ofLines`).
-/

namespace ScriptFlow

open Text

/-! ## Comments -/

namespace Comment

/-- Without its star a line is a part of itself. -/
lemma dropStar_subset (t : Text) : dropStar t ⊆ t := by
  intro c hc
  apply trimStart_subset t
  unfold dropStar at hc
  split at hc
  next rest hrest =>
    rw [hrest]
    exact List.mem_cons_of_mem _ (trimEnd_subset rest hc)
  next => exact trimEnd_subset _ hc

/-- The text of a block comment is a part of its line. -/
lemma subset_of_inBlock (block : BlockDelimiters) (t : Text) :
    ∀ comment ∈ (inBlock block t).1, comment.text ⊆ t := by
  intro comment hcomment
  unfold inBlock at hcomment
  split at hcomment
  next before after hcut =>
    obtain rfl := Option.some.inj hcomment
    intro c hc
    rw [eq_append_of_cut? hcut, List.append_assoc]
    exact List.mem_append_left _ (dropStar_subset before hc)
  next =>
    obtain rfl := Option.some.inj hcomment
    exact dropStar_subset t

/-- The text of a line comment is a part of its line. -/
lemma subset_of_lineComment? (marks : CommentMarks) (line : Text) :
    ∀ comment ∈ lineComment? marks line, comment.text ⊆ line := by
  intro comment hcomment
  rw [lineComment?, Option.mem_def, Option.map_eq_some_iff] at hcomment
  obtain ⟨rest, hrest, rfl⟩ := hcomment
  rw [isPrefixOf?_eq_some_iff.mp hrest]
  exact fun c hc => List.mem_append_right _ hc

/-- The text of a comment is a part of its line. -/
lemma subset_of_ofLine (marks : CommentMarks) (isOpen : Bool) (line : Text) :
    ∀ comment ∈ (ofLine marks isOpen line).1, comment.text ⊆ line := by
  unfold ofLine
  split
  · exact subset_of_lineComment? marks line
  next block _ =>
    split
    · exact subset_of_inBlock block line
    · split
      next rest hrest =>
        intro comment hcomment c hc
        rw [isPrefixOf?_eq_some_iff.mp hrest]
        exact List.mem_append_right _ (subset_of_inBlock block rest comment hcomment hc)
      next => exact subset_of_lineComment? marks line

/-- The comments of lines are one line each. -/
lemma isOneLine_of_mem_ofLinesFrom {marks : CommentMarks} {isOpen : Bool} {lines : List Text}
    (h : ∀ line ∈ lines, IsOneLine line) :
    ∀ comment, some comment ∈ ofLinesFrom marks isOpen lines → IsOneLine comment.text := by
  induction lines generalizing isOpen with
  | nil => exact fun comment hcomment => absurd hcomment List.not_mem_nil
  | cons line rest ih =>
    obtain ⟨hline, hrest⟩ := List.forall_mem_cons.mp h
    intro comment hcomment
    rcases List.mem_cons.mp hcomment with hfirst | hcomment
    · have hsubset := subset_of_ofLine marks isOpen (trimStart line) comment hfirst.symm
      exact hline.mono fun c hc => trimStart_subset line (hsubset hc)
    · exact ih hrest comment hcomment

end Comment

/-! ## Bodies -/

namespace Annotations

/-- The body of a head is a part of its comment. -/
lemma subset_of_headBody? {t body : Text} (h : headBody? t = some body) : body ⊆ t := by
  have htrim : ∀ {p : Prop} [Decidable p] {rest : Text},
      (if p then some (trim rest) else none) = some body → body ⊆ rest := by
    intro p _ rest hite
    split at hite
    · obtain rfl := Option.some.inj hite
      exact trim_subset rest
    · cases hite
  intro c hc
  apply trimStart_subset t
  unfold headBody? at h
  split at h
  next rest hrest =>
    rw [hrest]
    refine List.mem_cons_of_mem _ (List.mem_cons_of_mem _ (List.mem_cons_of_mem _ ?_))
    dsimp only at h
    -- a separator is dropped before the body is trimmed
    split at h
    · exact List.mem_cons_of_mem _ (htrim h hc)
    · exact List.mem_cons_of_mem _ (htrim h hc)
    · exact htrim h hc
    · exact htrim h hc
  next => cases h

/-- What a backslash continues is a part of the body. -/
lemma subset_of_continued? {body start : Text} (h : continued? body = some start) :
    start ⊆ body := by
  rw [continued?, Option.map_eq_some_iff] at h
  obtain ⟨before, hbefore, rfl⟩ := h
  intro c hc
  apply trimEnd_subset body
  rw [beforeSuffix?_eq_some_iff.mp hbefore]
  exact List.mem_append_left _ (trimEnd_subset before hc)

/-- Gathering puts no line ends between comments. -/
lemma isOneLine_gather {kind : CommentKind} {body : Text} {comments : List (Option Comment)}
    (hbody : IsOneLine body)
    (h : ∀ comment, some comment ∈ comments → IsOneLine comment.text) :
    IsOneLine (gather kind body comments).1 := by
  have hblank : IsOneLine [' '] := ⟨by decide, by decide⟩
  induction comments generalizing body with
  | nil =>
    rw [gather]
    cases hcontinued : continued? body with
    | none => exact hbody
    | some start => exact hbody.mono (subset_of_continued? hcontinued)
  | cons comment rest ih =>
    have hrest : ∀ comment, some comment ∈ rest → IsOneLine comment.text :=
      fun comment hcomment => h comment (List.mem_cons_of_mem _ hcomment)
    cases hcontinued : continued? body with
    | none =>
      rw [gather, hcontinued]
      exact hbody
    | some start =>
      have hstart : IsOneLine start := hbody.mono (subset_of_continued? hcontinued)
      cases comment with
      | none =>
        rw [gather, hcontinued]
        exact hstart
      | some next =>
        have hnext : IsOneLine (trim next.text) :=
          (h next List.mem_cons_self).mono (trim_subset next.text)
        simp only [gather, hcontinued]
        split
        · exact ih ((hstart.append hblank).append hnext) hrest
        · exact hstart

/-- Everything that is read among comments is read at a head, from its body and the comments
behind it. -/
lemma exists_head_of_mem_ofCommentsFrom {line skip : Nat} {comments : List (Option Comment)}
    {reading : Except FaultyAnnotation Annotation}
    (h : reading ∈ ofCommentsFrom line skip comments) :
    ∃ before head after body, comments = before ++ some head :: after ∧
      headBody? head.text = some body ∧
        reading = ofBody (line + before.length) (gather head.kind body after).1 := by
  induction comments generalizing line skip with
  | nil => simp [ofCommentsFrom] at h
  | cons comment rest ih =>
    have hrest : ∀ {skip}, reading ∈ ofCommentsFrom (line + 1) skip rest →
        ∃ before head after body, comment :: rest = before ++ some head :: after ∧
          headBody? head.text = some body ∧
            reading = ofBody (line + before.length) (gather head.kind body after).1 := by
      intro skip hreading
      obtain ⟨before, head, after, body, rfl, hhead, rfl⟩ := ih hreading
      refine ⟨comment :: before, head, after, body, rfl, hhead, ?_⟩
      rw [List.length_cons, Nat.add_right_comm, Nat.add_assoc]
    cases skip with
    | succ skip => exact hrest h
    | zero =>
      cases comment with
      | none => exact hrest h
      | some head =>
        rw [ofCommentsFrom] at h
        split at h
        · exact hrest h
        next body hhead =>
          rcases List.mem_cons.mp h with rfl | h
          · exact ⟨[], head, rest, body, rfl, hhead, rfl⟩
          · exact hrest h

/-- Everything that is read among comments comes from a body without line ends. -/
lemma exists_body_of_mem_ofCommentsFrom {line skip : Nat} {comments : List (Option Comment)}
    (h : ∀ comment, some comment ∈ comments → IsOneLine comment.text)
    {reading : Except FaultyAnnotation Annotation}
    (hreading : reading ∈ ofCommentsFrom line skip comments) :
    ∃ head body, IsOneLine body ∧ reading = ofBody head body := by
  obtain ⟨before, head, after, body, rfl, hhead, rfl⟩ :=
    exists_head_of_mem_ofCommentsFrom hreading
  have hbody : IsOneLine body := by
    have hline := h head (List.mem_append_right _ List.mem_cons_self)
    exact hline.mono (subset_of_headBody? hhead)
  refine ⟨_, _, isOneLine_gather hbody fun comment hcomment => ?_, rfl⟩
  exact h comment (List.mem_append_right _ (List.mem_cons_of_mem _ hcomment))

/-- A well-formed annotation holds the properties of a body. -/
lemma exists_parse_of_mem_ofLines {marks : CommentMarks} {lines : List Text} {found : Annotation}
    (h : .ok found ∈ ofLines marks lines) :
    ∃ body, Property.parse body = .ok found.properties := by
  obtain ⟨before, head, after, body, -, -, heq⟩ := exists_head_of_mem_ofCommentsFrom h
  rw [ofBody] at heq
  split at heq
  next properties hparse =>
    obtain rfl := Except.ok.inj heq
    exact ⟨_, hparse⟩
  next => cases heq

end Annotations

/-! ## Properties -/

namespace Property

/-- A value that is spelled on one line can stand in quotes. -/
lemma SpellsValue.isQuotable {spelled value : Text} (h : SpellsValue spelled value)
    (hline : IsOneLine spelled) : IsQuotable value := by
  cases h with
  | double hquote =>
    exact ⟨hline.mono fun c hc => List.mem_append_left _ (List.mem_cons_of_mem _ hc),
      .inl hquote⟩
  | single hquote =>
    exact ⟨hline.mono fun c hc => List.mem_append_left _ (List.mem_cons_of_mem _ hc),
      .inr hquote⟩
  | bare hdouble _ _ _ => exact ⟨hline, .inl hdouble⟩

/-- A property that is spelled on one line has a spelling. -/
lemma Spells.isSpellable {segment : Text} {p : Property} (h : Spells segment p)
    (hline : IsOneLine segment) : p.IsSpellable := by
  cases h with
  | @intro a b c d key spelled value ha hb hc hd hkey hvalue =>
    refine ⟨hkey, hvalue.isQuotable (hline.mono fun e he => ?_)⟩
    simp [he]

/-- Properties that are spelled on lines have spellings. -/
lemma SpellsList.isSpellable {segments : List Text} {properties : List Property}
    (h : SpellsList segments properties) (hline : ∀ s ∈ segments, IsOneLine s) :
    ∀ p ∈ properties, p.IsSpellable := by
  induction h with
  | nil => simp
  | blank _ _ ih => exact ih fun s hs => hline s (List.mem_cons_of_mem _ hs)
  | property hspells _ ih =>
    exact List.forall_mem_cons.mpr ⟨hspells.isSpellable (hline _ List.mem_cons_self),
      ih fun s hs => hline s (List.mem_cons_of_mem _ hs)⟩

/-- Segments that are not all blank spell some property. -/
lemma SpellsList.ne_nil {segments : List Text} {properties : List Property}
    (h : SpellsList segments properties) (hsome : ∃ s ∈ segments, ¬IsBlankText s) :
    properties ≠ [] := by
  obtain ⟨s, hs, hnot⟩ := hsome
  induction h with
  | nil => simp at hs
  | blank hblank _ ih =>
    rcases List.mem_cons.mp hs with rfl | hs
    · exact absurd hblank hnot
    · exact ih hs
  | property _ _ _ => exact List.cons_ne_nil _ _

/-- The keys of properties that are spelled are identifiers. -/
lemma SpellsList.isIdentifier {segments : List Text} {properties : List Property}
    (h : SpellsList segments properties) : ∀ p ∈ properties, Text.isIdentifier p.key = true := by
  induction h with
  | nil => exact fun p hp => absurd hp List.not_mem_nil
  | blank _ _ ih => exact ih
  | property hspells _ ih =>
    refine List.forall_mem_cons.mpr ⟨?_, ih⟩
    cases hspells with
    | intro _ _ _ _ hkey _ => exact hkey

/-- The keys of the properties of a body are identifiers. -/
lemma isIdentifier_of_parse {body : Text} {properties : List Property}
    (h : parse body = .ok properties) : ∀ p ∈ properties, Text.isIdentifier p.key = true := by
  obtain ⟨segments, -, hspells, -⟩ := exists_spellsList_of_parse h
  exact hspells.isIdentifier

/-- The properties of a body without line ends can be written. -/
theorem isSpellable_of_parse {body : Text} {properties : List Property}
    (h : parse body = .ok properties) (hline : IsOneLine body) :
    properties ≠ [] ∧ ∀ p ∈ properties, p.IsSpellable := by
  obtain ⟨segments, rfl, hspells, hsome⟩ := exists_spellsList_of_parse h
  exact ⟨hspells.ne_nil hsome, hspells.isSpellable fun s hs => hline.mono (subset_join _ hs)⟩

end Property

namespace Annotations

/-- The properties of every annotation that is read from lines can be written. -/
theorem isSpellable_of_ofLines {marks : CommentMarks} {lines : List Text}
    (h : ∀ line ∈ lines, IsOneLine line) {found : Annotation}
    (hfound : .ok found ∈ ofLines marks lines) :
    found.properties ≠ [] ∧ ∀ p ∈ found.properties, p.IsSpellable := by
  obtain ⟨head, body, hbody, heq⟩ :=
    exists_body_of_mem_ofCommentsFrom (Comment.isOneLine_of_mem_ofLinesFrom h) hfound
  rw [ofBody] at heq
  split at heq
  next properties hparse =>
    obtain rfl := Except.ok.inj heq
    exact Property.isSpellable_of_parse hparse hbody
  next => cases heq

end Annotations

end ScriptFlow
