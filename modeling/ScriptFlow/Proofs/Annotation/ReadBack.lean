import ScriptFlow.Annotation.Basic
import ScriptFlow.Proofs.Annotation.Spelling

/-!
# Reading what was written

A written annotation is a head and, if there is one property a line, the lines
that continue it.  All of them are line comments, of which this file keeps what
stands behind the mark (`lineTails`).  A head is recognized by its quotes, each
backslash takes in the next line, and the last line ends in a quote, so that
gathering stops exactly at the end of the annotation (`gather_continuationTails`).

Hence annotations that follow each other do not mix: whatever stands after a
written annotation is read as if it stood alone (`ofCommentsFrom_lineTails`).
-/

namespace ScriptFlow

open Text

/-! ## The lines of an annotation -/

namespace Property

/-- What stands behind the marks of continuation lines. -/
def continuationTails : List Text → List Text
  | [] => []
  | [spelled] => ["    " ++ spelled]
  | spelled :: rest => ("    " ++ spelled ++ ", \\") :: continuationTails rest

/-- What stands behind the marks of the lines of an annotation. -/
def lineTails (layout : AnnotationLayout) (spelled : List Text) : List Text :=
  match layout, spelled with
  | .multiline, first :: second :: rest =>
    (" put " ++ first ++ ", \\") :: continuationTails (second :: rest)
  | _, spelled => [" put " ++ join ", " spelled]

lemma continuationTails_cons_cons (s next : Text) (rest : List Text) :
    continuationTails (s :: next :: rest) =
      ("    " ++ s ++ ", \\") :: continuationTails (next :: rest) := rfl

lemma continuationLines_eq (mark : Text) (spelled : List Text) :
    continuationLines mark spelled = (continuationTails spelled).map (mark ++ ·) := by
  induction spelled with
  | nil => rfl
  | cons s rest ih =>
    cases rest with
    | nil => simp [continuationLines, continuationTails]
    | cons next rest => simp [continuationLines, continuationTails, ih]

/-- An annotation is its lines, each behind the mark. -/
lemma layOut_eq_join (mark : Text) (layout : AnnotationLayout) (spelled : List Text) :
    layOut mark layout spelled = join ['\n'] ((lineTails layout spelled).map (mark ++ ·)) := by
  unfold layOut lineTails
  split
  · rw [List.map_cons, continuationLines_eq]
    simp only [List.append_assoc]
  · simp [join, List.intercalate_singleton]

lemma lineTails_ne_nil (layout : AnnotationLayout) (spelled : List Text) :
    lineTails layout spelled ≠ [] := by
  unfold lineTails
  split <;> simp

/-- A blank follows the mark of a continuation line. -/
lemma exists_cons_of_mem_continuationTails {spelled : List Text} {tail : Text}
    (h : tail ∈ continuationTails spelled) : ∃ rest, tail = ' ' :: rest := by
  induction spelled with
  | nil => simp [continuationTails] at h
  | cons s rest ih =>
    cases rest with
    | nil =>
      rw [continuationTails, List.mem_singleton] at h
      exact ⟨_, h⟩
    | cons next rest =>
      rw [continuationTails_cons_cons] at h
      rcases List.mem_cons.mp h with rfl | h
      · exact ⟨_, rfl⟩
      · exact ih h

/-- A blank follows the mark of every line of an annotation. -/
lemma exists_cons_of_mem_lineTails {layout : AnnotationLayout} {spelled : List Text} {tail : Text}
    (h : tail ∈ lineTails layout spelled) : ∃ rest, tail = ' ' :: rest := by
  unfold lineTails at h
  split at h
  · rcases List.mem_cons.mp h with rfl | h
    · exact ⟨_, rfl⟩
    · exact exists_cons_of_mem_continuationTails h
  · rw [List.mem_singleton] at h
    exact ⟨_, h⟩

/-- Continuation lines are lines. -/
lemma isOneLine_of_mem_continuationTails {spelled : List Text} (hs : ∀ s ∈ spelled, IsOneLine s)
    {tail : Text} (h : tail ∈ continuationTails spelled) : IsOneLine tail := by
  have hindent : IsOneLine "    " := ⟨by decide, by decide⟩
  have hend : IsOneLine ", \\" := ⟨by decide, by decide⟩
  induction spelled with
  | nil => simp [continuationTails] at h
  | cons s rest ih =>
    obtain ⟨hfirst, hrest⟩ := List.forall_mem_cons.mp hs
    cases rest with
    | nil =>
      rw [continuationTails, List.mem_singleton] at h
      exact h ▸ hindent.append hfirst
    | cons next rest =>
      rw [continuationTails_cons_cons] at h
      rcases List.mem_cons.mp h with rfl | h
      · exact (hindent.append hfirst).append hend
      · exact ih hrest h

/-- The lines of an annotation are lines. -/
lemma isOneLine_of_mem_lineTails {layout : AnnotationLayout} {spelled : List Text}
    (hs : ∀ s ∈ spelled, IsOneLine s) {tail : Text} (h : tail ∈ lineTails layout spelled) :
    IsOneLine tail := by
  have hput : IsOneLine " put " := ⟨by decide, by decide⟩
  have hcomma : IsOneLine ", " := ⟨by decide, by decide⟩
  have hend : IsOneLine ", \\" := ⟨by decide, by decide⟩
  unfold lineTails at h
  split at h
  · obtain ⟨hfirst, hrest⟩ := List.forall_mem_cons.mp hs
    rcases List.mem_cons.mp h with rfl | h
    · exact (hput.append hfirst).append hend
    · exact isOneLine_of_mem_continuationTails hrest h
  · rw [List.mem_singleton] at h
    exact h ▸ hput.append (isOneLine_join hcomma hs)

end Property

/-! ## Marked lines as comments -/

namespace CommentMarks

/-- Marks for which a line that starts with the mark of the family and a blank is a
line comment outside every block. -/
def ReadsLines (marks : CommentMarks) : Prop :=
  ∀ rest, Comment.ofLine marks false (marks.group.mark ++ ' ' :: rest) =
    (some ⟨.line, ' ' :: rest⟩, false)

/-- Without block comments every marked line is a line comment. -/
lemma readsLines_of_group (group : CommentGroup) : ReadsLines { group } := by
  intro rest
  cases group <;> rfl

/-- No language opens a block comment with the mark of its lines and a blank. -/
lemma readsLines_ofLanguage (language : Language) : ReadsLines (ofLanguage language) := by
  intro rest
  cases language <;> rfl

end CommentMarks

namespace Comment

/-- A mark is no blank. -/
lemma trimStart_mark_append (group : CommentGroup) (t : Text) :
    trimStart (group.mark ++ t) = group.mark ++ t := by
  cases group <;> rfl

/-- Marked lines are line comments, and what follows them is read as it is. -/
lemma ofLinesFrom_marked {marks : CommentMarks} (hmarks : marks.ReadsLines) {tails : List Text}
    (htails : ∀ tail ∈ tails, ∃ rest, tail = ' ' :: rest) (rest : List Text) :
    ofLinesFrom marks false (tails.map (marks.group.mark ++ ·) ++ rest) =
      (tails.map fun tail => some ⟨.line, tail⟩) ++ ofLinesFrom marks false rest := by
  induction tails with
  | nil => rfl
  | cons tail tails ih =>
    obtain ⟨hfirst, hrest⟩ := List.forall_mem_cons.mp htails
    obtain ⟨r, rfl⟩ := hfirst
    rw [List.map_cons, List.cons_append, ofLinesFrom, trimStart_mark_append, hmarks r]
    simp only [ih hrest, List.map_cons, List.cons_append]

end Comment

/-! ## Heads and continuations -/

namespace Annotations

/-- A text whose last character is a quote. -/
def EndsInQuote (t : Text) : Prop :=
  ∃ q, t.getLast? = some q ∧ Property.isQuote q = true

/-- What stands in front does not matter for how a text ends. -/
lemma EndsInQuote.append_left {t : Text} (h : EndsInQuote t) (s : Text) :
    EndsInQuote (s ++ t) := by
  obtain ⟨q, hlast, hq⟩ := h
  refine ⟨q, ?_, hq⟩
  rw [List.getLast?_append, hlast, Option.some_or]

lemma EndsInQuote.ne_nil {t : Text} (h : EndsInQuote t) : t ≠ [] := by
  obtain ⟨q, hlast, -⟩ := h
  exact List.ne_nil_of_mem (List.mem_of_getLast? hlast)

/-- A text that ends in a quote has a quote. -/
lemma EndsInQuote.hasQuote {t : Text} (h : EndsInQuote t) : hasQuote t = true := by
  obtain ⟨q, hlast, hq⟩ := h
  exact List.any_eq_true.mpr ⟨q, List.mem_of_getLast? hlast, hq⟩

/-- A text that ends in a quote has no blanks at its end. -/
lemma EndsInQuote.trimEnd_eq {t : Text} (h : EndsInQuote t) : trimEnd t = t := by
  obtain ⟨q, hlast, hq⟩ := h
  refine trimEnd_eq_self fun c hc => ?_
  rw [hlast, Option.mem_some_iff] at hc
  subst hc
  cases hblank : isBlank q with
  | false => rfl
  | true =>
    rw [Property.isQuote_eq_false_of_isBlank hblank] at hq
    exact Bool.noConfusion hq

/-- A text that ends in no backslash, blanks left out, is not continued. -/
lemma continued?_eq_none {t : Text} (h : (trimEnd t).getLast? ≠ some '\\') :
    continued? t = none := by
  rw [continued?, beforeSuffix?_singleton_eq_none h, Option.map_none]

/-- A text that ends in a quote is not continued. -/
lemma EndsInQuote.continued?_eq_none {t : Text} (h : EndsInQuote t) : continued? t = none := by
  apply Annotations.continued?_eq_none
  rw [h.trimEnd_eq]
  obtain ⟨q, hlast, hq⟩ := h
  rw [hlast]
  intro heq
  rw [Option.some.inj heq] at hq
  exact absurd hq (by decide)

/-- What stands behind `put` and a blank is a body if it holds a quote or asks for a
continuation. -/
lemma headBody?_put_eq (rest : Text) :
    headBody? (" put " ++ rest) =
      if hasQuote (trim rest) || endsWith ['\\'] (trim rest) then some (trim rest) else none := by
  have hrest : trim (' ' :: rest) = trim rest := trim_append_left (isBlankText_replicate 1) rest
  have hunfold : headBody? (" put " ++ rest) =
      if (hasQuote (trim (' ' :: rest)) || endsWith ['\\'] (trim (' ' :: rest))) &&
          (isBlank ' ' || Property.startsWithKey (trim (' ' :: rest)))
      then some (trim (' ' :: rest)) else none := rfl
  have hsep : isBlank ' ' = true := rfl
  rw [hunfold, hrest, hsep, Bool.true_or, Bool.and_true]

/-- A body behind `put` and a blank is recognized by a quote in it. -/
lemma headBody?_put {body : Text} (htrim : IsTrimmed body) (hquote : hasQuote body = true) :
    headBody? (" put " ++ body) = some body := by
  rw [headBody?_put_eq, htrim.trim_eq, hquote, Bool.true_or, if_pos rfl]

/-- What stands before a backslash is continued. -/
lemma continued?_concat (front : Text) : continued? (front ++ ['\\']) = some (trimEnd front) := by
  have hlast : ∀ c ∈ (front ++ ['\\']).getLast?, isBlank c = false := by
    intro c hc
    rw [List.getLast?_concat, Option.mem_some_iff] at hc
    exact hc ▸ rfl
  rw [continued?, trimEnd_eq_self hlast, beforeSuffix?_eq_some_iff.mpr rfl, Option.map_some]

/-- A body that ends in a comma and a backslash is continued after the comma. -/
lemma continued?_comma_backslash (front : Text) :
    continued? (front ++ ", \\") = some (front ++ [',']) := by
  have hsplit : front ++ ", \\" = front ++ ", " ++ ['\\'] := by simp
  have hcomma : trimEnd (front ++ ", ") = front ++ [','] :=
    trimEnd_append_of_not_blank front fun h => absurd (h ',' (by decide)) (by decide)
  rw [hsplit, continued?_concat, hcomma]

/-- Gathering takes nothing in after a body that is not continued. -/
lemma gather_of_continued?_eq_none {kind : CommentKind} {body : Text}
    (h : continued? body = none) (comments : List (Option Comment)) :
    gather kind body comments = (body, 0) := by
  cases comments with
  | nil => rw [gather, h, Option.getD_none]
  | cons comment rest => rw [gather, h]

/-- Gathering takes in the next comment of the same kind after a backslash. -/
lemma gather_of_continued? {kind : CommentKind} {body start : Text}
    (h : continued? body = some start) (text : Text) (rest : List (Option Comment)) :
    gather kind body (some ⟨kind, text⟩ :: rest) =
      ((gather kind (start ++ [' '] ++ trim text) rest).1,
        (gather kind (start ++ [' '] ++ trim text) rest).2 + 1) := by
  rw [gather, h]
  simp

/-- Gathering takes in all the continuation lines and nothing after them. -/
lemma gather_continuationTails {spelled : List Text}
    (h : ∀ s ∈ spelled, IsTrimmed s ∧ EndsInQuote s) (hne : spelled ≠ []) (front : Text)
    (rest : List (Option Comment)) :
    gather .line (front ++ ", \\")
        ((Property.continuationTails spelled).map (fun tail => some ⟨.line, tail⟩) ++ rest) =
      (front ++ ", " ++ join ", " spelled, (Property.continuationTails spelled).length) := by
  induction spelled generalizing front with
  | nil => exact absurd rfl hne
  | cons s others ih =>
    obtain ⟨⟨htrim, hquote⟩, hothers⟩ := List.forall_mem_cons.mp h
    have hindent : IsBlankText "    " := isBlankText_replicate 4
    cases others with
    | nil =>
      have htext : trim ("    " ++ s) = s := by rw [trim_append_left hindent, htrim.trim_eq]
      have hbody : front ++ [','] ++ [' '] ++ s = front ++ ", " ++ s := by simp
      rw [Property.continuationTails, List.map_singleton, List.singleton_append,
        gather_of_continued? (continued?_comma_backslash front), htext, hbody,
        gather_of_continued?_eq_none (hquote.append_left _).continued?_eq_none, join,
        List.intercalate_singleton]
      rfl
    | cons next others =>
      have hends : IsTrimmed (s ++ ", " ++ ['\\']) :=
        isTrimmed_of_ends htrim hquote.ne_nil (isTrimmed_of_trim_eq rfl) (by simp) ", "
      have htext : trim ("    " ++ s ++ ", \\") = s ++ ", \\" := by
        rw [List.append_assoc, trim_append_left hindent]
        simpa using hends.trim_eq
      have hbody : front ++ [','] ++ [' '] ++ (s ++ ", \\") = front ++ ", " ++ s ++ ", \\" := by
        simp
      rw [Property.continuationTails_cons_cons, List.map_cons, List.cons_append,
        gather_of_continued? (continued?_comma_backslash front), htext, hbody,
        ih hothers (List.cons_ne_nil next others), List.length_cons,
        join_cons_of_ne_nil _ s (List.cons_ne_nil next others)]
      simp only [List.append_assoc]

/-- Texts that end in quotes still do when they are joined. -/
lemma endsInQuote_join (separator : Text) {spelled : List Text} (hne : spelled ≠ [])
    (h : ∀ s ∈ spelled, EndsInQuote s) : EndsInQuote (join separator spelled) := by
  induction spelled with
  | nil => exact absurd rfl hne
  | cons s others ih =>
    obtain ⟨hs, hothers⟩ := List.forall_mem_cons.mp h
    by_cases hnil : others = []
    · rw [hnil, join, List.intercalate_singleton]
      exact hs
    · rw [join_cons_of_ne_nil _ _ hnil]
      exact (ih hnil hothers).append_left _

/-! ## Annotations in a row -/

/-- The comments that a head uses up are skipped. -/
lemma ofCommentsFrom_skip (line : Nat) (used rest : List (Option Comment)) :
    ofCommentsFrom line used.length (used ++ rest) =
      ofCommentsFrom (line + used.length) 0 rest := by
  induction used generalizing line with
  | nil => rfl
  | cons comment used ih =>
    rw [List.length_cons, List.cons_append, ofCommentsFrom, ih]
    congr 1
    omega

/-- A head is read with the comments that it takes in, and what follows them is read
as if it stood alone. -/
lemma ofCommentsFrom_head {line : Nat} {comment : Comment} {body whole : Text}
    {used rest : List (Option Comment)} (hhead : headBody? comment.text = some body)
    (hgather : gather comment.kind body (used ++ rest) = (whole, used.length)) :
    ofCommentsFrom line 0 (some comment :: (used ++ rest)) =
      ofBody line whole :: ofCommentsFrom (line + (used.length + 1)) 0 rest := by
  rw [ofCommentsFrom, hhead]
  simp only [hgather, ofCommentsFrom_skip]
  congr 2
  omega

/-- A head that is not continued takes in nothing behind it. -/
lemma ofCommentsFrom_cons_head {kind : CommentKind} {text body : Text}
    (hhead : headBody? text = some body) (hends : continued? body = none) (line : Nat)
    (rest : List (Option Comment)) :
    ofCommentsFrom line 0 (some ⟨kind, text⟩ :: rest) =
      ofBody line body :: ofCommentsFrom (line + 1) 0 rest := by
  have hgather : gather (Comment.mk kind text).kind body ([] ++ rest) =
      (body, ([] : List (Option Comment)).length) := gather_of_continued?_eq_none hends _
  exact ofCommentsFrom_head hhead hgather

/-- The lines of an annotation are read as its joined spellings, and what follows
them is read as if it stood alone. -/
theorem ofCommentsFrom_lineTails {spelled : List Text} (hne : spelled ≠ [])
    (h : ∀ s ∈ spelled, IsTrimmed s ∧ EndsInQuote s) (layout : AnnotationLayout) (line : Nat)
    (rest : List (Option Comment)) :
    ofCommentsFrom line 0
        ((Property.lineTails layout spelled).map (fun tail => some ⟨.line, tail⟩) ++ rest) =
      ofBody line (join ", " spelled) ::
        ofCommentsFrom (line + (Property.lineTails layout spelled).length) 0 rest := by
  have hquotes : ∀ s ∈ spelled, EndsInQuote s := fun s hs => (h s hs).2
  have hparts : ∀ s ∈ spelled, IsTrimmed s ∧ s ≠ [] :=
    fun s hs => ⟨(h s hs).1, (h s hs).2.ne_nil⟩
  unfold Property.lineTails
  split
  next first second others =>
    obtain ⟨⟨htrim, hquote⟩, hothers⟩ := List.forall_mem_cons.mp h
    have hne' : second :: others ≠ [] := List.cons_ne_nil second others
    have hends : IsTrimmed (first ++ ", " ++ ['\\']) :=
      isTrimmed_of_ends htrim hquote.ne_nil (isTrimmed_of_trim_eq rfl) (by simp) ", "
    have hbody : IsTrimmed (first ++ ", \\") := by simpa using hends
    have hhasQuote : hasQuote (first ++ ", \\") = true := by
      rw [Text.hasQuote, List.any_append]
      exact Bool.or_eq_true_iff.mpr (.inl hquote.hasQuote)
    have hhead : headBody? (Comment.mk .line (" put " ++ first ++ ", \\")).text =
        some (first ++ ", \\") := by
      rw [List.append_assoc]
      exact headBody?_put hbody hhasQuote
    have hgather : gather (Comment.mk .line (" put " ++ first ++ ", \\")).kind
        (first ++ ", \\")
        ((Property.continuationTails (second :: others)).map
          (fun tail => some (Comment.mk .line tail)) ++ rest) =
        (join ", " (first :: second :: others),
          ((Property.continuationTails (second :: others)).map
            fun tail => some (Comment.mk .line tail)).length) := by
      rw [gather_continuationTails hothers hne', List.length_map,
        join_cons_of_ne_nil _ _ hne']
    rw [List.map_cons, List.cons_append, ofCommentsFrom_head hhead hgather, List.length_map,
      List.length_cons]
  next =>
    have hquote := endsInQuote_join ", " hne hquotes
    have hhead : headBody? (" put " ++ join ", " spelled) = some (join ", " spelled) :=
      headBody?_put (isTrimmed_join ", " hparts).1 hquote.hasQuote
    exact ofCommentsFrom_cons_head hhead hquote.continued?_eq_none line rest

/-- A spelling ends in a quote. -/
lemma endsInQuote_spelling (p : Property) : EndsInQuote p.spelling :=
  ⟨_, Property.getLast?_spelling p, Property.isQuote_enclosingQuote p.value⟩

/-- Spellings have no blanks at their ends and end in quotes. -/
lemma isTrimmed_and_endsInQuote_of_mem {properties : List Property}
    (h : ∀ p ∈ properties, p.IsSpellable) :
    ∀ s ∈ properties.map Property.spelling, IsTrimmed s ∧ EndsInQuote s := by
  intro s hs
  obtain ⟨p, hp, rfl⟩ := List.mem_map.mp hs
  exact ⟨Property.isTrimmed_spelling (h p hp), endsInQuote_spelling p⟩

/-- The annotations that some property lists are written as, from a line on. -/
def numbered (layout : AnnotationLayout) : Nat → List (List Property) → List Annotation
  | _, [] => []
  | line, properties :: rest =>
    ⟨line, properties⟩ ::
      numbered layout
        (line + (Property.lineTails layout (properties.map Property.spelling)).length) rest

/-- Property lists that have spellings. -/
def IsWritable (lists : List (List Property)) : Prop :=
  ∀ properties ∈ lists, properties ≠ [] ∧ ∀ p ∈ properties, p.IsSpellable

/-- What stands behind the marks of the lines of some annotations. -/
def tailsOf (layout : AnnotationLayout) (lists : List (List Property)) : List Text :=
  lists.flatMap fun properties => Property.lineTails layout (properties.map Property.spelling)

/-- The lines of some annotations are read as these annotations. -/
lemma ofCommentsFrom_tailsOf {lists : List (List Property)} (h : IsWritable lists)
    (layout : AnnotationLayout) (line : Nat) :
    ofCommentsFrom line 0 ((tailsOf layout lists).map fun tail => some ⟨.line, tail⟩) =
      (numbered layout line lists).map .ok := by
  induction lists generalizing line with
  | nil => rfl
  | cons properties rest ih =>
    obtain ⟨⟨hne, hspell⟩, hrest⟩ := List.forall_mem_cons.mp h
    rw [tailsOf, List.flatMap_cons, List.map_append,
      ofCommentsFrom_lineTails (by simp [hne]) (isTrimmed_and_endsInQuote_of_mem hspell), ofBody,
      Property.parse_join_spelling hne hspell, numbered, List.map_cons]
    exact congrArg _ (ih hrest _)

/-- The text of some annotations is the join of their lines. -/
lemma lines_join_layOut {lists : List (List Property)} (h : IsWritable lists)
    (layout : AnnotationLayout) (group : CommentGroup) :
    Text.lines (join ['\n'] (lists.map fun properties =>
        Property.layOut group.mark layout (properties.map Property.spelling))) =
      (tailsOf layout lists).map (group.mark ++ ·) := by
  have hmark : IsOneLine group.mark := by
    cases group <;> exact ⟨by decide, by decide⟩
  have hjoin : (lists.map fun properties =>
        Property.layOut group.mark layout (properties.map Property.spelling)) =
      (lists.map fun properties =>
        (Property.lineTails layout (properties.map Property.spelling)).map
          (group.mark ++ ·)).map (join ['\n']) := by
    rw [List.map_map]
    exact List.map_congr_left fun properties _ => Property.layOut_eq_join _ _ _
  have hgroups : ∀ lines ∈ lists.map fun properties =>
      (Property.lineTails layout (properties.map Property.spelling)).map (group.mark ++ ·),
      lines ≠ [] := by
    intro lines hlines
    obtain ⟨properties, -, rfl⟩ := List.mem_map.mp hlines
    simp [Property.lineTails_ne_nil]
  have hflatten : (lists.map fun properties =>
        (Property.lineTails layout (properties.map Property.spelling)).map
          (group.mark ++ ·)).flatten = (tailsOf layout lists).map (group.mark ++ ·) := by
    rw [tailsOf, List.map_flatMap, List.flatMap_def]
  rw [hjoin, join_map_join _ hgroups, hflatten]
  refine lines_join (fun line hline => ?_) fun line hline => ?_
  · obtain ⟨tail, htail, rfl⟩ := List.mem_map.mp hline
    obtain ⟨properties, hproperties, htail⟩ := List.mem_flatMap.mp htail
    refine hmark.append (Property.isOneLine_of_mem_lineTails (fun s hs => ?_) htail)
    obtain ⟨p, hp, rfl⟩ := List.mem_map.mp hs
    exact Property.isOneLine_spelling ((h properties hproperties).2 p hp)
  · obtain ⟨tail, htail, rfl⟩ := List.mem_map.mp hline
    obtain ⟨properties, -, htail⟩ := List.mem_flatMap.mp htail
    obtain ⟨rest, rfl⟩ := Property.exists_cons_of_mem_lineTails htail
    simp

/-- Annotations that are written one after the other are read again, each on its own
line and with exactly its properties. -/
theorem ofLines_join_layOut {marks : CommentMarks} (hmarks : marks.ReadsLines)
    {lists : List (List Property)} (h : IsWritable lists) (layout : AnnotationLayout) :
    ofLines marks (Text.lines (join ['\n'] (lists.map fun properties =>
        Property.layOut marks.group.mark layout (properties.map Property.spelling)))) =
      (numbered layout 1 lists).map .ok := by
  have htails : ∀ tail ∈ tailsOf layout lists, ∃ rest, tail = ' ' :: rest := by
    intro tail htail
    obtain ⟨properties, -, htail⟩ := List.mem_flatMap.mp htail
    exact Property.exists_cons_of_mem_lineTails htail
  have hcomments := Comment.ofLinesFrom_marked hmarks htails []
  rw [List.append_nil, Comment.ofLinesFrom, List.append_nil] at hcomments
  rw [lines_join_layOut h, ofLines, Comment.ofLines, hcomments, ofCommentsFrom_tailsOf h]

/-- A written annotation is read again: with the marks of its family of comments, or
with those of any language of this family, its text holds one annotation, on the
first line, with exactly the properties that were written. -/
theorem ofLines_written {properties : List Property} {group : CommentGroup}
    {layout : AnnotationLayout} {text : Text}
    (h : Property.written properties group layout = .ok text) {marks : CommentMarks}
    (hmarks : marks = { group } ∨
      ∃ language : Language, language.group = group ∧ marks = .ofLanguage language) :
    ofLines marks (Text.lines text) = [.ok ⟨1, properties⟩] := by
  obtain ⟨hne, hspell, rfl⟩ := Property.written_eq_ok_iff.mp h
  have hwritable : IsWritable [properties] := by
    intro ps hps
    rw [List.mem_singleton.mp hps]
    exact ⟨hne, hspell⟩
  have hreads : marks.ReadsLines ∧ marks.group = group := by
    rcases hmarks with rfl | ⟨language, rfl, rfl⟩
    · exact ⟨CommentMarks.readsLines_of_group group, rfl⟩
    · exact ⟨CommentMarks.readsLines_ofLanguage language, rfl⟩
  have hread := ofLines_join_layOut hreads.1 hwritable layout
  rw [hreads.2, List.map_singleton, join, List.intercalate_singleton] at hread
  exact hread

/-- A value with a comma, a colon, a backslash and double quotes, written on a line of
its own for a language whose block comments start like its line comments. -/
theorem ofLines_written_lua :
    Property.written [⟨"id", "load"⟩, ⟨"note", " say: \"hi, there\" \\ "⟩] .dash .multiline =
        .ok "-- put id:\"load\", \\\n--    note:' say: \"hi, there\" \\ '" ∧
      ofLines (.ofLanguage .lua)
          (Text.lines "-- put id:\"load\", \\\n--    note:' say: \"hi, there\" \\ '") =
        [.ok ⟨1, [⟨"id", "load"⟩, ⟨"note", " say: \"hi, there\" \\ "⟩]⟩] := by
  have h : Property.written [⟨"id", "load"⟩, ⟨"note", " say: \"hi, there\" \\ "⟩] .dash
      .multiline = .ok "-- put id:\"load\", \\\n--    note:' say: \"hi, there\" \\ '" := rfl
  exact ⟨h, ofLines_written h (.inr ⟨.lua, rfl, rfl⟩)⟩

end Annotations

end ScriptFlow
