import ScriptFlow.Proofs.Annotation.Blocks
import ScriptFlow.Proofs.Annotation.ReadBack

/-!
# Annotations on several lines

A body can be broken anywhere, also inside a quoted value: each line but the last ends in a
backslash, and each line but the first is a comment of its own.  Gathering drops the backslash
and the blanks around every piece and puts one blank in their place, so a broken annotation is
read as the one line on which its trimmed pieces stand with single blanks between them
(`ofLines_brokenLines`), whether that is well-formed or not.

No piece may be blank or end in a backslash of its own.  This is what carries the induction:
the text gathered so far then ends where its last piece does (`gather_backslashed`), so that
only the backslash that was added asks for a continuation.
-/

namespace ScriptFlow

open Text

namespace Annotations

/-! ## Pieces of a body -/

/-- A piece of a body: it is not blank and does not end in a backslash, blanks left out. -/
@[mk_iff]
structure IsPiece (t : Text) : Prop where
  notBlank : ¬IsBlankText t
  noBackslash : (trimEnd t).getLast? ≠ some '\\'

instance (t : Text) : Decidable (IsPiece t) :=
  decidable_of_iff _ (isPiece_iff t).symm

lemma IsPiece.trim_ne_nil {t : Text} (h : IsPiece t) : trim t ≠ [] :=
  fun hnil => h.notBlank (trim_eq_nil_iff.mp hnil)

/-- A text that ends in a trimmed piece asks for no continuation. -/
lemma IsPiece.continued?_append_trim {t : Text} (h : IsPiece t) (front : Text) :
    continued? (front ++ trim t) = none := by
  obtain ⟨a, ha⟩ := exists_append_trim h.notBlank
  have hlast : (trim t).getLast? ≠ some '\\' := by
    intro heq
    apply h.noBackslash
    rw [ha, List.getLast?_append_of_ne_nil _ h.trim_ne_nil, heq]
  have hend : trimEnd (front ++ trim t) = front ++ trim t := by
    refine trimEnd_eq_self fun c hc => (isTrimmed_trim t).last c ?_
    rwa [List.getLast?_append_of_ne_nil _ h.trim_ne_nil] at hc
  apply continued?_eq_none
  rwa [hend, List.getLast?_append_of_ne_nil _ h.trim_ne_nil]

/-- Pieces with a backslash behind each but the last. -/
def backslashed : List Text → List Text
  | [] => []
  | [piece] => [piece]
  | piece :: next :: rest => (piece ++ ['\\']) :: backslashed (next :: rest)

/-- Gathering takes in all pieces behind a text that ends in a backslash. -/
lemma gather_backslashed {pieces : List Text} (hne : pieces ≠ [])
    (h : ∀ piece ∈ pieces, IsPiece piece) (front : Text) :
    gather .line (front ++ ['\\']) ((backslashed pieces).map fun text => some ⟨.line, text⟩) =
      (trimEnd front ++ ' ' :: join [' '] (pieces.map trim), (backslashed pieces).length) := by
  induction pieces generalizing front with
  | nil => exact absurd rfl hne
  | cons piece rest ih =>
    obtain ⟨hpiece, hrest⟩ := List.forall_mem_cons.mp h
    cases rest with
    | nil =>
      have hlast : continued? (trimEnd front ++ [' '] ++ trim piece) = none :=
        hpiece.continued?_append_trim _
      rw [backslashed, List.map_singleton, gather_of_continued? (continued?_concat front),
        gather_of_continued?_eq_none hlast, List.map_singleton, join, List.intercalate_singleton,
        List.append_assoc]
      rfl
    | cons next rest =>
      have htext : trim (piece ++ ['\\']) = trimStart piece ++ ['\\'] :=
        trim_append_cons piece [] rfl
      -- the piece ends the new front, which therefore is trimmed where the piece is
      have hfront : trimEnd (trimEnd front ++ [' '] ++ trimStart piece) =
          trimEnd front ++ [' '] ++ trim piece := by
        refine trimEnd_append_of_not_blank _ fun hblank => hpiece.notBlank ?_
        obtain ⟨a, ha, hsplit⟩ := exists_append_trimStart piece
        exact hsplit ▸ ha.append hblank
      have hjoin : join [' '] ((piece :: next :: rest).map trim) =
          trim piece ++ [' '] ++ join [' '] ((next :: rest).map trim) :=
        join_cons_of_ne_nil [' '] (trim piece) (List.cons_ne_nil (trim next) (rest.map trim))
      rw [backslashed, List.map_cons, gather_of_continued? (continued?_concat front), htext,
        ← List.append_assoc, ih (List.cons_ne_nil next rest) hrest, hfront, hjoin]
      simp

/-! ## Broken lines -/

/-- The lines behind the first one of a broken annotation: the pieces, each behind blanks and
the mark, with a backslash behind each but the last. -/
def laterLines (mark : Text) : List (Text × Text) → List Text
  | [] => []
  | [(indent, piece)] => [indent ++ mark ++ piece]
  | (indent, piece) :: next :: rest =>
    (indent ++ mark ++ piece ++ ['\\']) :: laterLines mark (next :: rest)

/-- The lines of a broken annotation. -/
def brokenLines (mark first : Text) (later : List (Text × Text)) : List Text :=
  (mark ++ " put " ++ first ++ ['\\']) :: laterLines mark later

/-- The line of an annotation with its trimmed pieces and single blanks between them. -/
def joinedLine (mark : Text) (pieces : List Text) : Text :=
  mark ++ " put " ++ join [' '] (pieces.map trim)

/-- A marked line is a line comment, however it is indented. -/
lemma ofLinesFrom_cons_marked (group : CommentGroup) {indent : Text}
    (hindent : IsBlankText indent) (text : Text) (rest : List Text) :
    Comment.ofLinesFrom { group } false ((indent ++ group.mark ++ text) :: rest) =
      some ⟨.line, text⟩ :: Comment.ofLinesFrom { group } false rest := by
  have htrim : trimStart (indent ++ group.mark ++ text) = group.mark ++ text := by
    rw [List.append_assoc, trimStart_append_of_blank hindent, Comment.trimStart_mark_append]
  have hline : Comment.ofLine { group } false (group.mark ++ text) =
      (some ⟨.line, text⟩, false) := by
    rw [Comment.ofLine, Comment.lineComment?, isPrefixOf?_eq_some_iff.mpr rfl]
    rfl
  rw [Comment.ofLinesFrom, htrim, hline]

/-- A marked line at the start of a script is a line comment. -/
lemma ofLines_cons_marked (group : CommentGroup) (text : Text) (rest : List Text) :
    Comment.ofLines { group } ((group.mark ++ text) :: rest) =
      some ⟨.line, text⟩ :: Comment.ofLinesFrom { group } false rest :=
  ofLinesFrom_cons_marked group isBlankText_nil text rest

/-- The later lines hold the later pieces. -/
lemma ofLinesFrom_laterLines (group : CommentGroup) {later : List (Text × Text)}
    (h : ∀ line ∈ later, IsBlankText line.1) :
    Comment.ofLinesFrom { group } false (laterLines group.mark later) =
      (backslashed (later.map Prod.snd)).map fun text => some ⟨.line, text⟩ := by
  induction later with
  | nil => rfl
  | cons line rest ih =>
    obtain ⟨hindent, hrest⟩ := List.forall_mem_cons.mp h
    obtain ⟨indent, piece⟩ := line
    cases rest with
    | nil => exact ofLinesFrom_cons_marked group hindent piece []
    | cons next rest =>
      rw [laterLines, List.append_assoc, ofLinesFrom_cons_marked group hindent, ih hrest]
      rfl

/-- A quote in some piece is one in the joined pieces. -/
lemma hasQuote_join_trim {pieces : List Text} (h : ∃ piece ∈ pieces, hasQuote piece = true) :
    hasQuote (join [' '] (pieces.map trim)) = true := by
  obtain ⟨piece, hpiece, hquote⟩ := h
  obtain ⟨c, hc, hisQuote⟩ := List.any_eq_true.mp hquote
  refine List.any_eq_true.mpr ⟨c, subset_join [' '] (List.mem_map_of_mem hpiece) ?_, hisQuote⟩
  -- trimming drops blanks only, and no quote is a blank
  obtain ⟨a, b, ha, hb, hsplit⟩ := exists_blanks_trim piece
  have hnotBlank : isBlank c ≠ true := by
    intro hblank
    rw [show (c == '"' || c == '\'') = Property.isQuote c from rfl,
      Property.isQuote_eq_false_of_isBlank hblank] at hisQuote
    exact Bool.noConfusion hisQuote
  rw [hsplit] at hc
  rcases List.mem_append.mp hc with hc | hc
  · exact (List.mem_append.mp hc).resolve_left fun hfront => hnotBlank (ha c hfront)
  · exact absurd (hb c hc) hnotBlank

/-- Joined pieces have no blanks at their ends. -/
lemma isTrimmed_join_trim {pieces : List Text} (h : ∀ piece ∈ pieces, IsPiece piece) :
    IsTrimmed (join [' '] (pieces.map trim)) := by
  refine (isTrimmed_join [' '] fun part hpart => ?_).1
  obtain ⟨piece, hpiece, rfl⟩ := List.mem_map.mp hpart
  exact ⟨isTrimmed_trim piece, (h piece hpiece).trim_ne_nil⟩

/-- Joined pieces ask for no continuation. -/
lemma continued?_join_trim {pieces : List Text} (hne : pieces ≠ [])
    (h : ∀ piece ∈ pieces, IsPiece piece) :
    continued? (join [' '] (pieces.map trim)) = none := by
  have hlast : (pieces.map trim).getLast? = some (trim (pieces.getLast hne)) := by
    rw [List.getLast?_map, List.getLast?_eq_some_getLast hne, Option.map_some]
  obtain ⟨front, hfront⟩ := exists_join_eq_append [' '] hlast
  rw [hfront]
  exact (h _ (List.getLast_mem hne)).continued?_append_trim front

/-- Gathering puts the pieces of a broken annotation together, from the head on. -/
lemma gather_first_backslashed {first : Text} {later : List Text} (hne : later ≠ [])
    (h : ∀ piece ∈ later, IsPiece piece) :
    gather .line (trimStart first ++ ['\\'])
        ((backslashed later).map fun text => some ⟨.line, text⟩) =
      (join [' '] ((first :: later).map trim), (backslashed later).length) := by
  have hne' : later.map trim ≠ [] := by simpa using hne
  rw [gather_backslashed hne h, List.map_cons, join_cons_of_ne_nil _ _ hne', List.append_assoc]
  rfl

/-- A broken annotation is read as its joined pieces. -/
lemma ofLines_brokenLines_eq (group : CommentGroup) (first : Text) {later : List (Text × Text)}
    (hne : later ≠ []) (hindent : ∀ line ∈ later, IsBlankText line.1)
    (hpieces : ∀ piece ∈ later.map Prod.snd, IsPiece piece) :
    ofLines { group } (brokenLines group.mark first later) =
      [ofBody 1 (join [' '] ((first :: later.map Prod.snd).map trim))] := by
  have hne' : later.map Prod.snd ≠ [] := by simpa using hne
  have hbody : trim (first ++ ['\\']) = trimStart first ++ ['\\'] :=
    trim_append_cons first [] rfl
  have hhead : headBody? (Comment.mk .line (" put " ++ (first ++ ['\\']))).text =
      some (trimStart first ++ ['\\']) := by
    rw [headBody?_put_eq, hbody, endsWith_concat, Bool.or_true, if_pos rfl]
  have hgather : gather (Comment.mk .line (" put " ++ (first ++ ['\\']))).kind
      (trimStart first ++ ['\\'])
      ((backslashed (later.map Prod.snd)).map (fun text => some (Comment.mk .line text)) ++ []) =
        (join [' '] ((first :: later.map Prod.snd).map trim),
          ((backslashed (later.map Prod.snd)).map
            fun text => some (Comment.mk .line text)).length) := by
    rw [List.append_nil, gather_first_backslashed hne' hpieces, List.length_map]
  have hread := @ofCommentsFrom_head 1 _ _ _ _ [] hhead hgather
  rw [List.append_nil] at hread
  rw [brokenLines, List.append_assoc, List.append_assoc, ofLines, ofLines_cons_marked,
    ofLinesFrom_laterLines group hindent, hread, ofCommentsFrom]

/-- The one line is read as the joined pieces as well. -/
lemma ofLines_joinedLine_eq (group : CommentGroup) {pieces : List Text} (hne : pieces ≠ [])
    (hpieces : ∀ piece ∈ pieces, IsPiece piece)
    (hquote : ∃ piece ∈ pieces, hasQuote piece = true) :
    ofLines { group } [joinedLine group.mark pieces] =
      [ofBody 1 (join [' '] (pieces.map trim))] := by
  have hhead : headBody? (" put " ++ join [' '] (pieces.map trim)) =
      some (join [' '] (pieces.map trim)) :=
    headBody?_put (isTrimmed_join_trim hpieces) (hasQuote_join_trim hquote)
  have hends := continued?_join_trim hne hpieces
  rw [joinedLine, List.append_assoc, ofLines, ofLines_cons_marked]
  exact ofCommentsFrom_cons_head hhead hends 1 []

/-- A broken annotation is read as the one line with its trimmed pieces, with the same
properties or the same error. -/
theorem ofLines_brokenLines {group : CommentGroup} {first : Text} {later : List (Text × Text)}
    (hne : later ≠ []) (hindent : ∀ line ∈ later, IsBlankText line.1)
    (hpieces : ∀ piece ∈ first :: later.map Prod.snd, IsPiece piece)
    (hquote : ∃ piece ∈ first :: later.map Prod.snd, hasQuote piece = true) :
    ∃ result, headLine result = 1 ∧
      ofLines { group } (brokenLines group.mark first later) = [result] ∧
      ofLines { group } [joinedLine group.mark (first :: later.map Prod.snd)] = [result] := by
  obtain ⟨-, hlater⟩ := List.forall_mem_cons.mp hpieces
  exact ⟨ofBody 1 (join [' '] ((first :: later.map Prod.snd).map trim)), headLine_ofBody _ _,
    ofLines_brokenLines_eq group first hne hindent hlater,
    ofLines_joinedLine_eq group (List.cons_ne_nil _ _) hpieces hquote⟩

/-- The later pieces of an annotation that is broken inside a value and behind it. -/
def laterPieces : List (Text × Text) :=
  [("  ", " b\",  "), ("\t", "output:'c.csv' ")]

theorem ofLines_brokenLines_insideQuotes :
    laterPieces ≠ [] ∧ (∀ line ∈ laterPieces, IsBlankText line.1) ∧
      (∀ piece ∈ "label:\"a".toList :: laterPieces.map Prod.snd, IsPiece piece) ∧
      (∃ piece ∈ "label:\"a".toList :: laterPieces.map Prod.snd, hasQuote piece = true) ∧
      ofLines { group := .hash }
          ["# put label:\"a\\", "  # b\",  \\", "\t#output:'c.csv' "] =
        [.ok ⟨1, [⟨"label", "a b"⟩, ⟨"output", "c.csv"⟩]⟩] ∧
      ofLines { group := .hash } ["# put label:\"a b\", output:'c.csv'"] =
        [.ok ⟨1, [⟨"label", "a b"⟩, ⟨"output", "c.csv"⟩]⟩] := by
  have hne : laterPieces ≠ [] := List.cons_ne_nil _ _
  have hindent : ∀ line ∈ laterPieces, IsBlankText line.1 := by decide
  have hpieces : ∀ piece ∈ "label:\"a".toList :: laterPieces.map Prod.snd, IsPiece piece := by
    decide
  have hquote : ∃ piece ∈ "label:\"a".toList :: laterPieces.map Prod.snd,
      hasQuote piece = true := ⟨_, List.mem_cons_self, by decide⟩
  obtain ⟨result, -, hbroken, hjoined⟩ :=
    @ofLines_brokenLines .hash "label:\"a" laterPieces hne hindent hpieces hquote
  have hone : ofLines { group := .hash } ["# put label:\"a b\", output:'c.csv'"] =
      [.ok ⟨1, [⟨"label", "a b"⟩, ⟨"output", "c.csv"⟩]⟩] := by decide
  have hresult : [result] = [.ok ⟨1, [⟨"label", "a b"⟩, ⟨"output", "c.csv"⟩]⟩] :=
    hjoined.symm.trans hone
  exact ⟨hne, hindent, hpieces, hquote, hbroken.trans hresult, hone⟩

end Annotations

end ScriptFlow
