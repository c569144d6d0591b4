import ScriptFlow.Proofs.Annotation.CodeLines
import ScriptFlow.Proofs.Annotation.ReadBack

/-!
# Annotations enclosed in block comments

A property list that is spelled on one line can stand in a line comment, on one line between
the marks of a block comment, or behind a star on a line of its own inside a block comment.  It
is read as the same properties wherever it stands, and what comes behind is read as a script of
its own (`readsAs_enclosed`).

The closing mark is searched for as a part of the text, and a value may hold anything.  But the
marks of all languages are made of characters that stand nowhere else in a spelled property
list (`BlockDelimiters.SetApart`), so only a value can hold a closing mark.
-/

namespace ScriptFlow

open Text

/-- The characters that stand in spelled property lists outside values. -/
def Property.isSpellingChar (c : Char) : Bool :=
  isIdentifierChar c || isBlank c || isQuote c || c == ':' || c == ','

/-! ## Closing marks -/

namespace BlockDelimiters

/-- Marks that nothing in a spelled property list can be taken for, values left out, and that
stand out from blanks and from the star that decorates a line. -/
@[mk_iff]
structure SetApart (block : BlockDelimiters) : Prop where
  opening_ne_nil : block.opening ≠ []
  opening_trimmed : trimStart block.opening = block.opening
  closing_length : 2 ≤ block.closing.length
  closing_chars : block.closing.all (fun c => !Property.isSpellingChar c) = true

instance (block : BlockDelimiters) : Decidable block.SetApart :=
  decidable_of_iff _ (setApart_iff block).symm

/-- The marks of every language are set apart. -/
lemma setApart_of_language {language : Language} {block : BlockDelimiters}
    (h : language.block = some block) : block.SetApart := by
  have hall : ∀ language : Language, ∀ block ∈ language.block, block.SetApart := by
    intro language
    cases language <;> decide
  exact hall language block h

namespace SetApart

variable {block : BlockDelimiters} (h : block.SetApart)
include h

lemma closing_ne_nil : block.closing ≠ [] :=
  List.length_pos_iff.mp (Nat.lt_of_lt_of_le Nat.zero_lt_two h.closing_length)

lemma not_isInfix_nil : ¬block.closing <:+: [] :=
  fun hnil => h.closing_ne_nil (List.infix_nil.mp hnil)

lemma not_mem_closing {c : Char} (hc : Property.isSpellingChar c = true) : c ∉ block.closing := by
  intro hmem
  have hchar := List.all_eq_true.mp h.closing_chars c hmem
  rw [hc] at hchar
  exact Bool.noConfusion hchar

lemma blank_not_mem_closing : ' ' ∉ block.closing :=
  h.not_mem_closing rfl

lemma trimStart_closing : trimStart block.closing = block.closing := by
  refine trimStart_eq_self fun c hc => Bool.eq_false_iff.mpr fun hblank => ?_
  exact h.not_mem_closing (by simp [Property.isSpellingChar, hblank]) (List.mem_of_mem_head? hc)

/-- An identifier holds no closing mark. -/
lemma not_isInfix_of_isIdentifierChar {t : Text} (ht : ∀ c ∈ t, isIdentifierChar c = true) :
    ¬block.closing <:+: t := by
  intro hpart
  obtain ⟨c, hc⟩ := List.exists_mem_of_ne_nil _ h.closing_ne_nil
  have hchar := ht c (hpart.subset hc)
  exact h.not_mem_closing (by simp [Property.isSpellingChar, hchar]) hc

/-- A spelled property holds a closing mark only in its value. -/
lemma not_isInfix_spelling {p : Property} (hkey : isIdentifier p.key = true)
    (hvalue : ¬block.closing <:+: p.value) : ¬block.closing <:+: p.spelling := by
  have hquote : Property.enclosingQuote p.value ∉ block.closing :=
    h.not_mem_closing (by simp [Property.isSpellingChar, Property.isQuote_enclosingQuote])
  have hcolon : ':' ∉ block.closing := h.not_mem_closing rfl
  have hkey' := h.not_isInfix_of_isIdentifierChar fun c hc => isIdentifierChar_of_mem hkey hc
  have hsplit : p.spelling = p.key ++ ':' :: ([] ++ Property.enclosingQuote p.value ::
      (p.value ++ Property.enclosingQuote p.value :: [])) := by
    simp [Property.spelling]
  rw [hsplit, isInfix_append_cons_iff hcolon, isInfix_append_cons_iff hquote,
    isInfix_append_cons_iff hquote]
  simp only [hkey', h.not_isInfix_nil, hvalue, or_self, not_false_eq_true]

/-- Joined texts hold a closing mark only if one of them does. -/
lemma not_isInfix_join {spelled : List Text} (hspelled : ∀ s ∈ spelled, ¬block.closing <:+: s) :
    ¬block.closing <:+: join ", " spelled := by
  have hcomma : ',' ∉ block.closing := h.not_mem_closing rfl
  induction spelled with
  | nil => exact h.not_isInfix_nil
  | cons s rest ih =>
    obtain ⟨hs, hrest⟩ := List.forall_mem_cons.mp hspelled
    by_cases hlast : rest = []
    · rw [hlast, join, List.intercalate_singleton]
      exact hs
    · have hsplit : join ", " (s :: rest) = s ++ ',' :: ([] ++ ' ' :: join ", " rest) := by
        rw [join_cons_of_ne_nil _ _ hlast, List.append_assoc]
        rfl
      rw [hsplit, isInfix_append_cons_iff hcomma,
        isInfix_append_cons_iff h.blank_not_mem_closing]
      simp only [hs, h.not_isInfix_nil, ih hrest, or_self, not_false_eq_true]

/-- The start of a head holds no closing mark. -/
lemma not_isInfix_put {body : Text} (hbody : ¬block.closing <:+: body) :
    ¬block.closing <:+: " put " ++ body ∧ ¬block.closing <:+: "* put " ++ body := by
  have hput : ¬block.closing <:+: "put" :=
    h.not_isInfix_of_isIdentifierChar (List.all_eq_true.mp (by decide))
  have hstar : ¬block.closing <:+: ['*'] := by
    intro hstar
    have hlength := h.closing_length.trans hstar.length_le
    exact absurd hlength (by decide)
  have hsplit : (" put " ++ body : Text) = [] ++ ' ' :: ("put".toList ++ ' ' :: body) := rfl
  have hsplit' : ("* put " ++ body : Text) = ['*'] ++ ' ' :: ("put".toList ++ ' ' :: body) := rfl
  rw [hsplit, hsplit']
  simp only [isInfix_append_cons_iff h.blank_not_mem_closing, h.not_isInfix_nil, hstar, hput,
    hbody, or_self, not_false_eq_true, and_self]

end SetApart

end BlockDelimiters

/-! ## Lines of block comments -/

namespace Comment

section Block

variable {marks : CommentMarks} {block : BlockDelimiters} (hblock : marks.block = some block)
include hblock

/-- A line that starts with the opening mark starts a block comment. -/
lemma ofLine_opening (h : block.SetApart) (rest : Text) :
    ofLine marks false (trimStart (block.opening ++ rest)) = inBlock block rest := by
  have htrim : trimStart (block.opening ++ rest) = block.opening ++ rest := by
    refine trimStart_eq_self fun c hc => isBlank_head_trimStart block.opening c ?_
    rwa [List.head?_append_of_ne_nil _ h.opening_ne_nil, ← h.opening_trimmed] at hc
  rw [htrim, ofLine, hblock]
  dsimp only
  rw [if_neg Bool.false_ne_true, isPrefixOf?_eq_some_iff.mpr rfl]

/-- A line in an open block comment goes on with it. -/
lemma ofLine_isOpen (line : Text) : ofLine marks true line = inBlock block line := by
  rw [ofLine, hblock]
  rfl

end Block

/-- A marked line that opens no block comment is a line comment where none is open. -/
lemma ofLine_lineComment {marks : CommentMarks} {line text : Text}
    (hline : line = marks.group.mark ++ text)
    (hopening : ∀ block ∈ marks.block, ¬block.opening <+: line) :
    ofLine marks false line = (some ⟨.line, text⟩, false) := by
  have hcomment : lineComment? marks line = some ⟨.line, text⟩ := by
    rw [lineComment?, isPrefixOf?_eq_some_iff.mpr hline, Option.map_some]
  rw [ofLine, hcomment]
  split
  · rfl
  next block hblock =>
    rw [isPrefixOf?_eq_none_iff.mpr (hopening block hblock)]
    rfl

/-- Text without the closing mark leaves a block comment open. -/
lemma inBlock_of_not_isInfix {block : BlockDelimiters} {t : Text} (h : ¬block.closing <:+: t) :
    inBlock block t = (some ⟨.block, dropStar t⟩, true) := by
  rw [inBlock, cut?_eq_none_iff.mpr h]

/-- The closing mark closes a block comment, whatever follows it. -/
lemma inBlock_closing (block : BlockDelimiters) (rest : Text) :
    inBlock block (block.closing ++ rest) = (some ⟨.block, []⟩, false) := by
  rw [inBlock, cut?_append]
  rfl

end Comment

namespace Annotations

/-- In a block comment a head is the comment without the star and the blanks around it. -/
lemma dropStar_put {body : Text} (h : EndsInQuote body) :
    Comment.dropStar (" put " ++ body ++ [' ']) = "put " ++ body ∧
      Comment.dropStar ("* put " ++ body) = " put " ++ body := by
  constructor
  · have hunfold : Comment.dropStar (" put " ++ body ++ [' ']) =
        trimEnd ("put " ++ body ++ [' ']) := rfl
    have hblank : IsBlankText [' '] := isBlankText_replicate 1
    rw [hunfold, trimEnd_append_of_blank _ hblank, (h.append_left _).trimEnd_eq]
  · have hunfold : Comment.dropStar ("* put " ++ body) = trimEnd (" put " ++ body) := rfl
    rw [hunfold, (h.append_left _).trimEnd_eq]

/-! ## Annotations by themselves -/

/-- Some lines are read as one annotation and do not matter for what comes behind them. -/
structure ReadsAs (marks : CommentMarks) (lines : List Text) (found : Annotation) : Prop where
  read : ofLines marks lines = [.ok found]
  /-- The lines behind are read as a script of its own, only further down. -/
  behind : ∀ after, ofLines marks (lines ++ after) =
    .ok found :: (ofLines marks after).map (moveDown lines.length)
  /-- A line comment behind is a line comment. -/
  lineComment : ∀ line text, trimStart line = marks.group.mark ++ text →
    (∀ block ∈ marks.block, ¬block.opening <+: trimStart line) →
      Comment.ofLines marks (lines ++ [line]) =
        Comment.ofLines marks lines ++ [some ⟨.line, text⟩]

/-- Lines are read by themselves if their comments are and no block comment is open behind. -/
lemma readsAs_of_ofCommentsFrom {marks : CommentMarks} {lines : List Text} {found : Annotation}
    (hclosed : Comment.isOpenAfter marks false lines = false)
    (hread : ∀ rest, ofCommentsFrom 1 0 (Comment.ofLines marks lines ++ rest) =
      .ok found :: ofCommentsFrom (1 + lines.length) 0 rest) :
    ReadsAs marks lines found := by
  have happend : ∀ after, Comment.ofLines marks (lines ++ after) =
      Comment.ofLines marks lines ++ Comment.ofLines marks after := by
    intro after
    rw [Comment.ofLines, Comment.ofLinesFrom_append, hclosed]
    rfl
  have hbehind : ∀ after, ofLines marks (lines ++ after) =
      .ok found :: (ofLines marks after).map (moveDown lines.length) := by
    intro after
    rw [ofLines, happend, hread, ofCommentsFrom_add]
    rfl
  refine ⟨?_, hbehind, fun line text hline hopening => ?_⟩
  · have hnil := hbehind []
    rw [List.append_nil] at hnil
    exact hnil
  · rw [happend, Comment.ofLines, Comment.ofLines, Comment.ofLinesFrom,
      Comment.ofLine_lineComment hline hopening]
    rfl

/-- A line that holds a head, and leaves no block comment open, is read by itself. -/
lemma readsAs_singleton {marks : CommentMarks} {line text body : Text} {kind : CommentKind}
    {properties : List Property}
    (hline : Comment.ofLine marks false (trimStart line) = (some ⟨kind, text⟩, false))
    (hhead : headBody? text = some body) (hends : continued? body = none)
    (hparse : Property.parse body = .ok properties) : ReadsAs marks [line] ⟨1, properties⟩ := by
  refine readsAs_of_ofCommentsFrom ?_ fun rest => ?_
  · rw [Comment.isOpenAfter, List.foldl_cons, hline, List.foldl_nil]
  · have hread := @ofCommentsFrom_cons_head kind text body hhead hends 1 rest
    rw [ofBody, hparse] at hread
    rw [Comment.ofLines, Comment.ofLinesFrom, hline]
    exact hread

/-! ## The three forms -/

section Forms

variable {marks : CommentMarks} {block : BlockDelimiters} {body : Text}
  {properties : List Property}

/-- A spelled property list is read behind the mark of line comments. -/
lemma readsAs_lineComment (hmarks : marks.ReadsLines) (htrim : IsTrimmed body)
    (hquote : EndsInQuote body) (hparse : Property.parse body = .ok properties) :
    ReadsAs marks [marks.group.mark ++ " put " ++ body] ⟨1, properties⟩ := by
  have hline : Comment.ofLine marks false (trimStart (marks.group.mark ++ " put " ++ body)) =
      (some ⟨.line, " put " ++ body⟩, false) := by
    rw [List.append_assoc, Comment.trimStart_mark_append]
    exact hmarks ("put " ++ body)
  have hhead : headBody? (" put " ++ body) = some body := headBody?_put htrim hquote.hasQuote
  exact readsAs_singleton hline hhead hquote.continued?_eq_none hparse

variable (hblock : marks.block = some block) (h : block.SetApart)
  (hbody : ¬block.closing <:+: body) (htrim : IsTrimmed body) (hquote : EndsInQuote body)
  (hparse : Property.parse body = .ok properties)
include hblock h hbody htrim hquote hparse

/-- A spelled property list is read on one line between the marks of a block comment. -/
lemma readsAs_blockLine (tail : Text) :
    ReadsAs marks [block.opening ++ " put " ++ body ++ " " ++ block.closing ++ tail]
      ⟨1, properties⟩ := by
  have hline : Comment.ofLine marks false
      (trimStart (block.opening ++ " put " ++ body ++ " " ++ block.closing ++ tail)) =
        (some ⟨.block, "put " ++ body⟩, false) := by
    have hsplit : block.opening ++ " put " ++ body ++ " " ++ block.closing ++ tail =
        block.opening ++ (" put " ++ body ++ ' ' :: (block.closing ++ tail)) := by
      simp
    rw [hsplit, Comment.ofLine_opening hblock h, Comment.inBlock,
      cut?_append_cons h.closing_ne_nil h.blank_not_mem_closing (h.not_isInfix_put hbody).1]
    dsimp only
    rw [(dropStar_put hquote).1]
  have hhead : headBody? ("put " ++ body) = some body := headBody?_put htrim hquote.hasQuote
  exact readsAs_singleton hline hhead hquote.continued?_eq_none hparse

/-- A spelled property list is read behind a star, between lines that hold the marks of a
block comment. -/
lemma readsAs_starredLine :
    ReadsAs marks [block.opening, " * put " ++ body, block.closing] ⟨2, properties⟩ := by
  have hfirst : Comment.ofLine marks false (trimStart block.opening) =
      (some ⟨.block, []⟩, true) := by
    rw [← List.append_nil block.opening, Comment.ofLine_opening hblock h,
      Comment.inBlock_of_not_isInfix h.not_isInfix_nil]
    rfl
  have hsecond : Comment.ofLine marks true (trimStart (" * put " ++ body)) =
      (some ⟨.block, " put " ++ body⟩, true) := by
    have hstart : trimStart (" * put " ++ body) = "* put " ++ body := rfl
    rw [Comment.ofLine_isOpen hblock, hstart,
      Comment.inBlock_of_not_isInfix (h.not_isInfix_put hbody).2, (dropStar_put hquote).2]
  have hthird : Comment.ofLine marks true (trimStart block.closing) =
      (some ⟨.block, []⟩, false) := by
    rw [Comment.ofLine_isOpen hblock, h.trimStart_closing, ← List.append_nil block.closing,
      Comment.inBlock_closing]
  have hhead : headBody? (" put " ++ body) = some body := headBody?_put htrim hquote.hasQuote
  refine readsAs_of_ofCommentsFrom ?_ fun rest => ?_
  · simp only [Comment.isOpenAfter, List.foldl_cons, hfirst, hsecond, hthird, List.foldl_nil]
  · have hread := @ofCommentsFrom_cons_head .block _ body hhead hquote.continued?_eq_none 2
      (some ⟨.block, []⟩ :: rest)
    rw [ofBody, hparse] at hread
    simp only [Comment.ofLines, Comment.ofLinesFrom, hfirst, hsecond, hthird]
    -- the comments of the lines with the marks are empty and hold no head
    exact hread

end Forms

/-- An annotation that is written on one line is read as the same properties behind the mark of
line comments, between the marks of a block comment and whatever follows there, and behind a
star on a line of its own, unless a value holds the closing mark. -/
theorem readsAs_enclosed {language : Language} {block : BlockDelimiters}
    (hblock : language.block = some block) {properties : List Property} {body : Text}
    (hwritten : Property.written properties language.group .singleLine =
      .ok (language.group.mark ++ " put " ++ body))
    (hvalues : ∀ p ∈ properties, ¬block.closing <:+: p.value) :
    ReadsAs (.ofLanguage language) [language.group.mark ++ " put " ++ body] ⟨1, properties⟩ ∧
      (∀ tail, ReadsAs (.ofLanguage language)
        [block.opening ++ " put " ++ body ++ " " ++ block.closing ++ tail] ⟨1, properties⟩) ∧
      ReadsAs (.ofLanguage language) [block.opening, " * put " ++ body, block.closing]
        ⟨2, properties⟩ := by
  obtain ⟨hne, hspell, htext⟩ := Property.written_eq_ok_iff.mp hwritten
  obtain rfl : body = join ", " (properties.map Property.spelling) := List.append_cancel_left htext
  have hapart := BlockDelimiters.setApart_of_language hblock
  have hclosing : ¬block.closing <:+: join ", " (properties.map Property.spelling) := by
    refine hapart.not_isInfix_join fun s hs => ?_
    obtain ⟨p, hp, rfl⟩ := List.mem_map.mp hs
    exact hapart.not_isInfix_spelling (hspell p hp).key (hvalues p hp)
  have hends := isTrimmed_and_endsInQuote_of_mem hspell
  have htrim : IsTrimmed (join ", " (properties.map Property.spelling)) :=
    (isTrimmed_join ", " fun s hs => ⟨(hends s hs).1, (hends s hs).2.ne_nil⟩).1
  have hquote : EndsInQuote (join ", " (properties.map Property.spelling)) :=
    endsInQuote_join ", " (by simpa using hne) fun s hs => (hends s hs).2
  have hparse := Property.parse_join_spelling hne hspell
  exact ⟨readsAs_lineComment (CommentMarks.readsLines_ofLanguage language) htrim hquote hparse,
    readsAs_blockLine hblock hapart hclosing htrim hquote hparse,
    readsAs_starredLine hblock hapart hclosing htrim hquote hparse⟩

/-- Properties whose values hold half of a closing mark, the mark of line comments and the
closing mark of other languages. -/
def indexed : List Property :=
  [⟨"id", "a[1]"⟩, ⟨"note", "-- */"⟩]

theorem readsAs_enclosed_lua :
    Language.block .lua = some ⟨"--[[", "]]"⟩ ∧
      Property.written indexed .dash .singleLine = .ok "-- put id:\"a[1]\", note:\"-- */\"" ∧
      (∀ p ∈ indexed, ¬"]]".toList <:+: p.value) ∧
      ReadsAs (.ofLanguage .lua)
        ["--[[ put id:\"a[1]\", note:\"-- */\" ]] c = a[1] ]]"] ⟨1, indexed⟩ ∧
      ReadsAs (.ofLanguage .lua) ["--[[", " * put id:\"a[1]\", note:\"-- */\"", "]]"]
        ⟨2, indexed⟩ := by
  have hblock : Language.block .lua = some ⟨"--[[", "]]"⟩ := rfl
  have hwritten : Property.written indexed .dash .singleLine =
      .ok "-- put id:\"a[1]\", note:\"-- */\"" := rfl
  have hcut : ∀ p ∈ indexed, cut? "]]" p.value = none := by decide
  have hvalues : ∀ p ∈ indexed, ¬"]]".toList <:+: p.value :=
    fun p hp => cut?_eq_none_iff.mp (hcut p hp)
  obtain ⟨-, hline, hstarred⟩ := @readsAs_enclosed .lua ⟨"--[[", "]]"⟩ hblock indexed
    "id:\"a[1]\", note:\"-- */\"" hwritten hvalues
  exact ⟨hblock, hwritten, hvalues, hline " c = a[1] ]]", hstarred⟩

end Annotations

end ScriptFlow
