import ScriptFlow.Annotation.Printer
import ScriptFlow.Proofs.Annotation.Grammar
import ScriptFlow.Proofs.Text.CommaList

/-!
# Spellings of properties

A property has a spelling when its key is an identifier and its value is one line
without one of the two quotes; the spelling is then determined
(`spell_eq_ok_iff`).  Spellings are segments of the grammar, so joining them gives
a body that is read as the properties again (`parse_join_spelling`).
-/

namespace ScriptFlow

namespace Text

/-- A text that can stand in quotes: one line that lacks one of the quotes. -/
@[mk_iff]
structure IsQuotable (t : Text) : Prop where
  oneLine : IsOneLine t
  lacksQuote : '"' ∉ t ∨ '\'' ∉ t

instance (t : Text) : Decidable (IsQuotable t) :=
  decidable_of_iff _ (isQuotable_iff t).symm

/-- A part of a text that can stand in quotes can, too. -/
lemma IsQuotable.mono {s t : Text} (h : IsQuotable t) (hst : s ⊆ t) : IsQuotable s :=
  ⟨h.oneLine.mono hst, h.lacksQuote.imp (fun hq hc => hq (hst hc)) fun hq hc => hq (hst hc)⟩

/-- Characters of identifiers change nothing about how a text can stand in quotes. -/
lemma IsQuotable.append {s t : Text} (hs : IsQuotable s)
    (ht : ∀ c ∈ t, isIdentifierChar c = true) : IsQuotable (s ++ t) := by
  have hnot : ∀ c, isIdentifierChar c = false → c ∉ s → c ∉ s ++ t := by
    intro c hc hcs hmem
    rcases List.mem_append.mp hmem with h | h
    · exact hcs h
    · rw [ht c h] at hc
      exact Bool.noConfusion hc
  exact ⟨⟨hnot _ rfl hs.oneLine.noLineFeed, hnot _ rfl hs.oneLine.noReturn⟩,
    hs.lacksQuote.imp (hnot _ rfl) (hnot _ rfl)⟩

/-- A text that comes back from quotes and trimming as it is. -/
@[mk_iff]
structure IsPlain (t : Text) : Prop extends IsQuotable t where
  trimmed : IsTrimmed t

instance (t : Text) : Decidable (IsPlain t) :=
  decidable_of_iff _ (isPlain_iff t).symm

/-- A text that starts with no blank and goes on with characters of identifiers. -/
lemma isPlain_append {s t : Text} (hs : IsQuotable s) (hhead : ∀ c ∈ s.head?, isBlank c = false)
    (ht : ∀ c ∈ t, isIdentifierChar c = true) (hne : t ≠ []) : IsPlain (s ++ t) := by
  refine ⟨hs.append ht, ⟨fun c hc => ?_, fun c hc => ?_⟩⟩
  · cases s with
    | nil => exact isBlank_eq_false_of_isIdentifierChar (ht c (List.mem_of_mem_head? hc))
    | cons d r => exact hhead c hc
  · rw [List.getLast?_append_of_ne_nil _ hne] at hc
    exact isBlank_eq_false_of_isIdentifierChar (ht c (List.mem_of_getLast? hc))

end Text

namespace Property

open Text

/-- A property that has a spelling. -/
structure IsSpellable (p : Property) : Prop where
  key : isIdentifier p.key = true
  value : IsQuotable p.value

/-- The quote that encloses a value: a double one, unless the value holds one. -/
def enclosingQuote (value : Text) : Char :=
  if '"' ∈ value then '\'' else '"'

/-- The spelling of a property that has one. -/
def spelling (p : Property) : Text :=
  p.key ++ ':' :: enclosingQuote p.value :: p.value ++ [enclosingQuote p.value]

lemma isQuote_enclosingQuote (value : Text) : isQuote (enclosingQuote value) = true := by
  unfold enclosingQuote
  split <;> rfl

/-- The quote that encloses a value does not occur in it. -/
lemma enclosingQuote_not_mem {value : Text} (h : IsQuotable value) :
    enclosingQuote value ∉ value := by
  unfold enclosingQuote
  split
  next hdouble => exact h.lacksQuote.resolve_left fun hnot => hnot hdouble
  next hdouble => exact hdouble

/-- A property has a spelling when its key is an identifier and its value can stand
in quotes, and only then. -/
theorem spell_eq_ok_iff {p : Property} {spelled : Text} :
    spell p = .ok spelled ↔ p.IsSpellable ∧ spelled = p.spelling := by
  unfold spell
  split
  next hkey =>
    simp only [reduceCtorEq, false_iff, not_and]
    exact fun h => absurd h.key (by simpa using hkey)
  next hkey =>
    have hkey' : isIdentifier p.key = true := by simpa using hkey
    split
    next hline =>
      simp only [Bool.or_eq_true, List.contains_iff_mem] at hline
      simp only [reduceCtorEq, false_iff, not_and]
      exact fun h => absurd hline (not_or.mpr ⟨h.value.oneLine.noLineFeed,
        h.value.oneLine.noReturn⟩)
    next hline =>
      simp only [Bool.or_eq_true, List.contains_iff_mem, not_or] at hline
      have hone : IsOneLine p.value := ⟨hline.1, hline.2⟩
      split
      next hdouble =>
        have hdouble' : '"' ∉ p.value := by simpa using hdouble
        have hspelling : p.spelling = p.key ++ [':', '"'] ++ p.value ++ ['"'] := by
          simp [spelling, enclosingQuote, hdouble']
        rw [Except.ok.injEq, hspelling]
        exact ⟨fun h => ⟨⟨hkey', hone, .inl hdouble'⟩, h.symm⟩, fun h => h.2.symm⟩
      next hdouble =>
        have hdouble' : '"' ∈ p.value := by simpa using hdouble
        split
        next hsingle =>
          have hsingle' : '\'' ∉ p.value := by simpa using hsingle
          have hspelling : p.spelling = p.key ++ [':', '\''] ++ p.value ++ ['\''] := by
            simp [spelling, enclosingQuote, hdouble']
          rw [Except.ok.injEq, hspelling]
          exact ⟨fun h => ⟨⟨hkey', hone, .inr hsingle'⟩, h.symm⟩, fun h => h.2.symm⟩
        next hsingle =>
          have hsingle' : '\'' ∈ p.value := by simpa using hsingle
          simp only [reduceCtorEq, false_iff, not_and]
          exact fun h => absurd h.value.lacksQuote (by simp [hdouble', hsingle'])

/-- A property list is written when it is not empty and each property has a
spelling, and only then. -/
theorem written_eq_ok_iff {properties : List Property} {group : CommentGroup}
    {layout : AnnotationLayout} {text : Text} :
    written properties group layout = .ok text ↔
      properties ≠ [] ∧ (∀ p ∈ properties, p.IsSpellable) ∧
        text = layOut group.mark layout (properties.map spelling) := by
  unfold written
  cases properties with
  | nil => simp
  | cons first rest =>
    rw [List.isEmpty_cons, if_neg (by simp)]
    cases hspell : (first :: rest).mapM spell with
    | error e =>
      simp only [Except.map, reduceCtorEq, ne_eq, not_false_eq_true, true_and, false_iff,
        not_and]
      intro hall
      rw [mapM_eq_ok_map fun p hp => spell_eq_ok_iff.mpr ⟨hall p hp, rfl⟩] at hspell
      exact absurd hspell (by simp)
    | ok spelled =>
      have hforall := mapM_eq_ok_iff.mp hspell
      have hspellable : ∀ p ∈ first :: rest, p.IsSpellable := by
        intro p hp
        obtain ⟨i, hi, rfl⟩ := List.getElem_of_mem hp
        have hlen := hforall.length_eq
        exact (spell_eq_ok_iff.mp (hforall.get hi (hlen ▸ hi))).1
      have hspelled : spelled = (first :: rest).map spelling := by
        have hmap := mapM_eq_ok_map fun p hp => spell_eq_ok_iff.mpr ⟨hspellable p hp, rfl⟩
        rw [hmap, Except.ok.injEq] at hspell
        exact hspell.symm
      simp only [Except.map, Except.ok.injEq, hspelled]
      constructor
      · intro h
        exact ⟨by simp, hspellable, h.symm⟩
      · rintro ⟨-, -, h⟩
        exact h.symm

/-! ## Spellings as segments -/

/-- Blanks may stand in front of a segment. -/
lemma Spells.blank_append {a segment : Text} {p : Property} (ha : IsBlankText a)
    (h : Spells segment p) : Spells (a ++ segment) p := by
  cases h with
  | @intro a' b c d key spelled value ha' hb hc hd hkey hvalue =>
    rw [show a ++ (a' ++ key ++ b ++ ':' :: (c ++ spelled ++ d)) =
      (a ++ a') ++ key ++ b ++ ':' :: (c ++ spelled ++ d) by simp only [List.append_assoc]]
    exact .intro (ha.append ha') hb hc hd hkey hvalue

/-- A value in its quotes is a spelling of the value. -/
lemma spellsValue_quoted {value : Text} (h : IsQuotable value) :
    SpellsValue (enclosingQuote value :: value ++ [enclosingQuote value]) value := by
  have hnot := enclosingQuote_not_mem h
  unfold enclosingQuote at hnot ⊢
  split at hnot
  next hdouble =>
    rw [if_pos hdouble]
    exact .single hnot
  next hdouble =>
    rw [if_neg hdouble]
    exact .double hnot

/-- The spelling of a property is a segment that spells it. -/
lemma spells_spelling {p : Property} (h : p.IsSpellable) : Spells p.spelling p := by
  have hintro := Spells.intro isBlankText_nil isBlankText_nil isBlankText_nil isBlankText_nil
    h.key (spellsValue_quoted h.value)
  simpa [spelling] using hintro

/-- A spelling has no blank at its ends. -/
lemma isTrimmed_spelling {p : Property} (h : p.IsSpellable) : IsTrimmed p.spelling := by
  have hends := isTrimmed_of_ends (isTrimmed_of_isIdentifier h.key) (isIdentifier_ne_nil h.key)
    (spellsValue_quoted h.value).isTrimmed (by simp) [':']
  simpa [spelling] using hends

/-- A spelling ends in a quote. -/
lemma getLast?_spelling (p : Property) :
    p.spelling.getLast? = some (enclosingQuote p.value) := by
  rw [spelling, List.getLast?_concat]

/-- A spelling is one line. -/
lemma isOneLine_spelling {p : Property} (h : p.IsSpellable) : IsOneLine p.spelling := by
  have hkey : IsOneLine p.key :=
    ⟨not_mem_of_isIdentifier h.key (by decide), not_mem_of_isIdentifier h.key (by decide)⟩
  have hquote : IsOneLine [enclosingQuote p.value] := by
    unfold enclosingQuote
    split <;> exact ⟨by decide, by decide⟩
  have hcolon : IsOneLine [':'] := ⟨by decide, by decide⟩
  have hall := (hkey.append (hcolon.append (hquote.append h.value.oneLine))).append hquote
  simpa [spelling] using hall

/-- Spellings are read again when they are joined. -/
theorem parse_join_spelling {properties : List Property} (hne : properties ≠ [])
    (h : ∀ p ∈ properties, p.IsSpellable) :
    parse (join ", " (properties.map spelling)) = .ok properties := by
  cases properties with
  | nil => exact absurd rfl hne
  | cons first rest =>
    obtain ⟨hfirst, hrest⟩ := List.forall_mem_cons.mp h
    have htail : ∀ ps : List Property, (∀ p ∈ ps, p.IsSpellable) →
        SpellsList (ps.map fun p => ' ' :: p.spelling) ps := by
      intro ps hps
      induction ps with
      | nil => exact .nil
      | cons p ps ih =>
        obtain ⟨hp, hps⟩ := List.forall_mem_cons.mp hps
        exact .property ((spells_spelling hp).blank_append (isBlankText_replicate 1)) (ih hps)
    have hspells : SpellsList (first.spelling :: (rest.map spelling).map fun s => ' ' :: s)
        (first :: rest) := by
      rw [List.map_map]
      exact .property (spells_spelling hfirst) (htail rest hrest)
    rw [List.map_cons, join_comma_blank]
    exact parse_of_spellsList hspells
      ⟨first.spelling, by simp, (spells_spelling hfirst).not_isBlankText⟩

end Property

end ScriptFlow
