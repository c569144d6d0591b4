import ScriptFlow.Proofs.Annotation.Provenance

/-!
# Lists that can be written

Writing is refused for a list that is empty, for a key that is no identifier and for a
value with a line end or with both quotes (`Property.IsRefused`).  The grammar of property
lists has no spelling on one line for any of these, whatever quotes, blanks and commas it
is tried with.  So the lists that can be written are exactly those that can be read from a
body on one line (`exists_written_iff_exists_parse`), in every family of comments and in
either layout.
-/

namespace ScriptFlow

open Text

namespace Property

/-- What keeps a property from being written: its key is no identifier, or its value holds
a line end or both quotes. -/
def IsFaulty (p : Property) : Prop :=
  isIdentifier p.key = false ∨ ('\n' ∈ p.value ∨ '\r' ∈ p.value) ∨ ('"' ∈ p.value ∧ '\'' ∈ p.value)

/-- A list for which writing is refused: it is empty, or a property is faulty. -/
def IsRefused (properties : List Property) : Prop :=
  properties = [] ∨ ∃ p ∈ properties, p.IsFaulty

/-- A property has a spelling unless it is faulty. -/
lemma not_isSpellable_iff {p : Property} : ¬p.IsSpellable ↔ p.IsFaulty := by
  have hspellable : p.IsSpellable ↔ isIdentifier p.key = true ∧
      ('\n' ∉ p.value ∧ '\r' ∉ p.value) ∧ ('"' ∉ p.value ∨ '\'' ∉ p.value) := by
    rw [← isOneLine_iff, ← isQuotable_iff]
    exact ⟨fun h => ⟨h.key, h.value⟩, fun h => ⟨h.1, h.2⟩⟩
  rw [hspellable, IsFaulty]
  simp only [not_and_or, not_not, not_or, Bool.not_eq_true]

/-- Writing is refused for the lists that are empty or have a property without a spelling. -/
lemma isRefused_iff {properties : List Property} :
    IsRefused properties ↔ ¬(properties ≠ [] ∧ ∀ p ∈ properties, p.IsSpellable) := by
  rw [IsRefused, not_and_or, not_not]
  simp only [not_forall, exists_prop, not_isSpellable_iff]

/-- A list is written unless it is refused. -/
lemma exists_written_iff (properties : List Property) (group : CommentGroup)
    (layout : AnnotationLayout) :
    (∃ text, written properties group layout = .ok text) ↔
      properties ≠ [] ∧ ∀ p ∈ properties, p.IsSpellable := by
  constructor
  · rintro ⟨text, htext⟩
    obtain ⟨hne, hspell, -⟩ := written_eq_ok_iff.mp htext
    exact ⟨hne, hspell⟩
  · rintro ⟨hne, hspell⟩
    exact ⟨_, written_eq_ok_iff.mpr ⟨hne, hspell, rfl⟩⟩

/-- Writing fails for the lists that are refused. -/
lemma exists_error_iff (properties : List Property) (group : CommentGroup)
    (layout : AnnotationLayout) :
    (∃ error, written properties group layout = .error error) ↔ IsRefused properties := by
  rw [isRefused_iff, ← exists_written_iff properties group layout]
  cases written properties group layout with
  | ok text => simp
  | error error => simp

/-- A list is spelled on one line if it is not empty and its properties have spellings. -/
lemma exists_parse_iff {properties : List Property} :
    (∃ body, IsOneLine body ∧ parse body = .ok properties) ↔
      properties ≠ [] ∧ ∀ p ∈ properties, p.IsSpellable := by
  constructor
  · rintro ⟨body, hline, hparse⟩
    exact isSpellable_of_parse hparse hline
  · rintro ⟨hne, hspell⟩
    have hcomma : IsOneLine ", " := ⟨by decide, by decide⟩
    refine ⟨join ", " (properties.map spelling), isOneLine_join hcomma fun s hs => ?_,
      parse_join_spelling hne hspell⟩
    obtain ⟨p, hp, rfl⟩ := List.mem_map.mp hs
    exact isOneLine_spelling (hspell p hp)

/-- Exactly the lists that can be read from a body on one line can be written.  So every
annotation that was read from lines can be written again, and a list for which writing is
refused has no spelling on one line at all. -/
theorem exists_written_iff_exists_parse (properties : List Property) (group : CommentGroup)
    (layout : AnnotationLayout) :
    ((∃ text, written properties group layout = .ok text) ↔
      ∃ body, IsOneLine body ∧ parse body = .ok properties) ∧
    (∀ marks lines line, (∀ l ∈ lines, IsOneLine l) →
      .ok ⟨line, properties⟩ ∈ Annotations.ofLines marks lines →
        ∃ text, written properties group layout = .ok text) ∧
    ((∃ error, written properties group layout = .error error) ↔ IsRefused properties) ∧
    (IsRefused properties → ∀ body, IsOneLine body → parse body ≠ .ok properties) := by
  have hwritten := exists_written_iff properties group layout
  refine ⟨hwritten.trans exists_parse_iff.symm, ?_, exists_error_iff properties group layout, ?_⟩
  · intro marks lines line hlines hfound
    apply hwritten.mpr
    exact Annotations.isSpellable_of_ofLines hlines hfound
  · intro hrefused body hline hparse
    have hspellable := exists_parse_iff.mp ⟨body, hline, hparse⟩
    exact isRefused_iff.mp hrefused hspellable

/-- An annotation whose value holds a comma, a colon and double quotes. -/
def quotingLines : List Text :=
  ["x <- 1", "# put note:'say: \"hi\", then go', ,"]

/-- The properties of this annotation. -/
def quotingProperties : List Property :=
  [⟨"note", "say: \"hi\", then go"⟩]

/-- A property whose value holds both quotes. -/
def bothQuotes : List Property :=
  [⟨"note", "it's \"new\""⟩]

theorem exists_written_iff_exists_parse_quoting :
    .ok ⟨2, quotingProperties⟩ ∈ Annotations.ofLines { group := .hash } quotingLines ∧
      (∃ text, written quotingProperties .slash .multiline = .ok text) ∧
      IsRefused bothQuotes ∧ ∀ body, IsOneLine body → parse body ≠ .ok bothQuotes := by
  have hread : .ok ⟨2, quotingProperties⟩ ∈
      Annotations.ofLines { group := .hash } quotingLines := by decide
  have hlines : ∀ line ∈ quotingLines, IsOneLine line := by decide
  have hrefused : IsRefused bothQuotes :=
    .inr ⟨_, List.mem_cons_self, .inr (.inr ⟨by decide, by decide⟩)⟩
  exact ⟨hread,
    (exists_written_iff_exists_parse quotingProperties .slash .multiline).2.1 _ _ _ hlines hread,
    hrefused, (exists_written_iff_exists_parse bothQuotes .hash .singleLine).2.2.2 hrefused⟩

end Property

end ScriptFlow
