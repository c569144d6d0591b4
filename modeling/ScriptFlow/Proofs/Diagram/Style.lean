import ScriptFlow.Proofs.Diagram.Grammar
import ScriptFlow.Proofs.Results

/-!
# Colors and styles that are read

A color is read from a text exactly if the text spells it when it is trimmed
(`Color.parse_eq_ok_iff_text`), and a style exactly if its three texts spell its colors
(`Style.parse_eq_ok_iff_isOfTexts`, `Style.exists_parse_eq_error_iff`).  What was read spells
colors: the types hold nothing else (`Style.isOfColors`).
-/

namespace ScriptFlow

open Text

/-- A text that spells a color is `#` and three or six hexadecimal digits. -/
def IsColorText (t : Text) : Prop :=
  ∃ digits, t = '#' :: digits ∧ (digits.length = 3 ∨ digits.length = 6) ∧
    ∀ c ∈ digits, isHexDigit c = true

lemma isColor_eq_true_iff {t : Text} : isColor t = true ↔ IsColorText t := by
  constructor
  · intro h
    unfold isColor at h
    split at h
    next digits =>
      rw [Bool.and_eq_true, Bool.or_eq_true, beq_iff_eq, beq_iff_eq, List.all_eq_true] at h
      exact ⟨digits, rfl, h⟩
    next => exact Bool.noConfusion h
  · rintro ⟨digits, rfl, hlength, hdigits⟩
    simpa [isColor, hlength] using hdigits

instance (t : Text) : Decidable (IsColorText t) :=
  decidable_of_iff (isColor t = true) isColor_eq_true_iff

namespace Color

variable {kind : NodeKind} {t : Text}

/-- The text of a color spells it. -/
lemma isColorText_text (color : Color) : IsColorText color.text :=
  isColor_eq_true_iff.mp color.isColor

/-- The text of a color has no blank to trim. -/
lemma trim_text (color : Color) : trim color.text = color.text :=
  (LineForm.isTrimmed_of_isColor color.isColor).1.trim_eq

lemma ext_text {color other : Color} (h : color.text = other.text) : color = other := by
  cases color
  cases other
  congr

/-- A color is read from its text with blanks around. -/
theorem parse_eq_ok_iff_text {color : Color} :
    parse kind t = .ok color ↔ color.text = trim t := by
  simp only [parse]
  split
  next h =>
    rw [Except.ok.injEq]
    exact ⟨fun heq => congrArg text heq.symm, fun htext => ext_text htext.symm⟩
  next h =>
    constructor
    · intro heq
      cases heq
    · intro htext
      exact absurd (htext ▸ color.isColor) h

/-- The texts of colors are those that spell one. -/
lemma exists_text_eq_iff : (∃ color : Color, color.text = t) ↔ IsColorText t := by
  constructor
  · rintro ⟨color, rfl⟩
    exact color.isColorText_text
  · intro h
    exact ⟨⟨t, isColor_eq_true_iff.mpr h⟩, rfl⟩

end Color

namespace Style

variable {kind : NodeKind} {fill stroke color : Text}

/-- The three colors are `#` and three or six hexadecimal digits each. -/
structure IsOfColors (style : Style) : Prop where
  fill : IsColorText style.fill.text
  stroke : IsColorText style.stroke.text
  color : IsColorText style.color.text

lemma isOfColors (style : Style) : style.IsOfColors where
  fill := style.fill.isColorText_text
  stroke := style.stroke.isColorText_text
  color := style.color.isColorText_text

/-- The three colors are texts without the blanks around them. -/
structure IsOfTexts (style : Style) (fill stroke color : Text) : Prop where
  fill : style.fill.text = trim fill
  stroke : style.stroke.text = trim stroke
  color : style.color.text = trim color

/-- A style is read from the texts of its colors with blanks around. -/
theorem parse_eq_ok_iff_isOfTexts {style : Style} :
    parse kind fill stroke color = .ok style ↔ style.IsOfTexts fill stroke color := by
  simp only [parse, bind_eq_ok_iff, Color.parse_eq_ok_iff_text]
  constructor
  · rintro ⟨f, hfill, s, hstroke, c, hcolor, hstyle⟩
    obtain rfl := Except.ok.inj hstyle
    exact ⟨hfill, hstroke, hcolor⟩
  · rintro ⟨hfill, hstroke, hcolor⟩
    exact ⟨style.fill, hfill, style.stroke, hstroke, style.color, hcolor, rfl⟩

/-- There is a style for three texts if each spells a color when it is trimmed. -/
lemma exists_isOfTexts_iff :
    (∃ style : Style, style.IsOfTexts fill stroke color) ↔
      ∀ t ∈ [fill, stroke, color], IsColorText (trim t) := by
  simp only [List.forall_mem_cons, ← Color.exists_text_eq_iff]
  constructor
  · rintro ⟨style, hfill, hstroke, hcolor⟩
    exact ⟨⟨_, hfill⟩, ⟨_, hstroke⟩, ⟨_, hcolor⟩, List.forall_mem_nil _⟩
  · rintro ⟨⟨f, hfill⟩, ⟨s, hstroke⟩, ⟨c, hcolor⟩, -⟩
    exact ⟨⟨f, s, c⟩, hfill, hstroke, hcolor⟩

/-- Three texts are refused if one of them spells no color when it is trimmed. -/
theorem exists_parse_eq_error_iff (kind : NodeKind) :
    (∃ e, parse kind fill stroke color = .error e) ↔
      ∃ t ∈ [fill, stroke, color], ¬IsColorText (trim t) := by
  rw [exists_eq_error_iff]
  simp only [parse_eq_ok_iff_isOfTexts, exists_isOfTexts_iff, not_forall, exists_prop]

end Style

end ScriptFlow
