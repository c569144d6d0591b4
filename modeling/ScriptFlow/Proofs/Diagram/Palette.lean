import Mathlib.Data.List.ReduceOption
import ScriptFlow.Diagram.Palette
import ScriptFlow.Proofs.Diagram.Style
import ScriptFlow.Proofs.Json.ReadBack
import ScriptFlow.Proofs.KeyMap
import ScriptFlow.Proofs.Table.Json
import ScriptFlow.Proofs.Text.Utf8

/-!
# What decides the styles of a palette

A palette is reached from a theme, or from JSON text on top of a theme, by steps that each
replace the style of one kind of nodes (`Palette.Reached`).  The style of a kind is then
decided by the last step for this kind, else by an entry, else by the theme
(`Palette.Decided`).

Several keys may name one kind, as letter case and blanks around do not matter, and one key
may be repeated.  Of a repeated key only the last entry counts, and of the entries that count
for a kind the one with the greatest key decides as a whole: a color that it does not give is
that of the theme and not that of another entry.  A step of the reading sets the style of one
kind (`Palette.style_of_apply`), so behind entries in a row it is the last one for a kind
that decides (`Palette.style_of_foldlM_apply`); since the entries that count are applied in
the order of their keys, this is the one with the greatest key.

What is refused, and that nothing else is, is said step by step too: a step fails on texts
that spell no colors (`Palette.exists_withColors_eq_error_iff`), and the reading on text that
describes no entries or on an entry that counts (`Palette.exists_ofJson_eq_error_iff`).
-/

namespace ScriptFlow

open Text

/-- A key names a kind in any letter case and with blanks around. -/
def NodeKind.IsNamedBy (kind : NodeKind) (key : Text) : Prop :=
  toLower (trim key) = kind.tag

instance (kind : NodeKind) (key : Text) : Decidable (kind.IsNamedBy key) :=
  inferInstanceAs (Decidable (toLower (trim key) = kind.tag))

lemma NodeKind.ofName?_eq_some_iff {kind : NodeKind} {key : Text} :
    ofName? key = some kind ↔ kind.IsNamedBy key := by
  constructor
  · intro h
    have hfound : all.find? (fun kind => kind.tag == toLower (trim key)) = some kind := h
    have hsame := List.find?_some hfound
    exact (beq_iff_eq.mp hsame).symm
  · intro h
    rw [ofName?, h, ofTag?_tag]

/-- A key names one kind only. -/
lemma NodeKind.IsNamedBy.unique {kind other : NodeKind} {key : Text} (h : kind.IsNamedBy key)
    (hother : other.IsNamedBy key) : kind = other := by
  rw [← ofName?_eq_some_iff] at h hother
  exact Option.some.inj (h.symm.trans hother)

lemma NodeKind.parse_eq_ok_iff_isNamedBy {kind : NodeKind} {key : Text} :
    parse key = .ok kind ↔ kind.IsNamedBy key := by
  rw [← ofName?_eq_some_iff, parse]
  cases ofName? key <;> simp

namespace StyleOverride

/-- The colors that are given. -/
def texts (given : StyleOverride) : List Text :=
  [given.fill, given.stroke, given.color].reduceOption

lemma mem_texts_iff {given : StyleOverride} {t : Text} :
    t ∈ given.texts ↔ given.fill = some t ∨ given.stroke = some t ∨ given.color = some t := by
  simp [texts, List.reduceOption_mem_iff, eq_comm]

end StyleOverride

namespace Style

/-- A style has the colors that are given, trimmed, and those of another style where none is
given. -/
structure Overrides (style : Style) (given : StyleOverride) (other : Style) : Prop where
  fill : style.fill.text = (given.fill.map trim).getD other.fill.text
  stroke : style.stroke.text = (given.stroke.map trim).getD other.stroke.text
  color : style.color.text = (given.color.map trim).getD other.color.text

/-- A color of another style is read as it is. -/
lemma trim_getD_text (given : Option Text) (color : Color) :
    trim (given.getD color.text) = (given.map trim).getD color.text := by
  cases given with
  | none => exact color.trim_text
  | some t => rfl

lemma isOfTexts_getD_iff {style other : Style} {given : StyleOverride} :
    style.IsOfTexts (given.fill.getD other.fill.text) (given.stroke.getD other.stroke.text)
      (given.color.getD other.color.text) ↔ style.Overrides given other := by
  constructor
  · rintro ⟨hfill, hstroke, hcolor⟩
    rw [trim_getD_text] at hfill hstroke hcolor
    exact ⟨hfill, hstroke, hcolor⟩
  · rintro ⟨hfill, hstroke, hcolor⟩
    rw [← trim_getD_text] at hfill hstroke hcolor
    exact ⟨hfill, hstroke, hcolor⟩

/-- What is given or else the text of a color spells a color if what is given does. -/
lemma isColorText_trim_getD_iff (given : Option Text) (color : Color) :
    IsColorText (trim (given.getD color.text)) ↔
      ∀ t, given = some t → IsColorText (trim t) := by
  cases given with
  | none => simpa [color.trim_text] using color.isColorText_text
  | some t => simp

/-- A style can be overridden if every color that is given is one. -/
lemma exists_overrides_iff (given : StyleOverride) (other : Style) :
    (∃ style : Style, style.Overrides given other) ↔
      ∀ t ∈ given.texts, IsColorText (trim t) := by
  simp only [← isOfTexts_getD_iff, exists_isOfTexts_iff, List.forall_mem_cons,
    isColorText_trim_getD_iff, StyleOverride.mem_texts_iff, or_imp, forall_and,
    List.not_mem_nil, false_imp_iff, implies_true, and_true]

end Style

namespace Palette

variable {wording : Wording} {base : Theme} {json : Text} {palette : Palette}

/-! ## What JSON text says -/

/-- What a value says about a color: `null` says nothing, and a string its text. -/
inductive GivesColor : Json → Option Text → Prop
  | null : GivesColor .null none
  | str (t : Text) : GivesColor (.str t) (some t)

/-- What the members of an entry say about a color, whose key stands there once at most. -/
inductive GivesMember (key : Text) (members : List (Text × Json)) : Option Text → Prop
  | absent (h : Json.valuesOf key members = []) : GivesMember key members none
  | once {value : Json} {given : Option Text} (h : Json.valuesOf key members = [value])
      (hvalue : GivesColor value given) : GivesMember key members given

/-- An entry is an object, of which other members do not matter, or an array of the three
colors. -/
inductive IsEntry : Json → StyleOverride → Prop
  | object {members : List (Text × Json)} {given : StyleOverride}
      (hfill : GivesMember "fill" members given.fill)
      (hstroke : GivesMember "stroke" members given.stroke)
      (hcolor : GivesMember "color" members given.color) : IsEntry (.obj members) given
  | array {fill stroke color : Json} {given : StyleOverride} (hfill : GivesColor fill given.fill)
      (hstroke : GivesColor stroke given.stroke) (hcolor : GivesColor color given.color) :
      IsEntry (.arr [fill, stroke, color]) given

/-- The text of an object whose values are entries, here in the order written. -/
def Describes (json : Text) (entries : List (Text × StyleOverride)) : Prop :=
  ∃ members, Json.parse? json = some (.obj members) ∧
    List.Forall₂ (fun member entry => member.1 = entry.1 ∧ IsEntry member.2 entry.2)
      members entries

lemma orNull?_text?_eq_some_iff {value : Json} {given : Option Text} :
    Json.orNull? Json.text? value = some given ↔ GivesColor value given := by
  constructor
  · intro h
    cases value <;> cases h <;> constructor
  · rintro (_ | t) <;> rfl

lemma readColor?_eq_some_iff {key : Text} {members : List (Text × Json)} {given : Option Text} :
    readColor? key members = some given ↔ GivesMember key members given := by
  constructor
  · intro h
    unfold readColor? at h
    split at h
    next hvalues =>
      obtain rfl := Option.some.inj h
      exact .absent hvalues
    next value hvalues => exact .once hvalues (orNull?_text?_eq_some_iff.mp h)
    next => cases h
  · rintro (hvalues | ⟨hvalues, hvalue⟩)
    · rw [readColor?, hvalues]
    · rw [readColor?, hvalues]
      exact orNull?_text?_eq_some_iff.mpr hvalue

/-- The entries are what is read. -/
lemma readOverride?_eq_some_iff {value : Json} {given : StyleOverride} :
    readOverride? value = some given ↔ IsEntry value given := by
  constructor
  · intro h
    unfold readOverride? at h
    split at h
    next members =>
      simp only [Option.bind_eq_bind, Option.bind_eq_some_iff, readColor?_eq_some_iff] at h
      obtain ⟨fill, hfill, stroke, hstroke, color, hcolor, hgiven⟩ := h
      obtain rfl := Option.some.inj hgiven
      exact .object hfill hstroke hcolor
    next f s c =>
      simp only [Option.bind_eq_bind, Option.bind_eq_some_iff, orNull?_text?_eq_some_iff] at h
      obtain ⟨fill, hfill, stroke, hstroke, color, hcolor, hgiven⟩ := h
      obtain rfl := Option.some.inj hgiven
      exact .array hfill hstroke hcolor
    next => cases h
  · rintro (⟨hfill, hstroke, hcolor⟩ | ⟨hfill, hstroke, hcolor⟩)
    · rw [← readColor?_eq_some_iff] at hfill hstroke hcolor
      simp only [readOverride?, hfill, hstroke, hcolor, Option.bind_eq_bind, Option.bind_some]
    · rw [← orNull?_text?_eq_some_iff] at hfill hstroke hcolor
      simp only [readOverride?, hfill, hstroke, hcolor, Option.bind_eq_bind, Option.bind_some]

/-- An object whose values are entries is read as the map of these entries. -/
lemma readEntries?_eq_some_iff {value : Json} {map : KeyMap StyleOverride} :
    readEntries? value = some map ↔ ∃ members entries, value = .obj members ∧
      List.Forall₂ (fun member entry => member.1 = entry.1 ∧ IsEntry member.2 entry.2)
        members entries ∧ KeyMap.ofList entries = map := by
  have hobject : ∀ members, value.members? = some members ↔ value = .obj members := by
    cases value <;> simp [Json.members?]
  have hmember : ∀ (member : Text × Json) (entry : Text × StyleOverride),
      (readOverride? member.2).map (fun given => (member.1, given)) = some entry ↔
        member.1 = entry.1 ∧ IsEntry member.2 entry.2 := by
    rintro ⟨key, value⟩ ⟨key', given⟩
    simp only [Option.map_eq_some_iff, readOverride?_eq_some_iff, Prod.mk.injEq]
    constructor
    · rintro ⟨o, ho, rfl, rfl⟩
      exact ⟨rfl, ho⟩
    · rintro ⟨rfl, hgiven⟩
      exact ⟨given, hgiven, rfl, rfl⟩
  simp only [readEntries?, Option.bind_eq_some_iff, Option.map_eq_some_iff, mapM_eq_some_iff,
    hobject, hmember, exists_and_left]

/-- Text that describes entries is read step by step from their map. -/
lemma ofJson_of_describes {entries : List (Text × StyleOverride)} (h : Describes json entries) :
    ofJson wording base json = (KeyMap.ofList entries).toList.foldlM apply { base } := by
  obtain ⟨members, hparse, hentries⟩ := h
  have hread : readEntries? (.obj members) = some (KeyMap.ofList entries) :=
    readEntries?_eq_some_iff.mpr ⟨members, entries, rfl, hentries, rfl⟩
  rw [ofJson, hparse, Option.bind_some, hread]

/-- Text that describes no entries is refused. -/
lemma ofJson_of_not_describes (h : ¬∃ entries, Describes json entries) :
    ofJson wording base json = .error (.invalidPalette (wording.palette json)) := by
  have hread : (Json.parse? json).bind readEntries? = none := by
    rw [Option.eq_none_iff_forall_ne_some]
    intro map hmap
    obtain ⟨value, hparse, hvalue⟩ := Option.bind_eq_some_iff.mp hmap
    obtain ⟨members, entries, rfl, hentries, -⟩ := readEntries?_eq_some_iff.mp hvalue
    exact h ⟨entries, members, hparse, hentries⟩
  rw [ofJson, hread]

/-! ## Steps -/

section Steps

variable {kind : NodeKind} {fill stroke color : Text} {result : Palette}
  {entry : Text × StyleOverride}

/-- The style of one kind is replaced by the colors that texts spell. -/
lemma withColors_eq_ok_iff :
    palette.withColors kind fill stroke color = .ok result ↔
      ∃ style : Style, style.IsOfTexts fill stroke color ∧
        palette.withStyle kind style = result := by
  simp only [withColors, map_eq_ok_iff, Style.parse_eq_ok_iff_isOfTexts]

/-- A step is refused if one of its texts spells no color when it is trimmed. -/
theorem exists_withColors_eq_error_iff :
    (∃ e, palette.withColors kind fill stroke color = .error e) ↔
      ∃ t ∈ [fill, stroke, color], ¬IsColorText (trim t) := by
  rw [← Style.exists_parse_eq_error_iff kind, exists_eq_error_iff, exists_eq_error_iff]
  simp only [withColors, map_eq_ok_iff, exists_comm, exists_and_left, exists_eq', and_true]

/-- An entry replaces the style of the kind that its key names. -/
lemma apply_eq_ok_iff :
    palette.apply entry = .ok result ↔ ∃ kind : NodeKind, kind.IsNamedBy entry.1 ∧
      ∃ style : Style, style.Overrides entry.2 (palette.base.style kind) ∧
        palette.withStyle kind style = result := by
  simp only [apply, bind_eq_ok_iff, NodeKind.parse_eq_ok_iff_isNamedBy, withColors_eq_ok_iff,
    Style.isOfTexts_getD_iff]

lemma base_of_apply (h : palette.apply entry = .ok result) : result.base = palette.base := by
  obtain ⟨kind, -, style, -, rfl⟩ := apply_eq_ok_iff.mp h
  rfl

/-- An entry sets the style of the kind that its key names and leaves the others alone. -/
lemma style_of_apply (h : palette.apply entry = .ok result) (kind : NodeKind) :
    if kind.IsNamedBy entry.1 then
      (result.style kind).Overrides entry.2 (palette.base.style kind)
    else result.style kind = palette.style kind := by
  obtain ⟨named, hnamed, style, hstyle, rfl⟩ := apply_eq_ok_iff.mp h
  rw [style_withStyle]
  split
  next hkind =>
    obtain rfl := hnamed.unique hkind
    rwa [if_pos rfl]
  next hkind =>
    refine if_neg ?_
    rintro rfl
    exact hkind hnamed

/-- An entry is faulty if its key names no kind or if it gives a text that spells no color. -/
def IsFaulty (entry : Text × StyleOverride) : Prop :=
  (∀ kind : NodeKind, ¬kind.IsNamedBy entry.1) ∨ ∃ t ∈ entry.2.texts, ¬IsColorText (trim t)

/-- Faulty entries are refused, and no others. -/
lemma exists_apply_eq_error_iff :
    (∃ e, palette.apply entry = .error e) ↔ IsFaulty entry := by
  have hok : (∃ result, palette.apply entry = .ok result) ↔
      (∃ kind : NodeKind, kind.IsNamedBy entry.1) ∧ ∀ t ∈ entry.2.texts, IsColorText (trim t) := by
    simp only [apply_eq_ok_iff]
    constructor
    · rintro ⟨-, kind, hkind, style, hstyle, rfl⟩
      exact ⟨⟨kind, hkind⟩, (Style.exists_overrides_iff _ _).mp ⟨style, hstyle⟩⟩
    · rintro ⟨⟨kind, hkind⟩, htexts⟩
      obtain ⟨style, hstyle⟩ :=
        (Style.exists_overrides_iff entry.2 (palette.base.style kind)).mpr htexts
      exact ⟨_, kind, hkind, style, hstyle, rfl⟩
  rw [exists_eq_error_iff, hok, not_and_or]
  simp only [IsFaulty, not_exists, not_forall, exists_prop]

/-- Behind entries in a row the last one for a kind decides its style. -/
lemma style_of_foldlM_apply {entries : List (Text × StyleOverride)}
    (h : entries.foldlM apply palette = .ok result) (kind : NodeKind) :
    ((∀ e ∈ entries, ¬kind.IsNamedBy e.1) ∧ result.style kind = palette.style kind) ∨
      ∃ before e after, entries = before ++ e :: after ∧ kind.IsNamedBy e.1 ∧
        (∀ later ∈ after, ¬kind.IsNamedBy later.1) ∧
        (result.style kind).Overrides e.2 (palette.base.style kind) := by
  induction entries generalizing palette with
  | nil =>
    obtain rfl := Except.ok.inj h
    exact .inl ⟨List.forall_mem_nil _, rfl⟩
  | cons entry rest ih =>
    obtain ⟨next, hnext, hrest⟩ := bind_eq_ok_iff.mp (List.foldlM_cons.symm.trans h)
    have hstyle := style_of_apply hnext kind
    rcases ih hrest with ⟨hnone, hsame⟩ | ⟨before, e, after, rfl, hkey, hlast, hdecides⟩
    · rw [← hsame] at hstyle
      split at hstyle
      next hkey => exact .inr ⟨[], entry, rest, rfl, hkey, hnone, hstyle⟩
      next hkey => exact .inl ⟨List.forall_mem_cons.mpr ⟨hkey, hnone⟩, hstyle⟩
    · -- The theme below stays the same, whatever was set before the entry that decides.
      rw [base_of_apply hnext] at hdecides
      exact .inr ⟨entry :: before, e, after, rfl, hkey, hlast, hdecides⟩

end Steps

/-! ## Runs -/

/-- A step that replaces the style of one kind. -/
structure Recoloring where
  kind : NodeKind
  fill : Text
  stroke : Text
  color : Text

/-- The palettes on top of a theme, with the entries of the JSON text that they were read
from and the steps since then. -/
inductive Reached (base : Theme) :
    List (Text × StyleOverride) → List Recoloring → Palette → Prop
  | plain : Reached base [] [] { base }
  | read {wording : Wording} {json : Text} {entries : List (Text × StyleOverride)}
      {palette : Palette} (hjson : Describes json entries)
      (hread : ofJson wording base json = .ok palette) : Reached base entries [] palette
  | recolored {entries : List (Text × StyleOverride)} {steps : List Recoloring}
      {palette result : Palette} (step : Recoloring) (h : Reached base entries steps palette)
      (hstep : palette.withColors step.kind step.fill step.stroke step.color = .ok result) :
      Reached base entries (steps ++ [step]) result

/-- The style that is decided for a kind by the last step for it, or else by the entry with
the greatest key that names it, or else by the theme. -/
inductive Decided (base : Theme) (entries : List (Text × StyleOverride))
    (steps : List Recoloring) (kind : NodeKind) : Style → Prop
  | byStep {before after : List Recoloring} {step : Recoloring} {style : Style}
      (hsteps : steps = before ++ step :: after) (hkind : step.kind = kind)
      (hlast : ∀ later ∈ after, later.kind ≠ kind)
      (hstyle : style.IsOfTexts step.fill step.stroke step.color) :
      Decided base entries steps kind style
  | byEntry {entry : Text × StyleOverride} {style : Style}
      (hsteps : ∀ step ∈ steps, step.kind ≠ kind) (hentry : KeyMap.IsLastOfKey entries entry)
      (hkey : kind.IsNamedBy entry.1)
      (hgreatest : ∀ other ∈ entries, kind.IsNamedBy other.1 →
        other.1 = entry.1 ∨ utf8 other.1 < utf8 entry.1)
      (hstyle : style.Overrides entry.2 (base.style kind)) :
      Decided base entries steps kind style
  | byTheme (hsteps : ∀ step ∈ steps, step.kind ≠ kind)
      (hentries : ∀ entry ∈ entries, ¬kind.IsNamedBy entry.1) :
      Decided base entries steps kind (base.style kind)

section Runs

variable {entries : List (Text × StyleOverride)} {steps : List Recoloring} {kind : NodeKind}

/-- A step for another kind changes nothing of what is decided. -/
lemma Decided.concat {style : Style} (h : Decided base entries steps kind style)
    {step : Recoloring} (hkind : step.kind ≠ kind) :
    Decided base entries (steps ++ [step]) kind style := by
  have hconcat : (∀ step ∈ steps, step.kind ≠ kind) →
      ∀ later ∈ steps ++ [step], later.kind ≠ kind := fun hsteps =>
    List.forall_mem_append.mpr ⟨hsteps, List.forall_mem_singleton.mpr hkind⟩
  cases h with
  | @byStep before after last style hsteps hlastKind hlast hstyle =>
    have hsplit : steps ++ [step] = before ++ last :: (after ++ [step]) := by
      rw [hsteps, List.append_assoc, List.cons_append]
    have hbehind : ∀ later ∈ after ++ [step], later.kind ≠ kind :=
      List.forall_mem_append.mpr ⟨hlast, List.forall_mem_singleton.mpr hkind⟩
    exact .byStep hsplit hlastKind hbehind hstyle
  | byEntry hsteps hentry hkey hgreatest hstyle =>
    exact .byEntry (hconcat hsteps) hentry hkey hgreatest hstyle
  | byTheme hsteps hentries => exact .byTheme (hconcat hsteps) hentries

/-- The entries that count are applied in the order of their keys, so the greatest one for a
kind is the last. -/
lemma decided_of_ofJson (hjson : Describes json entries)
    (hread : ofJson wording base json = .ok palette) (kind : NodeKind) :
    Decided base entries [] kind (palette.style kind) := by
  rw [ofJson_of_describes hjson] at hread
  -- Entries that do not count share their keys with one that does.
  have hcounts : ∀ other ∈ entries, ∃ last ∈ (KeyMap.ofList entries).toList,
      last.1 = other.1 := by
    intro other hother
    obtain ⟨last, hlast, hsame⟩ := KeyMap.exists_isLastOfKey hother
    exact ⟨last, KeyMap.mem_toList_ofList_iff.mpr hlast, hsame⟩
  rcases style_of_foldlM_apply hread kind with
    ⟨hnone, hsame⟩ | ⟨before, e, after, hsplit, hkey, hlast, hdecides⟩
  · have hplain : palette.style kind = base.style kind := hsame
    rw [hplain]
    refine .byTheme (List.forall_mem_nil _) fun other hother hkey => ?_
    obtain ⟨last, hlast, heq⟩ := hcounts other hother
    exact hnone last hlast (heq ▸ hkey)
  · have hentry : KeyMap.IsLastOfKey entries e := by
      rw [← KeyMap.mem_toList_ofList_iff, hsplit]
      exact List.mem_append_right before List.mem_cons_self
    have hsorted : (before ++ e :: after).Pairwise fun a b => a.1 < b.1 :=
      hsplit ▸ (KeyMap.ofList entries).sorted
    refine .byEntry (List.forall_mem_nil _) hentry hkey
      (fun other hother hother' => ?_) hdecides
    obtain ⟨counted, hcounted, heq⟩ := hcounts other hother
    rw [hsplit] at hcounted
    rw [← heq] at hother' ⊢
    rcases List.mem_append.mp hcounted with hbefore | hbehind
    · exact .inr (utf8_lt_utf8_iff.mpr
        ((List.pairwise_append.mp hsorted).2.2 counted hbefore e List.mem_cons_self))
    · rcases List.mem_cons.mp hbehind with rfl | hafter
      · exact .inl rfl
      · exact absurd hother' (hlast counted hafter)

/-- What is decided follows a palette through every run. -/
lemma Reached.decided (h : Reached base entries steps palette) (kind : NodeKind) :
    Decided base entries steps kind (palette.style kind) := by
  induction h with
  | plain =>
    exact .byTheme (List.forall_mem_nil _) (List.forall_mem_nil _)
  | read hjson hread => exact decided_of_ofJson hjson hread kind
  | recolored step _ hstep ih =>
    obtain ⟨style, hstyle, rfl⟩ := withColors_eq_ok_iff.mp hstep
    rw [style_withStyle]
    split
    next hkind =>
      exact .byStep rfl hkind (List.forall_mem_nil _) hstyle
    next hkind => exact ih.concat hkind

/-- JSON text is refused if it describes no entries or if an entry that counts is faulty. -/
theorem exists_ofJson_eq_error_iff :
    (∃ e, ofJson wording base json = .error e) ↔ (¬∃ entries, Describes json entries) ∨
      ∃ entries, Describes json entries ∧
        ∃ entry, KeyMap.IsLastOfKey entries entry ∧ IsFaulty entry := by
  have hcounts : ∀ entries, Describes json entries → ((∃ e, ofJson wording base json = .error e) ↔
      ∃ entry, KeyMap.IsLastOfKey entries entry ∧ IsFaulty entry) := by
    intro entries hjson
    have hstep : ∀ (palette : Palette) (entry : Text × StyleOverride),
        (∃ e, palette.apply entry = .error e) ↔ IsFaulty entry :=
      fun palette entry => exists_apply_eq_error_iff
    rw [ofJson_of_describes hjson, exists_foldlM_eq_error_iff hstep]
    simp only [KeyMap.mem_toList_ofList_iff]
  constructor
  · intro herror
    by_cases hjson : ∃ entries, Describes json entries
    · obtain ⟨entries, hentries⟩ := hjson
      exact .inr ⟨entries, hentries, (hcounts entries hentries).mp herror⟩
    · exact .inl hjson
  · rintro (hnone | ⟨entries, hentries, hfaulty⟩)
    · exact ⟨_, ofJson_of_not_describes hnone⟩
    · exact (hcounts entries hentries).mpr hfaulty

/-- Every style of a palette that is reached consists of colors and is decided by the last step
for its kind, else by the greatest entry, else by the theme.  A step is refused if one of its
texts spells no color, and JSON text if it describes no entries or if an entry that counts is
faulty; nothing else is refused. -/
theorem decided_style_and_refused_iff :
    (∀ {base : Theme} {entries : List (Text × StyleOverride)} {steps : List Recoloring}
        {palette : Palette}, Reached base entries steps palette → ∀ kind : NodeKind,
        (palette.style kind).IsOfColors ∧
          Decided base entries steps kind (palette.style kind)) ∧
    (∀ (palette : Palette) (kind : NodeKind) (fill stroke color : Text),
        (∃ e, palette.withColors kind fill stroke color = .error e) ↔
          ∃ t ∈ [fill, stroke, color], ¬IsColorText (trim t)) ∧
    ∀ (wording : Wording) (base : Theme) (json : Text),
      (∃ e, ofJson wording base json = .error e) ↔ (¬∃ entries, Describes json entries) ∨
        ∃ entries, Describes json entries ∧
          ∃ entry, KeyMap.IsLastOfKey entries entry ∧ IsFaulty entry :=
  ⟨fun hreached kind => ⟨Style.isOfColors _, hreached.decided kind⟩,
    fun _ _ _ _ _ => exists_withColors_eq_error_iff, fun _ _ _ => exists_ofJson_eq_error_iff⟩

/-- Two spellings of one kind, and an entry that is an array. -/
def spellingsJson : Text :=
  "\x7b\"INPUT\": \x7b\"fill\": \"#111\"\x7d, \"input\": \x7b\"stroke\": \" #222 \"\x7d, " ++
    "\"end\": [\"#abc\", null, \"#ABCDEF\"]\x7d"

/-- The entries of `spellingsJson`. -/
def spellingsEntries : List (Text × StyleOverride) :=
  [("INPUT", ⟨some "#111", none, none⟩), ("input", ⟨none, some " #222 ", none⟩),
    ("end", ⟨some "#abc", none, some "#ABCDEF"⟩)]

lemma describes_spellingsJson : Describes spellingsJson spellingsEntries := by
  have hexact : Json.IsExact (.obj [("INPUT", .obj [("fill", .str "#111")]),
      ("input", .obj [("stroke", .str " #222 ")]),
      ("end", .arr [.str "#abc", .null, .str "#ABCDEF"])]) := by
    refine .obj (List.forall_mem_cons.mpr ⟨.obj ?_, List.forall_mem_cons.mpr ⟨.obj ?_, ?_⟩⟩)
    · exact List.forall_mem_singleton.mpr (.str _)
    · exact List.forall_mem_singleton.mpr (.str _)
    · refine List.forall_mem_singleton.mpr (.arr (List.forall_mem_cons.mpr ⟨.str _, ?_⟩))
      exact List.forall_mem_cons.mpr ⟨.null, List.forall_mem_singleton.mpr (.str _)⟩
  refine ⟨_, Json.parse?_of_ofText? hexact (by decide +kernel), .cons ⟨rfl, ?_⟩
    (.cons ⟨rfl, ?_⟩ (.cons ⟨rfl, ?_⟩ .nil))⟩
  · exact .object (.once rfl (.str _)) (.absent rfl) (.absent rfl)
  · exact .object (.absent rfl) (.once rfl (.str _)) (.absent rfl)
  · exact .array (.str _) .null (.str _)

/-- A step for another kind than those of `spellingsEntries`. -/
def processStep : Recoloring :=
  ⟨.process, "#fff", " #00f", "#123"⟩

/-- The fill color of inputs is that of the theme again, as the greater key does not give it. -/
def spellingsPalette : Palette where
  base := .light
  overrides :=
    [(.process, ⟨.of "#fff", .of "#00f", .of "#123"⟩),
      (.input, { Theme.light.style .input with stroke := .of "#222" }),
      (.stop, { Theme.light.style .stop with fill := .of "#abc", color := .of "#ABCDEF" })]

theorem decided_style_spellings :
    Reached .light spellingsEntries [processStep] spellingsPalette ∧
      ∀ kind : NodeKind, (spellingsPalette.style kind).IsOfColors ∧
        Decided .light spellingsEntries [processStep] kind (spellingsPalette.style kind) := by
  have hread : ofJson ⟨id, id⟩ .light spellingsJson =
      .ok { spellingsPalette with overrides := spellingsPalette.overrides.tail } :=
    (ofJson_of_describes describes_spellingsJson).trans (by decide +kernel)
  have hreached : Reached .light spellingsEntries [processStep] spellingsPalette :=
    .recolored processStep (.read describes_spellingsJson hread) (by decide +kernel)
  exact ⟨hreached, decided_style_and_refused_iff.1 hreached⟩

/-- A key that is written twice, first with an entry that is faulty. -/
def repeatedKeyJson : Text :=
  "\x7b\"input\": \x7b\"fill\": \"red\"\x7d, \"input\": \x7b\"fill\": \"#fff\"\x7d\x7d"

/-- The entries of `repeatedKeyJson`. -/
def repeatedKeyEntries : List (Text × StyleOverride) :=
  [("input", ⟨some "red", none, none⟩), ("input", ⟨some "#fff", none, none⟩)]

lemma describes_repeatedKeyJson : Describes repeatedKeyJson repeatedKeyEntries := by
  have hexact : Json.IsExact (.obj [("input", .obj [("fill", .str "red")]),
      ("input", .obj [("fill", .str "#fff")])]) := by
    refine .obj (List.forall_mem_cons.mpr ⟨.obj ?_, List.forall_mem_singleton.mpr (.obj ?_)⟩)
    · exact List.forall_mem_singleton.mpr (.str _)
    · exact List.forall_mem_singleton.mpr (.str _)
  refine ⟨_, Json.parse?_of_ofText? hexact (by decide +kernel), .cons ⟨rfl, ?_⟩
    (.cons ⟨rfl, ?_⟩ .nil)⟩
  · exact .object (.once rfl (.str _)) (.absent rfl) (.absent rfl)
  · exact .object (.once rfl (.str _)) (.absent rfl) (.absent rfl)

/-- A faulty entry is not refused if it does not count. -/
theorem not_refused_of_repeatedKey :
    ¬((∃ e, ofJson ⟨id, id⟩ .light repeatedKeyJson = .error e) ↔
      (¬∃ entries, Describes repeatedKeyJson entries) ∨
        ∃ entries, Describes repeatedKeyJson entries ∧ ∃ entry ∈ entries, IsFaulty entry) := by
  have hread : ofJson ⟨id, id⟩ .light repeatedKeyJson =
      .ok ⟨.light, [(.input, ⟨.of "#fff", .of "#0277bd", .of "#01579b"⟩)]⟩ :=
    (ofJson_of_describes describes_repeatedKeyJson).trans (by decide +kernel)
  have hfaulty : IsFaulty ("input", ⟨some "red", none, none⟩) :=
    .inr ⟨"red", StyleOverride.mem_texts_iff.mpr (.inl rfl), by decide⟩
  intro h
  obtain ⟨e, he⟩ := h.mpr
    (.inr ⟨repeatedKeyEntries, describes_repeatedKeyJson, _, List.mem_cons_self, hfaulty⟩)
  rw [hread] at he
  cases he

end Runs

end Palette

end ScriptFlow
