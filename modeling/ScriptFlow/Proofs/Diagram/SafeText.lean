import ScriptFlow.Diagram.Label
import ScriptFlow.Diagram.Link
import ScriptFlow.Proofs.Text.Identifier

/-!
# Texts inside a diagram

A label stands in double quotes or between two bars, a link in double quotes.  This
file says which texts can stand there without ending what they stand in, and shows
that escaped labels and links are such texts, whatever they are made of.

Trimming comes after escaping, so it has to be seen that it never cuts an entity:
no entity has a blank, hence an entity that starts in the trimmed text also ends
there.
-/

namespace ScriptFlow

open Text

/-! ## Labels -/

namespace Label

/-- The entities that a label may hold. -/
def entities : List Text :=
  ["#35;", "#quot;", "#124;", "#lt;", "#gt;"]

/-- The characters that end a label, or that start something else in it. -/
def enders : List Char :=
  ['"', '|', '<', '>', '\r', '\n']

/-- A text that can stand in a label: nothing ends it early, and every `#` starts an
entity. -/
structure IsSafeText (t : Text) : Prop where
  noEnder : ∀ c ∈ enders, c ∉ t
  entity : ∀ before after, t = before ++ '#' :: after → ∃ e ∈ entities, e <+: '#' :: after

lemma isSafeText_nil : IsSafeText [] where
  noEnder _ _ := List.not_mem_nil
  entity before after h := by simp at h

/-- A character alone is safe if it neither ends labels nor starts entities. -/
lemma isSafeText_singleton {c : Char} (h : c ∉ '#' :: enders) : IsSafeText [c] where
  noEnder d hd hmem := by
    rw [List.mem_singleton.mp hmem] at hd
    exact h (List.mem_cons_of_mem _ hd)
  entity before after heq := by
    have hmem : '#' ∈ [c] := by
      rw [heq]
      exact List.mem_append_right before List.mem_cons_self
    rw [List.mem_singleton.mp hmem] at h
    exact absurd List.mem_cons_self h

/-- Two safe texts in a row are safe. -/
lemma IsSafeText.append {s t : Text} (hs : IsSafeText s) (ht : IsSafeText t) :
    IsSafeText (s ++ t) where
  noEnder c hc hmem := by
    rcases List.mem_append.mp hmem with h | h
    · exact hs.noEnder c hc h
    · exact ht.noEnder c hc h
  entity before after heq := by
    rcases List.append_eq_append_iff.mp heq with ⟨middle, -, hright⟩ | ⟨middle, hleft, hright⟩
    · exact ht.entity middle after hright
    · cases middle with
      | nil =>
        rw [List.nil_append] at hright
        exact ht.entity [] after hright.symm
      | cons c middle =>
        obtain ⟨rfl, rfl⟩ := List.cons.inj hright
        obtain ⟨e, he, hstart⟩ := hs.entity before middle hleft
        exact ⟨e, he, hstart.trans (List.prefix_append _ t)⟩

/-- What follows in a safe text is safe. -/
lemma IsSafeText.of_append_right {s t : Text} (h : IsSafeText (s ++ t)) : IsSafeText t where
  noEnder c hc hmem := h.noEnder c hc (List.mem_append_right s hmem)
  entity := by
    rintro before after rfl
    exact h.entity (s ++ before) after (List.append_assoc ..).symm

/-- An entity has no blank. -/
lemma isBlank_of_mem_entity {e : Text} (he : e ∈ entities) : ∀ c ∈ e, isBlank c = false := by
  have hall : ∀ e ∈ entities, e.all (fun c => !isBlank c) = true := by decide
  intro c hc
  simpa using List.all_eq_true.mp (hall e he) c hc

/-- What precedes blanks in a safe text is safe. -/
lemma IsSafeText.of_append_blank {s b : Text} (h : IsSafeText (s ++ b)) (hb : IsBlankText b) :
    IsSafeText s where
  noEnder c hc hmem := h.noEnder c hc (List.mem_append_left b hmem)
  entity before after heq := by
    have hwhole : s ++ b = before ++ '#' :: (after ++ b) := by
      rw [heq, List.append_assoc, List.cons_append]
    obtain ⟨e, he, rest, hrest⟩ := h.entity before (after ++ b) hwhole
    refine ⟨e, he, ?_⟩
    rw [← List.cons_append] at hrest
    rcases List.append_eq_append_iff.mp hrest with ⟨middle, hinside, -⟩ | ⟨middle, hreach, hblanks⟩
    · exact ⟨middle, hinside.symm⟩
    · -- an entity that reached into the blanks would hold one
      cases middle with
      | nil =>
        rw [List.append_nil] at hreach
        exact ⟨[], by rw [hreach, List.append_nil]⟩
      | cons c middle =>
        have hnot : isBlank c = false := by
          refine isBlank_of_mem_entity he c ?_
          rw [hreach]
          exact List.mem_append_right _ List.mem_cons_self
        have hyes : isBlank c = true := hb c (by rw [hblanks]; exact List.mem_cons_self)
        rw [hnot] at hyes
        exact Bool.noConfusion hyes

/-- A trimmed safe text is safe. -/
lemma IsSafeText.trim {t : Text} (h : IsSafeText t) : IsSafeText (trim t) := by
  obtain ⟨a, b, -, hb, ht⟩ := exists_blanks_trim t
  rw [ht, List.append_assoc] at h
  exact h.of_append_right.of_append_blank hb

/-- An entity is safe, since it holds no `#` but its first character. -/
lemma isSafeText_of_mem_entities {e : Text} (he : e ∈ entities) : IsSafeText e where
  noEnder c hc hmem := by
    have hall : ∀ e ∈ entities, e.all (fun c => !enders.contains c) = true := by decide
    have hnot := List.all_eq_true.mp (hall e he) c hmem
    rw [List.contains_iff_mem.mpr hc] at hnot
    exact Bool.noConfusion hnot
  entity before after heq := by
    have hall : ∀ e ∈ entities, '#' ∉ e.tail := by decide
    cases before with
    | nil => exact ⟨e, he, heq ▸ List.prefix_rfl⟩
    | cons c before =>
      refine absurd ?_ (hall e he)
      rw [heq]
      exact List.mem_append_right before List.mem_cons_self

/-- A character is safe as it stands in a label. -/
lemma isSafeText_escapeChar (c : Char) : IsSafeText (escapeChar c) := by
  unfold escapeChar
  split
  · exact isSafeText_of_mem_entities (by decide)
  · exact isSafeText_of_mem_entities (by decide)
  · exact isSafeText_of_mem_entities (by decide)
  · exact isSafeText_of_mem_entities (by decide)
  · exact isSafeText_of_mem_entities (by decide)
  · exact isSafeText_nil
  · exact isSafeText_singleton (by decide)
  next hsharp hquote hbar hless hgreater hreturn hfeed =>
    refine isSafeText_singleton fun hmem => ?_
    simp only [enders, List.mem_cons, List.not_mem_nil, or_false] at hmem
    rcases hmem with h | h | h | h | h | h | h
    · exact hsharp h
    · exact hquote h
    · exact hbar h
    · exact hless h
    · exact hgreater h
    · exact hreturn h
    · exact hfeed h

/-- An escaped text is safe. -/
theorem isSafeText_escape (t : Text) : IsSafeText (escape t) := by
  have hchars : IsSafeText (t.flatMap escapeChar) := by
    induction t with
    | nil => exact isSafeText_nil
    | cons c r ih =>
      rw [List.flatMap_cons]
      exact (isSafeText_escapeChar c).append ih
  exact hchars.trim

end Label

/-! ## Links -/

namespace Link

/-- A control character. -/
def isControl (c : Char) : Bool :=
  c.toNat < 0x20 || (0x7F ≤ c.toNat && c.toNat ≤ 0x9F)

/-- A text that can stand in a link. -/
structure IsSafeText (t : Text) : Prop where
  noQuote : '"' ∉ t
  noBlank : ∀ c ∈ t, isBlank c = false
  noControl : ∀ c ∈ t, isControl c = false

/-- A visible character of ASCII that is no double quote. -/
def isVisible (c : Char) : Bool :=
  0x21 ≤ c.toNat && c.toNat ≤ 0x7E && c != '"'

/-- Visible characters can stand in a link. -/
lemma isSafeText_of_isVisible {t : Text} (h : ∀ c ∈ t, isVisible c = true) : IsSafeText t where
  noQuote hmem := absurd (h _ hmem) (by decide)
  noBlank c hc := by
    have hcode := h c hc
    simp only [isVisible, Bool.and_eq_true, decide_eq_true_eq] at hcode
    simp [isBlank]
    omega
  noControl c hc := by
    have hcode := h c hc
    simp only [isVisible, Bool.and_eq_true, decide_eq_true_eq] at hcode
    simp [isControl]
    omega

/-- A character that stands for itself is visible. -/
lemma isVisible_of_isSafe {c : Char} (h : isSafe c = true) : isVisible c = true := by
  simp only [isSafe, Bool.and_eq_true, decide_eq_true_eq, Bool.not_eq_true',
    List.contains_eq_mem, decide_eq_false_iff_not] at h
  obtain ⟨⟨hlow, hhigh⟩, hnot⟩ := h
  have hspace : c.toNat ≠ 0x20 := by
    intro hcode
    have hc : c = ' ' := Char.ext (UInt32.toNat_inj.mp hcode)
    exact hnot (hc ▸ List.mem_cons_self)
  have hquote : c ≠ '"' := by
    rintro rfl
    exact hnot (by decide)
  simp only [isVisible, Bool.and_eq_true, decide_eq_true_eq, bne_iff_ne]
  exact ⟨⟨by omega, by omega⟩, hquote⟩

/-- A hexadecimal digit stands for itself. -/
lemma isSafe_hexDigit {n : Nat} (h : n < 16) : isSafe (hexDigit n) = true := by
  have hall : ∀ n < 16, isSafe (hexDigit n) = true := by decide
  exact hall n h

/-- Every character of an escaped byte stands for itself, except for the first. -/
lemma isSafe_or_eq_of_mem_escapeByte {byte : UInt8} {c : Char} (h : c ∈ escapeByte byte) :
    isSafe c = true ∨ c = '%' := by
  have hbyte : byte.toNat < 256 := byte.toNat_lt
  simp only [escapeByte, List.mem_cons, List.not_mem_nil, or_false] at h
  rcases h with rfl | rfl | rfl
  · exact .inr rfl
  · exact .inl (isSafe_hexDigit (by omega))
  · exact .inl (isSafe_hexDigit (by omega))

/-- Every character of an escaped path stands for itself or opens an escaped byte. -/
lemma isSafe_or_eq_of_mem_escapePath {path : Path} {c : Char} (h : c ∈ escapePath path) :
    isSafe c = true ∨ c = '%' := by
  obtain ⟨d, -, hd⟩ := List.mem_flatMap.mp h
  unfold escapeChar at hd
  split at hd
  next hsafe =>
    rw [List.mem_singleton.mp hd]
    exact .inl hsafe
  next =>
    obtain ⟨byte, -, hbyte⟩ := List.mem_flatMap.mp hd
    exact isSafe_or_eq_of_mem_escapeByte hbyte

/-- An escaped path is visible. -/
lemma isVisible_of_mem_escapePath {path : Path} {c : Char} (h : c ∈ escapePath path) :
    isVisible c = true := by
  rcases isSafe_or_eq_of_mem_escapePath h with hsafe | rfl
  · exact isVisible_of_isSafe hsafe
  · rfl

/-- A character of identifiers is visible. -/
lemma isVisible_of_isIdentifierChar {c : Char} (h : isIdentifierChar c = true) :
    isVisible c = true := by
  have hcode := isIdentifierChar_iff.mp h
  have hne : c ≠ '"' := by
    rintro rfl
    exact absurd h (by decide)
  simp [isVisible, hne]
  omega

/-- What a link starts with. -/
def opening : LinkScheme → Text
  | .vscode => "vscode://file/"
  | .file => "file://"
  | .rstudio => "rstudio://open-file?path="

/-- What stands before the line in a link. -/
def lineMark : LinkScheme → Text
  | .vscode => ":"
  | .file => "#L"
  | .rstudio => "&line="

/-- The end of a link, which tells the line. -/
def lineSuffix (scheme : LinkScheme) : Option Nat → Text
  | some line => lineMark scheme ++ ofNat line
  | none => []

/-- A link is an opening, the escaped path and the line. -/
lemma uri_eq (scheme : LinkScheme) (path : Path) (line : Option Nat) :
    uri scheme path line = opening scheme ++ escapePath path ++ lineSuffix scheme line := by
  cases scheme <;> cases line <;> rfl

/-- The end of a link is visible. -/
lemma isVisible_of_mem_lineSuffix {scheme : LinkScheme} {line : Option Nat} {c : Char}
    (h : c ∈ lineSuffix scheme line) : isVisible c = true := by
  cases line with
  | none => exact absurd h List.not_mem_nil
  | some line =>
    rcases List.mem_append.mp h with h | h
    · have hmark : (lineMark scheme).all isVisible = true := by
        cases scheme <;> decide
      exact List.all_eq_true.mp hmark c h
    · exact isVisible_of_isIdentifierChar (isIdentifierChar_of_mem_ofNat h)

/-- A link is visible, whatever the path of the script. -/
lemma isVisible_of_mem_uri {scheme : LinkScheme} {path : Path} {line : Option Nat} {c : Char}
    (h : c ∈ uri scheme path line) : isVisible c = true := by
  have hopening : (opening scheme).all isVisible = true := by
    cases scheme <;> decide
  rw [uri_eq] at h
  rcases List.mem_append.mp h with h | h
  · rcases List.mem_append.mp h with h | h
    · exact List.all_eq_true.mp hopening c h
    · exact isVisible_of_mem_escapePath h
  · exact isVisible_of_mem_lineSuffix h

/-- The link to a script is safe, whatever its path. -/
theorem isSafeText_uri (scheme : LinkScheme) (path : Path) (line : Option Nat) :
    IsSafeText (uri scheme path line) :=
  isSafeText_of_isVisible fun _ => isVisible_of_mem_uri

end Link

end ScriptFlow
