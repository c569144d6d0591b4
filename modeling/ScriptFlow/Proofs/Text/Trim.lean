import Mathlib.Data.List.DropRight
import ScriptFlow.Text.Basic

/-!
# Trimming

Every text is its trimmed form between two runs of blanks, and the trimmed form
is the only text without blanks at its ends for which that holds.  What a reader
does to a part of a line after trimming it therefore never depends on the blanks
around that part.
-/

namespace ScriptFlow

namespace Text

/-- A text of blanks only. -/
def IsBlankText (t : Text) : Prop :=
  ∀ c ∈ t, isBlank c = true

instance (t : Text) : Decidable (IsBlankText t) :=
  decidable_of_iff (t.all isBlank = true) List.all_eq_true

/-- A text with no blank at either end. -/
structure IsTrimmed (t : Text) : Prop where
  head : ∀ c ∈ t.head?, isBlank c = false
  last : ∀ c ∈ t.getLast?, isBlank c = false

lemma isBlankText_nil : IsBlankText [] := by
  simp [IsBlankText]

/-- An indentation is a run of blanks. -/
lemma isBlankText_replicate (n : Nat) : IsBlankText (List.replicate n ' ') := by
  intro c hc
  rw [List.eq_of_mem_replicate hc]
  rfl

lemma isTrimmed_nil : IsTrimmed [] := by
  constructor <;> simp

/-- Two runs of blanks in a row are one. -/
lemma IsBlankText.append {s t : Text} (hs : IsBlankText s) (ht : IsBlankText t) :
    IsBlankText (s ++ t) := by
  intro c hc
  rcases List.mem_append.mp hc with h | h
  · exact hs c h
  · exact ht c h

/-! ## One end -/

/-- Blanks in front are dropped. -/
lemma trimStart_append_of_blank {a : Text} (ha : IsBlankText a) (t : Text) :
    trimStart (a ++ t) = trimStart t :=
  List.dropWhile_append_of_pos ha

/-- Blanks behind are dropped. -/
lemma trimEnd_append_of_blank (t : Text) {b : Text} (hb : IsBlankText b) :
    trimEnd (t ++ b) = trimEnd t := by
  have hrev : ∀ c ∈ b.reverse, isBlank c = true := fun c hc => hb c (List.mem_reverse.mp hc)
  unfold trimEnd
  rw [List.reverse_append, List.dropWhile_append_of_pos hrev]

/-- A text that starts with no blank keeps its start. -/
lemma trimStart_eq_self {t : Text} (h : ∀ c ∈ t.head?, isBlank c = false) :
    trimStart t = t := by
  cases t with
  | nil => rfl
  | cons c r =>
    have hc : isBlank c = false := h c (by simp)
    exact List.dropWhile_cons_of_neg (by simp [hc])

/-- A text that ends with no blank keeps its end. -/
lemma trimEnd_eq_self {t : Text} (h : ∀ c ∈ t.getLast?, isBlank c = false) :
    trimEnd t = t := by
  refine List.rdropWhile_eq_self_iff.mpr fun hne => ?_
  have hlast : isBlank (t.getLast hne) = false :=
    h _ (List.getLast?_eq_some_getLast hne)
  simp [hlast]

/-- What is dropped in front is a run of blanks. -/
lemma exists_append_trimStart (t : Text) :
    ∃ a, IsBlankText a ∧ t = a ++ trimStart t :=
  ⟨t.takeWhile isBlank, fun _ hc => List.mem_takeWhile_imp hc,
    List.takeWhile_append_dropWhile.symm⟩

/-- What is dropped behind is a run of blanks. -/
lemma exists_trimEnd_append (t : Text) :
    ∃ b, IsBlankText b ∧ t = trimEnd t ++ b := by
  obtain ⟨a, ha, ht⟩ := exists_append_trimStart t.reverse
  refine ⟨a.reverse, fun c hc => ha c (List.mem_reverse.mp hc), ?_⟩
  have hrev : t = (a ++ trimStart t.reverse).reverse := by rw [← ht, List.reverse_reverse]
  rw [List.reverse_append] at hrev
  exact hrev

/-- The start of a text without blanks in front is no blank. -/
lemma isBlank_head_trimStart (t : Text) : ∀ c ∈ (trimStart t).head?, isBlank c = false := by
  intro c hc
  have h := List.head?_dropWhile_not isBlank t
  rw [show (t.dropWhile isBlank).head? = some c from hc] at h
  simpa using h

/-- The end of a text without blanks behind is no blank. -/
lemma isBlank_getLast_trimEnd (t : Text) : ∀ c ∈ (trimEnd t).getLast?, isBlank c = false := by
  intro c hc
  unfold trimEnd at hc
  rw [List.getLast?_reverse] at hc
  exact isBlank_head_trimStart t.reverse c hc

/-- Dropping blanks in front leaves a part of the text. -/
lemma trimStart_subset (t : Text) : trimStart t ⊆ t :=
  List.dropWhile_subset isBlank

/-- Dropping blanks behind leaves a part of the text. -/
lemma trimEnd_subset (t : Text) : trimEnd t ⊆ t := by
  intro c hc
  have h : c ∈ t.reverse.dropWhile isBlank := List.mem_reverse.mp hc
  exact List.mem_reverse.mp (List.dropWhile_subset isBlank h)

/-! ## Both ends -/

/-- Trimming leaves a part of the text. -/
lemma trim_subset (t : Text) : trim t ⊆ t :=
  fun _ hc => trimStart_subset t (trimEnd_subset _ hc)

/-- A text is its trimmed form between blanks. -/
lemma exists_blanks_trim (t : Text) :
    ∃ a b, IsBlankText a ∧ IsBlankText b ∧ t = a ++ trim t ++ b := by
  obtain ⟨a, ha, hstart⟩ := exists_append_trimStart t
  obtain ⟨b, hb, hend⟩ := exists_trimEnd_append (trimStart t)
  refine ⟨a, b, ha, hb, ?_⟩
  rw [List.append_assoc, trim, ← hend, ← hstart]

/-- The trimmed form has no blank at either end. -/
lemma isTrimmed_trim (t : Text) : IsTrimmed (trim t) := by
  refine ⟨fun c hc => ?_, isBlank_getLast_trimEnd _⟩
  obtain ⟨b, -, hb⟩ := exists_trimEnd_append (trimStart t)
  have hhead : (trimStart t).head? = some c := by
    rw [hb, List.head?_append]
    simp [show (trimEnd (trimStart t)).head? = some c from hc]
  exact isBlank_head_trimStart t c hhead

/-- Trimming changes nothing in a text without blanks at its ends. -/
lemma IsTrimmed.trim_eq {t : Text} (h : IsTrimmed t) : trim t = t := by
  rw [trim, trimStart_eq_self h.head, trimEnd_eq_self h.last]

/-- A text is trimmed when trimming changes nothing. -/
lemma isTrimmed_of_trim_eq {t : Text} (h : trim t = t) : IsTrimmed t :=
  h ▸ isTrimmed_trim t

instance (t : Text) : Decidable (IsTrimmed t) :=
  decidable_of_iff (trim t = t) ⟨isTrimmed_of_trim_eq, IsTrimmed.trim_eq⟩

/-- Blanks in front do not matter. -/
lemma trim_append_left {a : Text} (ha : IsBlankText a) (t : Text) : trim (a ++ t) = trim t := by
  rw [trim, trimStart_append_of_blank ha, trim]

/-- Nothing is left of blanks. -/
lemma IsBlankText.trim_eq {t : Text} (h : IsBlankText t) : trim t = [] := by
  have ht : trim (t ++ []) = trim [] := trim_append_left h []
  rw [List.append_nil] at ht
  exact ht

/-- Blanks behind do not matter. -/
lemma trim_append_right (t : Text) {b : Text} (hb : IsBlankText b) : trim (t ++ b) = trim t := by
  obtain ⟨a, ha, ht⟩ := exists_append_trimStart t
  cases hs : trimStart t with
  | nil =>
    rw [hs, List.append_nil] at ht
    rw [ht, (ha.append hb).trim_eq, ha.trim_eq]
  | cons c r =>
    have hhead : ∀ d ∈ (trimStart t ++ b).head?, isBlank d = false := by
      intro d hd
      rw [hs, List.cons_append, List.head?_cons] at hd
      exact isBlank_head_trimStart t d (by rw [hs]; exact hd)
    calc trim (t ++ b)
        = trim (a ++ (trimStart t ++ b)) := by rw [← List.append_assoc, ← ht]
      _ = trim (trimStart t ++ b) := trim_append_left ha _
      _ = trimEnd (trimStart t ++ b) := by rw [trim, trimStart_eq_self hhead]
      _ = trim t := by rw [trimEnd_append_of_blank _ hb, trim]

/-- The trimmed form is what stands between the blanks. -/
lemma trim_of_blanks {a b t : Text} (ha : IsBlankText a) (hb : IsBlankText b)
    (ht : IsTrimmed t) : trim (a ++ t ++ b) = t := by
  rw [trim_append_right _ hb, trim_append_left ha, ht.trim_eq]

/-- Nothing is left exactly of blanks. -/
lemma trim_eq_nil_iff {t : Text} : trim t = [] ↔ IsBlankText t := by
  refine ⟨fun h => ?_, IsBlankText.trim_eq⟩
  obtain ⟨a, b, ha, hb, ht⟩ := exists_blanks_trim t
  rw [ht, h, List.append_nil]
  exact ha.append hb

/-- Behind a text that is not blank nothing but its own blanks is dropped. -/
lemma trimEnd_append_of_not_blank (s : Text) {t : Text} (ht : ¬IsBlankText t) :
    trimEnd (s ++ t) = s ++ trimEnd t := by
  obtain ⟨b, hb, hsplit⟩ := exists_trimEnd_append t
  have hne : trimEnd t ≠ [] := by
    intro hnil
    rw [hnil, List.nil_append] at hsplit
    exact ht (hsplit ▸ hb)
  have hlast : ∀ c ∈ (s ++ trimEnd t).getLast?, isBlank c = false := by
    intro c hc
    rw [List.getLast?_append_of_ne_nil _ hne] at hc
    exact isBlank_getLast_trimEnd t c hc
  conv_lhs => rw [hsplit, ← List.append_assoc]
  rw [trimEnd_append_of_blank _ hb, trimEnd_eq_self hlast]

/-- A text that is not blank ends as its trimmed form does, blanks left out. -/
lemma exists_append_trim {t : Text} (ht : ¬IsBlankText t) : ∃ a, trimEnd t = a ++ trim t := by
  obtain ⟨a, ha, hsplit⟩ := exists_append_trimStart t
  have hstart : ¬IsBlankText (trimStart t) := fun h => ht (hsplit ▸ ha.append h)
  refine ⟨a, ?_⟩
  conv_lhs => rw [hsplit]
  exact trimEnd_append_of_not_blank a hstart

/-- Around a character that is no blank, trimming acts on either side of it. -/
lemma trim_append_cons (s t : Text) {c : Char} (hc : isBlank c = false) :
    trim (s ++ c :: t) = trimStart s ++ c :: trimEnd t := by
  obtain ⟨a, ha, hs⟩ := exists_append_trimStart s
  obtain ⟨b, hb, ht⟩ := exists_trimEnd_append t
  have hsplit : s ++ c :: t = a ++ (trimStart s ++ c :: trimEnd t) ++ b := by
    conv_lhs => rw [hs, ht]
    simp only [List.append_assoc, List.cons_append]
  rw [hsplit]
  refine trim_of_blanks ha hb ⟨fun d hd => ?_, fun d hd => ?_⟩
  · cases h : trimStart s with
    | nil =>
      rw [h, List.nil_append, List.head?_cons, Option.mem_some_iff] at hd
      exact hd ▸ hc
    | cons e r =>
      rw [h, List.cons_append, List.head?_cons] at hd
      exact isBlank_head_trimStart s d (by rw [h]; exact hd)
  · rw [List.getLast?_append_of_ne_nil _ (List.cons_ne_nil _ _)] at hd
    cases h : trimEnd t with
    | nil =>
      rw [h, List.getLast?_singleton, Option.mem_some_iff] at hd
      exact hd ▸ hc
    | cons e r =>
      rw [h, List.getLast?_cons_cons] at hd
      exact isBlank_getLast_trimEnd t d (by rw [h]; exact hd)

/-- A text whose first and last characters are no blanks is trimmed, whatever
stands between them. -/
lemma isTrimmed_of_ends {s t : Text} (hs : IsTrimmed s) (hs' : s ≠ []) (ht : IsTrimmed t)
    (ht' : t ≠ []) (r : Text) : IsTrimmed (s ++ r ++ t) := by
  refine ⟨fun c hc => hs.head c ?_, fun c hc => ht.last c ?_⟩
  · rw [List.append_assoc, List.head?_append_of_ne_nil _ hs'] at hc
    exact hc
  · rw [List.getLast?_append_of_ne_nil _ ht'] at hc
    exact hc

end Text

end ScriptFlow
