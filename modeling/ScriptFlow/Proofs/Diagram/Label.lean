import ScriptFlow.Proofs.Diagram.SafeText
import ScriptFlow.Proofs.Text.Lines

/-!
# Labels read back

A label is read from left to right: an entity stands for its character and everything else
for itself.  From an escaped text comes back the text on one line and without blanks around
it (`reads_escape`), so only texts that share this form share a label.

Escaping is followed by trimming.  A character that is no blank becomes a text without blanks
at its ends, and a blank becomes blanks, so the text could as well be trimmed first
(`trim_flatMap_escapeChar`).
-/

namespace ScriptFlow

open Text

namespace Label

/-- The text that a label stands for. -/
def unescape : Text → Text
  | '#' :: '3' :: '5' :: ';' :: rest => '#' :: unescape rest
  | '#' :: 'q' :: 'u' :: 'o' :: 't' :: ';' :: rest => '"' :: unescape rest
  | '#' :: '1' :: '2' :: '4' :: ';' :: rest => '|' :: unescape rest
  | '#' :: 'l' :: 't' :: ';' :: rest => '<' :: unescape rest
  | '#' :: 'g' :: 't' :: ';' :: rest => '>' :: unescape rest
  | c :: rest => c :: unescape rest
  | [] => []

/-- A text on one line: carriage returns are left out and line feeds become spaces. -/
def oneLine (t : Text) : Text :=
  (t.filter fun c => c != '\r').map fun c => if c == '\n' then ' ' else c

/-! ## Trimming before escaping -/

/-- A blank becomes blanks. -/
lemma isBlankText_escapeChar {c : Char} (hc : isBlank c = true) : IsBlankText (escapeChar c) := by
  unfold escapeChar
  split
  case h_6 => exact isBlankText_nil
  case h_7 => decide
  case h_8 =>
    intro d hd
    rw [List.mem_singleton.mp hd]
    exact hc
  all_goals exact absurd hc (by decide)

/-- A character that is no blank becomes a text without blanks at its ends. -/
lemma isTrimmed_escapeChar {c : Char} (hc : isBlank c = false) :
    IsTrimmed (escapeChar c) ∧ escapeChar c ≠ [] := by
  unfold escapeChar
  split
  case h_6 => exact absurd hc (by decide)
  case h_7 => exact absurd hc (by decide)
  case h_8 => exact ⟨⟨by simpa using hc, by simpa using hc⟩, List.cons_ne_nil _ _⟩
  all_goals decide

/-- Blanks become blanks. -/
lemma isBlankText_flatMap_escapeChar {t : Text} (ht : IsBlankText t) :
    IsBlankText (t.flatMap escapeChar) := by
  intro c hc
  obtain ⟨d, hd, hc⟩ := List.mem_flatMap.mp hc
  exact isBlankText_escapeChar (ht d hd) c hc

/-- A text without blanks at its ends becomes one without blanks at its ends. -/
lemma isTrimmed_flatMap_escapeChar {t : Text} (ht : IsTrimmed t) :
    IsTrimmed (t.flatMap escapeChar) := by
  constructor
  · cases t with
    | nil => simp
    | cons c r =>
      obtain ⟨htrimmed, hne⟩ := isTrimmed_escapeChar (ht.head c rfl)
      rw [List.flatMap_cons, List.head?_append_of_ne_nil _ hne]
      exact htrimmed.head
  · induction t using List.reverseRecOn with
    | nil => simp
    | append_singleton r c _ =>
      obtain ⟨htrimmed, hne⟩ := isTrimmed_escapeChar (ht.last c List.getLast?_concat)
      rw [List.flatMap_append, List.flatMap_singleton, List.getLast?_append_of_ne_nil _ hne]
      exact htrimmed.last

/-- Trimming the escaped text comes to escaping the trimmed text. -/
theorem trim_flatMap_escapeChar (t : Text) :
    trim (t.flatMap escapeChar) = (trim t).flatMap escapeChar := by
  obtain ⟨a, b, ha, hb, ht⟩ := exists_blanks_trim t
  conv_lhs => rw [ht]
  rw [List.flatMap_append, List.flatMap_append]
  exact trim_of_blanks (isBlankText_flatMap_escapeChar ha) (isBlankText_flatMap_escapeChar hb)
    (isTrimmed_flatMap_escapeChar (isTrimmed_trim t))

/-! ## One line -/

lemma isOneLine_oneLine (t : Text) : IsOneLine (oneLine t) := by
  constructor
  · intro hmem
    obtain ⟨c, -, hc⟩ := List.mem_map.mp hmem
    split at hc
    next => exact absurd hc (by decide)
    next hne => exact hne (beq_iff_eq.mpr hc)
  · intro hmem
    obtain ⟨c, hmem, hc⟩ := List.mem_map.mp hmem
    split at hc
    next => exact absurd hc (by decide)
    next => simp [hc] at hmem

/-- Line ends are escaped as what they become on one line. -/
lemma flatMap_escapeChar_oneLine (t : Text) :
    (oneLine t).flatMap escapeChar = t.flatMap escapeChar := by
  induction t with
  | nil => rfl
  | cons c r ih =>
    rw [List.flatMap_cons, ← ih]
    by_cases hreturn : c = '\r'
    · rw [hreturn]
      rfl
    · have hkept : oneLine (c :: r) = (if c == '\n' then ' ' else c) :: oneLine r := by
        simp [oneLine, hreturn]
      rw [hkept, List.flatMap_cons]
      by_cases hfeed : c = '\n'
      · rw [hfeed]
        rfl
      · rw [if_neg (by simpa using hfeed)]

/-- A label is the escaped form of the text on one line without blanks around it. -/
lemma escape_eq (t : Text) : escape t = (trim (oneLine t)).flatMap escapeChar := by
  rw [escape, ← flatMap_escapeChar_oneLine, trim_flatMap_escapeChar]

/-! ## Reading -/

/-- Only a `#` starts an entity. -/
lemma unescape_cons {c : Char} (hc : c ≠ '#') (rest : Text) :
    unescape (c :: rest) = c :: unescape rest := by
  conv_lhs => unfold unescape
  split <;> simp_all

/-- What stands for a character is read as this character, whatever follows. -/
lemma unescape_escapeChar_append {c : Char} (hc : IsOneLine [c]) (rest : Text) :
    unescape (escapeChar c ++ rest) = c :: unescape rest := by
  unfold escapeChar
  split
  case h_6 => exact absurd List.mem_cons_self hc.noReturn
  case h_7 => exact absurd List.mem_cons_self hc.noLineFeed
  case h_8 hsharp _ _ _ _ _ _ => exact unescape_cons hsharp rest
  all_goals rfl

/-- A text on one line is read back as it is. -/
lemma unescape_flatMap_escapeChar {t : Text} (ht : IsOneLine t) :
    unescape (t.flatMap escapeChar) = t := by
  induction t with
  | nil => rfl
  | cons c r ih =>
    have hfirst : IsOneLine [c] := ht.mono (by simp)
    have hrest : IsOneLine r := ht.mono (List.subset_cons_self c r)
    rw [List.flatMap_cons, unescape_escapeChar_append hfirst, ih hrest]

/-- A label has no character that could end it, reads as the text on one line without blanks
around it, and is shared by the texts that have this form in common. -/
theorem reads_escape (t : Text) :
    (∀ c ∈ ['"', '|', '<', '>', '\r', '\n'], c ∉ escape t) ∧
      unescape (escape t) = trim (oneLine t) ∧
      ∀ other, escape other = escape t ↔ trim (oneLine other) = trim (oneLine t) := by
  have hreads : ∀ t, unescape (escape t) = trim (oneLine t) := by
    intro t
    rw [escape_eq, unescape_flatMap_escapeChar ((isOneLine_oneLine t).mono (trim_subset _))]
  refine ⟨(isSafeText_escape t).noEnder, hreads t, fun other => ⟨fun heq => ?_, fun heq => ?_⟩⟩
  · rw [← hreads other, heq, hreads t]
  · rw [escape_eq, heq, ← escape_eq]

/-- Text that looks like an entity is read back as it was written. -/
example : unescape (escape " #quot;\r\n#35; ") = "#quot; #35;".toList := by decide

end Label

end ScriptFlow
