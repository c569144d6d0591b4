import ScriptFlow.Proofs.Text.Trim

/-!
# Identifiers

Keys of properties and names in diagrams are identifiers.  No character of an
identifier is a blank, a quote or a separator, which is why one can be put next
to any of these and be found again.
-/

namespace ScriptFlow

namespace Text

/-- A character that may stand anywhere in an identifier but at its start. -/
def isIdentifierChar (c : Char) : Bool :=
  c.isAlphanum || c == '_'

/-- The code points of letters, digits and `_` of ASCII. -/
lemma isIdentifierChar_iff {c : Char} :
    isIdentifierChar c = true ↔
      (48 ≤ c.toNat ∧ c.toNat ≤ 57) ∨ (65 ≤ c.toNat ∧ c.toNat ≤ 90) ∨ c.toNat = 95 ∨
        (97 ≤ c.toNat ∧ c.toNat ≤ 122) := by
  have hranges : isIdentifierChar c =
      ((decide (65 ≤ c.val ∧ c.val ≤ 90) ||
        (decide (97 ≤ c.val) && decide (c.val ≤ 122)) ||
        (decide (48 ≤ c.val) && decide (c.val ≤ 57))) || c == '_') := rfl
  have hunderscore : c = '_' ↔ c.toNat = 95 := by
    rw [← Char.toNat_inj]
    rfl
  simp only [hranges, Bool.or_eq_true, Bool.and_eq_true, decide_eq_true_eq, beq_iff_eq,
    hunderscore, UInt32.le_iff_toNat_le]
  change ((65 ≤ c.toNat ∧ c.toNat ≤ 90 ∨ 97 ≤ c.toNat ∧ c.toNat ≤ 122) ∨
    48 ≤ c.toNat ∧ c.toNat ≤ 57) ∨ c.toNat = 95 ↔ _
  omega

/-- No blank stands in an identifier. -/
lemma isBlank_eq_false_of_isIdentifierChar {c : Char} (h : isIdentifierChar c = true) :
    isBlank c = false := by
  have hcode := isIdentifierChar_iff.mp h
  simp [isBlank]
  omega

/-- An identifier is a letter or `_` and then letters, digits and `_`. -/
lemma isIdentifier_cons {c : Char} {r : Text} :
    isIdentifier (c :: r) = true ↔
      (c.isAlpha = true ∨ c = '_') ∧ ∀ d ∈ r, isIdentifierChar d = true := by
  simp [isIdentifier, isIdentifierChar]

lemma isIdentifier_ne_nil {t : Text} (h : isIdentifier t = true) : t ≠ [] := by
  rintro rfl
  simp [isIdentifier] at h

/-- Letters, digits and `_` are all that stands in an identifier. -/
lemma isIdentifierChar_of_mem {t : Text} (h : isIdentifier t = true) {c : Char} (hc : c ∈ t) :
    isIdentifierChar c = true := by
  cases t with
  | nil => simp at hc
  | cons d r =>
    obtain ⟨hd, hr⟩ := isIdentifier_cons.mp h
    rcases List.mem_cons.mp hc with rfl | hc
    · rcases hd with hd | rfl
      · simp [isIdentifierChar, Char.isAlphanum, hd]
      · rfl
    · exact hr c hc

/-- Any other character does not stand in an identifier. -/
lemma not_mem_of_isIdentifier {t : Text} (h : isIdentifier t = true) {c : Char}
    (hc : isIdentifierChar c = false) : c ∉ t := by
  intro hmem
  rw [isIdentifierChar_of_mem h hmem] at hc
  exact Bool.noConfusion hc

/-- An identifier has no blanks at its ends. -/
lemma isTrimmed_of_isIdentifier {t : Text} (h : isIdentifier t = true) : IsTrimmed t where
  head _ hc :=
    isBlank_eq_false_of_isIdentifierChar (isIdentifierChar_of_mem h (List.mem_of_mem_head? hc))
  last _ hc :=
    isBlank_eq_false_of_isIdentifierChar (isIdentifierChar_of_mem h (List.mem_of_getLast? hc))

/-- An identifier goes on with letters, digits and `_`. -/
lemma isIdentifier_append {s t : Text} (hs : isIdentifier s = true)
    (ht : ∀ c ∈ t, isIdentifierChar c = true) : isIdentifier (s ++ t) = true := by
  cases s with
  | nil => exact absurd rfl (isIdentifier_ne_nil hs)
  | cons c r =>
    obtain ⟨hc, hr⟩ := isIdentifier_cons.mp hs
    exact isIdentifier_cons.mpr ⟨hc, List.forall_mem_append.mpr ⟨hr, ht⟩⟩

/-- The digits of a number may stand in an identifier. -/
lemma isIdentifierChar_of_mem_ofNat {n : Nat} {c : Char} (h : c ∈ ofNat n) :
    isIdentifierChar c = true := by
  have hdigit : c.isDigit = true := Nat.isDigit_of_mem_toDigits (by decide) (by decide) h
  simp [isIdentifierChar, Char.isAlphanum, hdigit]

end Text

end ScriptFlow
