import ScriptFlow.Diagram.Ident
import ScriptFlow.Proofs.Fresh

/-!
# Identifiers of a diagram

Whatever text an identifier is made of, it is a letter or `_` followed by letters,
digits and `_`, also after a number has told it apart from others.  It is no word of
the diagram language: those hold no `_`, which is what both the prefix `n_` and a
number bring in.  What is an identifier and no such word stays as it is
(`ofText_eq_self`).

Identifiers that are handed out differ from each other and from those taken before
(`nodup_allocate`).  Texts that start with different words and `_` get identifiers that
start with these words, so that those of one family are no candidates for the other.
-/

namespace ScriptFlow

namespace Ident

open Text

/-- Every character gives one that may stand in an identifier. -/
lemma isIdentifierChar_plainChar (c : Char) : isIdentifierChar (plainChar c) = true := by
  unfold plainChar
  split
  next h => exact h
  next => rfl

/-- A character of identifiers that is no digit may start one. -/
lemma isAlpha_or_eq_of_not_isDigit {c : Char} (h : isIdentifierChar c = true)
    (hdigit : c.isDigit = false) : c.isAlpha = true ∨ c = '_' := by
  rw [isIdentifierChar, Char.isAlphanum, hdigit, Bool.or_false, Bool.or_eq_true,
    beq_iff_eq] at h
  exact h

/-- The identifier for a text is an identifier. -/
theorem isIdentifier_ofText (t : Text) : isIdentifier (ofText t) = true := by
  have hstart : ∀ id : Text, (∀ c ∈ id, isIdentifierChar c = true) →
      isIdentifier (("n_" : String).toList ++ id) = true :=
    fun id hid => isIdentifier_append rfl hid
  have hplain : ∀ id : Text, id ≠ [] → (∀ c ∈ id, isIdentifierChar c = true) →
      isIdentifier (if isReserved id || id.head?.any Char.isDigit then "n_" ++ id else id) =
        true := by
    intro id hne hid
    split
    · exact hstart id hid
    next hkeep =>
      obtain ⟨c, r, rfl⟩ := List.exists_cons_of_ne_nil hne
      obtain ⟨hc, hr⟩ := List.forall_mem_cons.mp hid
      have hdigit : c.isDigit = false := by
        rw [Bool.or_eq_true, not_or, List.head?_cons, Option.any_some] at hkeep
        exact Bool.eq_false_iff.mpr hkeep.2
      exact isIdentifier_cons.mpr ⟨isAlpha_or_eq_of_not_isDigit hc hdigit, hr⟩
  have hmap : ∀ c ∈ (trim t).map plainChar, isIdentifierChar c = true := by
    intro c hc
    obtain ⟨d, -, rfl⟩ := List.mem_map.mp hc
    exact isIdentifierChar_plainChar d
  unfold ofText
  cases hid : (trim t).map plainChar with
  | nil => rfl
  | cons c r => exact hplain (c :: r) (List.cons_ne_nil c r) (hid ▸ hmap)

/-- An identifier that is handed out is fresh for one of the texts, whatever was taken before. -/
lemma exists_eq_fresh_of_mem_allocate {taken texts : List Text} {id : Text}
    (h : id ∈ allocate taken texts) : ∃ t ∈ texts, ∃ earlier, id = fresh earlier t := by
  induction texts generalizing taken with
  | nil => exact absurd h List.not_mem_nil
  | cons t rest ih =>
    rcases List.mem_cons.mp h with rfl | h
    · exact ⟨t, List.mem_cons_self, taken, rfl⟩
    · obtain ⟨s, hs, hfresh⟩ := ih h
      exact ⟨s, List.mem_cons_of_mem t hs, hfresh⟩

/-- All identifiers that are handed out are identifiers. -/
theorem isIdentifier_of_mem_allocate {taken texts : List Text} {id : Text}
    (h : id ∈ allocate taken texts) : isIdentifier id = true := by
  obtain ⟨t, -, earlier, rfl⟩ := exists_eq_fresh_of_mem_allocate h
  exact Fresh.isIdentifier_name (isIdentifier_ofText t) earlier

/-- An identifier does not start with a digit. -/
lemma isDigit_head_eq_false {id : Text} (h : isIdentifier id = true) :
    id.head?.any Char.isDigit = false := by
  obtain ⟨c, r, rfl⟩ := List.exists_cons_of_ne_nil (isIdentifier_ne_nil h)
  rw [List.head?_cons, Option.any_some]
  rcases (isIdentifier_cons.mp h).1 with halpha | rfl
  · cases hdigit : c.isDigit with
    | false => rfl
    | true =>
      delta Char.isAlpha Char.isUpper Char.isLower at halpha
      simp only [Char.isDigit, Bool.or_eq_true, Bool.and_eq_true, decide_eq_true_eq, ge_iff_le,
        UInt32.le_iff_toNat_le] at halpha hdigit
      have hnine : ('9' : Char).val.toNat = 57 := rfl
      have hupper : ('A' : Char).val.toNat = 65 := rfl
      have hlower : ('a' : Char).val.toNat = 97 := rfl
      omega
  · rfl

/-! ## Words of the diagram language -/

/-- No word of the diagram language holds `_`. -/
lemma isReserved_eq_false_of_mem {t : Text} (h : '_' ∈ t) : isReserved t = false := by
  have hwords : ∀ word ∈ reservedWords, '_' ∉ word := by decide
  have hlower : '_' ∈ toLower t := List.mem_map.mpr ⟨'_', h, rfl⟩
  cases hword : isReserved t with
  | false => rfl
  | true => exact absurd hlower (hwords _ (List.contains_iff_mem.mp hword))

/-- The identifier for a text is no word of the diagram language. -/
lemma isReserved_ofText (t : Text) : isReserved (ofText t) = false := by
  have hguard : ∀ id : Text, isReserved
      (if isReserved id || id.head?.any Char.isDigit then "n_" ++ id else id) = false := by
    intro id
    split
    · exact isReserved_eq_false_of_mem (List.mem_append_left id (by decide))
    next hkeep =>
      rw [Bool.or_eq_true, not_or, Bool.not_eq_true] at hkeep
      exact hkeep.1
  exact hguard _

/-- A fresh identifier is no word of the diagram language. -/
lemma isReserved_fresh (taken : List Text) (t : Text) : isReserved (fresh taken t) = false := by
  unfold fresh
  rcases Fresh.name_eq_or_exists_numbered taken (ofText t) with heq | ⟨k, heq⟩
  · rw [heq]
    exact isReserved_ofText t
  · rw [heq, Fresh.numbered]
    exact isReserved_eq_false_of_mem (List.mem_append_left _ (List.mem_append_right _ (by simp)))

/-- No identifier that is handed out is a word of the diagram language. -/
theorem isReserved_of_mem_allocate {taken texts : List Text} {id : Text}
    (h : id ∈ allocate taken texts) : isReserved id = false := by
  obtain ⟨t, -, earlier, rfl⟩ := exists_eq_fresh_of_mem_allocate h
  exact isReserved_fresh earlier t

/-- A text is a word of the diagram language if it is one in some letter case. -/
lemma isReserved_eq_true_iff {t : Text} :
    isReserved t = true ↔ ∃ word ∈ reservedWords, sameLetters word t = true := by
  have hlower : ∀ word ∈ reservedWords, toLower word = word := by decide
  simp only [isReserved, sameLetters, List.contains_iff_mem, beq_iff_eq]
  constructor
  · intro hmem
    exact ⟨toLower t, hmem, hlower _ hmem⟩
  · rintro ⟨word, hmem, hsame⟩
    rw [← hsame, hlower word hmem]
    exact hmem

/-! ## Texts that are identifiers -/

/-- The characters of an identifier stay as they are. -/
lemma map_plainChar_eq_self {id : Text} (h : isIdentifier id = true) : id.map plainChar = id := by
  have hsame : ∀ c ∈ id, plainChar c = c := fun c hc => if_pos (isIdentifierChar_of_mem h hc)
  rw [List.map_congr_left hsame, List.map_id']

/-- A text that gives an identifier by its characters alone needs nothing in front. -/
lemma ofText_eq_of_isIdentifier {t id : Text} (hchars : (trim t).map plainChar = id)
    (hid : isIdentifier id = true) (hreserved : isReserved id = false) : ofText t = id := by
  unfold ofText
  rw [hchars]
  obtain ⟨c, rest, rfl⟩ := List.exists_cons_of_ne_nil (isIdentifier_ne_nil hid)
  dsimp only
  rw [hreserved, isDigit_head_eq_false hid]
  rfl

/-- An identifier that is no word of the diagram language stays as it is. -/
theorem ofText_eq_self {id : Text} (hid : isIdentifier id = true)
    (hreserved : isReserved id = false) : ofText id = id := by
  refine ofText_eq_of_isIdentifier ?_ hid hreserved
  rw [(isTrimmed_of_isIdentifier hid).trim_eq, map_plainChar_eq_self hid]

/-! ## Distinct identifiers -/

/-- The identifiers that are handed out differ from each other and from those taken. -/
theorem nodup_allocate (taken texts : List Text) :
    (allocate taken texts).Nodup ∧ ∀ id ∈ allocate taken texts, id ∉ taken := by
  induction texts generalizing taken with
  | nil => exact ⟨List.nodup_nil, fun id h => absurd h List.not_mem_nil⟩
  | cons t rest ih =>
    obtain ⟨hnodup, hnew⟩ := ih (fresh taken t :: taken)
    refine ⟨List.nodup_cons.mpr ⟨fun hmem => ?_, hnodup⟩, fun id hid => ?_⟩
    · exact hnew _ hmem List.mem_cons_self
    · rcases List.mem_cons.mp hid with rfl | hid
      · exact Fresh.not_mem_name taken (ofText t)
      · exact fun htaken => hnew id hid (List.mem_cons_of_mem _ htaken)

/-! ## Identifiers of different families -/

/-- Identifiers are handed out alike if the same candidates for them are taken. -/
lemma allocate_congr {taken others texts : List Text}
    (hsame : ∀ t ∈ texts, ∀ other, Fresh.IsCandidate (ofText t) other →
      (other ∈ others ↔ other ∈ taken)) : allocate others texts = allocate taken texts := by
  induction texts generalizing taken others with
  | nil => rfl
  | cons t rest ih =>
    have hfresh : fresh others t = fresh taken t :=
      Fresh.name_congr (hsame t List.mem_cons_self)
    rw [allocate, allocate, hfresh]
    refine congrArg _ (ih fun s hs other hother => ?_)
    rw [List.mem_cons, List.mem_cons, hsame s (List.mem_cons_of_mem t hs) other hother]

/-- An identifier that is handed out is a candidate for one of the texts. -/
lemma exists_isCandidate_of_mem_allocate {taken texts : List Text} {id : Text}
    (h : id ∈ allocate taken texts) : ∃ t ∈ texts, Fresh.IsCandidate (ofText t) id := by
  obtain ⟨t, ht, earlier, rfl⟩ := exists_eq_fresh_of_mem_allocate h
  exact ⟨t, ht, (Fresh.isFirst_name earlier (ofText t)).isCandidate⟩

/-- A word of identifier characters before `_` stays at the start of an identifier. -/
lemma isPrefix_ofText {word : Text} (hword : isIdentifier word = true) (t : Text) :
    word ++ ['_'] <+: ofText (word ++ '_' :: t) := by
  have htrim : trim (word ++ '_' :: t) = word ++ '_' :: trimEnd t := by
    rw [trim_append_cons word t rfl, trimStart_eq_self (isTrimmed_of_isIdentifier hword).head]
  have hchars : (trim (word ++ '_' :: t)).map plainChar =
      word ++ '_' :: (trimEnd t).map plainChar := by
    rw [htrim, List.map_append, map_plainChar_eq_self hword, List.map_cons]
    rfl
  have hid : isIdentifier (word ++ '_' :: (trimEnd t).map plainChar) = true := by
    refine isIdentifier_append hword fun c hc => ?_
    rcases List.mem_cons.mp hc with rfl | hc
    · rfl
    · obtain ⟨d, -, rfl⟩ := List.mem_map.mp hc
      exact isIdentifierChar_plainChar d
  have htext : ofText (word ++ '_' :: t) = word ++ '_' :: (trimEnd t).map plainChar :=
    ofText_eq_of_isIdentifier hchars hid
      (isReserved_eq_false_of_mem (List.mem_append_right word List.mem_cons_self))
  rw [htext, List.append_cons word '_' ((trimEnd t).map plainChar)]
  exact List.prefix_append _ _

/-- An identifier for a text that starts with a word and `_` starts like the word. -/
lemma head?_of_isCandidate_ofText {word t id : Text} (hword : isIdentifier word = true)
    (h : Fresh.IsCandidate (ofText (word ++ '_' :: t)) id) : id.head? = word.head? := by
  obtain ⟨rest, rfl⟩ := (isPrefix_ofText hword t).trans h.isPrefix
  rw [List.append_assoc, List.head?_append_of_ne_nil _ (isIdentifier_ne_nil hword)]

end Ident

end ScriptFlow
