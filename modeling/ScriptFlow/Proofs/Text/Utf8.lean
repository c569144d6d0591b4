import Mathlib.Data.List.Basic
import ScriptFlow.KeyMap
import ScriptFlow.Text.Encoding

/-!
# Texts as bytes

The bytes of a text in UTF-8 spell this text and no other (`ofUtf8?_eq_some_iff`).  Their
order is that of the code points (`utf8_lt_utf8_iff`), so it does not matter whether keys are
compared by characters or by bytes.

Bytes that spell a text show it (`shown_utf8`).  Of the characters that other bytes show, those
that do not stand for broken bytes are spelled among them (`utf8EncodeChar_subset_of_mem_shown`).
-/

namespace ScriptFlow

namespace Text

/-- The bytes of a text spell this text. -/
theorem ofUtf8?_utf8 (t : Text) : ofUtf8? (utf8 t) = some t := by
  have hbytes : (utf8 t).toByteArray = (String.ofList t).toByteArray :=
    String.toByteArray_ofList.symm
  have hvalid : (utf8 t).toByteArray.IsValidUTF8 := by
    rw [hbytes]
    exact (String.ofList t).isValidUTF8
  have hread : String.fromUTF8? (utf8 t).toByteArray = some (String.ofList t) := by
    rw [String.fromUTF8?, dif_pos hvalid, Option.some_inj, ← String.toByteArray_inj]
    exact hbytes
  rw [ofUtf8?, hread, Option.map_some, String.toList_ofList]

/-- Bytes spell a text if they are its bytes. -/
theorem ofUtf8?_eq_some_iff {bytes : List UInt8} {t : Text} :
    ofUtf8? bytes = some t ↔ bytes = utf8 t := by
  constructor
  · intro h
    obtain ⟨s, hs, rfl⟩ := Option.map_eq_some_iff.mp h
    rw [String.fromUTF8?, Option.dite_none_right_eq_some] at hs
    obtain ⟨hvalid, hs⟩ := hs
    have hbytes : s.toByteArray = bytes.toByteArray :=
      congrArg String.toByteArray (Option.some.inj hs).symm
    rw [← List.toByteArray_inj, ← hbytes]
    conv_lhs => rw [← String.ofList_toList (s := s)]
    exact String.toByteArray_ofList
  · rintro rfl
    exact ofUtf8?_utf8 t

/-! ## Bytes that are shown -/

/-- The code of a character is at most `U+10FFFF`. -/
lemma toNat_val_lt (c : Char) : c.val.toNat < 0x110000 := by
  have hvalid := c.valid
  simp only [UInt32.isValidChar, Nat.isValidChar] at hvalid
  omega

/-- A character has as many bytes as the first of them tells. -/
lemma exists_utf8EncodeChar_eq_cons (c : Char) :
    ∃ lead rest, String.utf8EncodeChar c = lead :: rest ∧ width lead = rest.length + 1 := by
  have hbound := toNat_val_lt c
  unfold String.utf8EncodeChar
  generalize c.val.toNat = n at *
  simp only
  repeat' split
  all_goals
    refine ⟨_, _, rfl, ?_⟩
    simp only [width, UInt8.lt_iff_toNat_lt, UInt8.toNat_ofNat', Nat.reducePow, UInt8.reduceToNat,
      List.length_cons, List.length_nil]
    split_ifs <;> omega

/-- Bytes start with the character that the first of them spell. -/
lemma firstChar?_append (c : Char) (bytes : List UInt8) :
    firstChar? (String.utf8EncodeChar c ++ bytes) = some c := by
  obtain ⟨lead, rest, hc, hwidth⟩ := exists_utf8EncodeChar_eq_cons c
  have htake : (lead :: (rest ++ bytes)).take (width lead) = utf8 [c] := by
    rw [hwidth, List.take_succ_cons, List.take_left, utf8, List.flatMap_singleton, hc]
  rw [hc, List.cons_append, firstChar?, htake, ofUtf8?_utf8]

/-- The character that bytes start with is spelled by some of them. -/
lemma utf8EncodeChar_subset_of_firstChar? {bytes : List UInt8} {c : Char}
    (h : firstChar? bytes = some c) : String.utf8EncodeChar c ⊆ bytes := by
  unfold firstChar? at h
  split at h
  next => cases h
  next lead rest =>
    split at h
    next d hspelled =>
      obtain rfl := Option.some.inj h
      rw [ofUtf8?_eq_some_iff, utf8, List.flatMap_singleton] at hspelled
      rw [← hspelled]
      exact List.take_subset _ _
    next => cases h

/-- Bytes that were shown before are passed over. -/
lemma shownAfter_append (front bytes : List UInt8) :
    shownAfter front.length (front ++ bytes) = shown bytes := by
  induction front with
  | nil => rfl
  | cons byte front ih => rw [List.length_cons, List.cons_append, shownAfter, ih]

/-- Bytes show the character that they start with, and then what the others show. -/
lemma shown_append (c : Char) (bytes : List UInt8) :
    shown (String.utf8EncodeChar c ++ bytes) = c :: shown bytes := by
  obtain ⟨lead, rest, hc, hwidth⟩ := exists_utf8EncodeChar_eq_cons c
  have hfirst := firstChar?_append c bytes
  rw [hc, List.cons_append] at hfirst ⊢
  rw [shown, shownAfter, hfirst, hwidth, Nat.add_sub_cancel, shownAfter_append]

/-- The bytes of a text show this text. -/
theorem shown_utf8 (t : Text) : shown (utf8 t) = t := by
  induction t with
  | nil => rfl
  | cons c t ih =>
    have hcons : utf8 (c :: t) = String.utf8EncodeChar c ++ utf8 t := List.flatMap_cons
    rw [hcons, shown_append, ih]

/-- Some bytes show some text. -/
lemma shown_ne_nil {bytes : List UInt8} (h : bytes ≠ []) : shown bytes ≠ [] := by
  obtain ⟨lead, rest, rfl⟩ := List.exists_cons_of_ne_nil h
  rw [shown, shownAfter]
  cases firstChar? (lead :: rest) <;> exact List.cons_ne_nil _ _

/-- A character that is shown and does not stand for broken bytes is spelled among the bytes. -/
theorem utf8EncodeChar_subset_of_mem_shown {bytes : List UInt8} {c : Char} (hc : c ≠ '\ufffd')
    (h : c ∈ shown bytes) : String.utf8EncodeChar c ⊆ bytes := by
  suffices hafter : ∀ told, c ∈ shownAfter told bytes → String.utf8EncodeChar c ⊆ bytes from
    hafter 0 h
  clear h
  intro told h
  induction bytes generalizing told with
  | nil => exact absurd h List.not_mem_nil
  | cons lead rest ih =>
    have hrest : ∀ told, c ∈ shownAfter told rest → String.utf8EncodeChar c ⊆ lead :: rest :=
      fun told h => List.subset_cons_of_subset lead (ih told h)
    cases told with
    | succ told => exact hrest told h
    | zero =>
      rw [shownAfter] at h
      split at h
      next d hfirst =>
        rcases List.mem_cons.mp h with rfl | h
        · exact utf8EncodeChar_subset_of_firstChar? hfirst
        · exact hrest _ h
      next => exact hrest _ ((List.mem_cons.mp h).resolve_left hc)

/-! ## Order -/

/-- The smaller of two numbers has the smaller digits in front, or the same and a smaller
last digit. -/
lemma front_lt_or_digit_lt {m n : Nat} (h : m < n) :
    m / 64 < n / 64 ∨ m / 64 = n / 64 ∧ m % 64 < n % 64 := by
  omega

/-- Of two characters the smaller has the smaller bytes, whatever follows them. -/
lemma utf8EncodeChar_append_lt {c d : Char} (h : c < d) (s t : List UInt8) :
    String.utf8EncodeChar c ++ s < String.utf8EncodeChar d ++ t := by
  have hcode : c.val.toNat < d.val.toNat := h
  have hbound := toNat_val_lt d
  unfold String.utf8EncodeChar
  generalize c.val.toNat = m at *
  generalize d.val.toNat = n at *
  -- all bytes but the first hold the digits in base 64, which are compared one after the other
  have hdigits : ∀ k, k / 262144 = k / 64 / 64 / 64 ∧ k / 4096 = k / 64 / 64 := by omega
  obtain ⟨hm, hm'⟩ := hdigits m
  obtain ⟨hn, hn'⟩ := hdigits n
  have hlast := front_lt_or_digit_lt hcode
  have hthird := @front_lt_or_digit_lt (m / 64) (n / 64)
  have hsecond := @front_lt_or_digit_lt (m / 64 / 64) (n / 64 / 64)
  have hfollowing : ∀ k, (k % 64 + 0x80) % 256 = k % 64 + 0x80 := by omega
  have hfirst : (m / 64 / 64 / 64 % 8 + 0xF0) % 256 = m / 64 / 64 / 64 + 0xF0 := by omega
  have hfirst' : (n / 64 / 64 / 64 % 8 + 0xF0) % 256 = n / 64 / 64 / 64 + 0xF0 := by omega
  simp only
  repeat' split
  all_goals
    simp only [List.cons_append, List.nil_append, List.cons_lt_cons_iff, UInt8.lt_iff_toNat_lt,
      ← UInt8.toNat_inj, UInt8.toNat_ofNat', Nat.reducePow, hm, hm', hn, hn', hfollowing, hfirst,
      hfirst']
    omega

/-- The smaller of two texts has the smaller bytes. -/
lemma utf8_lt_of_lt {s t : Text} (h : s < t) : utf8 s < utf8 t := by
  induction s generalizing t with
  | nil =>
    cases t with
    | nil => exact absurd h (List.lt_irrefl _)
    | cons d r =>
      obtain ⟨byte, rest, hbytes⟩ := List.exists_cons_of_ne_nil (@String.utf8EncodeChar_ne_nil d)
      rw [utf8, utf8, List.flatMap_cons, hbytes]
      exact List.nil_lt_cons _ _
  | cons c s ih =>
    cases t with
    | nil => exact absurd h (List.not_lt_nil _)
    | cons d t =>
      rcases List.cons_lt_cons_iff.mp h with hlt | ⟨rfl, hlt⟩
      · exact utf8EncodeChar_append_lt hlt _ _
      · exact List.append_left_lt (ih hlt)

/-- Texts are ordered as their bytes are. -/
theorem utf8_lt_utf8_iff {s t : Text} : utf8 s < utf8 t ↔ s < t := by
  refine ⟨fun h => ?_, utf8_lt_of_lt⟩
  by_contra hnot
  by_cases heq : s = t
  · exact List.lt_irrefl _ (heq ▸ h)
  · exact List.lt_asymm h (utf8_lt_of_lt (KeyMap.lt_of_not_lt_of_ne hnot heq))

end Text

end ScriptFlow
