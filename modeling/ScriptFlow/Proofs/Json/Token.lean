import Mathlib.Data.List.Forall2
import ScriptFlow.Json.Printer
import ScriptFlow.Json.Token
import ScriptFlow.Text.Basic

/-!
# Tokens of printed values

Printing a value spells its tokens (`Json.tokens`), with blanks and line ends between
them.  `Token.Lexes` says that a text is divided into some tokens whatever stands behind
it, as long as this does not go on with a number; texts with this property can be put one
after the other.

A number is divided off because its digits do not start with a zero that could be left
out, a string because every escaped character is read as itself.
-/

namespace ScriptFlow

namespace Json

open Text

namespace Token

/-! ## The division of a text -/

/-- One more step does not change how a text is divided. -/
lemma scan?_succ {steps : Nat} {t : Text} {tokens : List Token} (h : scan? steps t = some tokens) :
    scan? (steps + 1) t = some tokens := by
  induction steps generalizing t tokens with
  | zero =>
    cases t with
    | nil => exact h
    | cons c rest => cases h
  | succ steps ih =>
    cases t with
    | nil => exact h
    | cons c rest =>
      rw [scan?] at h ⊢
      by_cases hgap : isGap c
      · rw [if_pos hgap] at h ⊢
        exact ih h
      · rw [if_neg hgap] at h ⊢
        simp only [Option.bind_eq_bind, Option.bind_eq_some_iff] at h ⊢
        obtain ⟨⟨token, behind⟩, hnext, tokens, htokens, heq⟩ := h
        exact ⟨⟨token, behind⟩, hnext, tokens, ih htokens, heq⟩

/-- More steps do not change how a text is divided. -/
lemma scan?_of_le {steps more : Nat} (hle : steps ≤ more) {t : Text} {tokens : List Token}
    (h : scan? steps t = some tokens) : scan? more t = some tokens := by
  induction hle with
  | refl => exact h
  | step _ ih => exact scan?_succ ih

/-- A character between tokens is skipped. -/
lemma ofText?_gap {c : Char} (hc : isGap c) {t : Text} :
    ofText? (c :: t) = ofText? t := by
  rw [ofText?, List.length_cons, scan?, if_pos hc, ofText?]

/-- A text that starts with a token is divided into this token and those of the rest. -/
lemma ofText?_token {c : Char} (hc : ¬isGap c) {t rest : Text} {token : Token}
    (hnext : next? (c :: (t ++ rest)) = some (token, rest)) {tokens : List Token}
    (hrest : ofText? rest = some tokens) :
    ofText? (c :: (t ++ rest)) = some (token :: tokens) := by
  have hsteps : rest.length ≤ (t ++ rest).length := by
    rw [List.length_append]
    omega
  have hscan : scan? (t ++ rest).length rest = some tokens := scan?_of_le hsteps hrest
  rw [ofText?, List.length_cons, scan?, if_neg hc]
  simp only [hnext, Option.bind_eq_bind, Option.bind_some, hscan]

/-- The text does not go on with a number that stands before it. -/
def EndsNumber (t : Text) : Prop :=
  ∀ c ∈ t.head?, ¬c.isDigit ∧ c ≠ '.' ∧ c ≠ 'e' ∧ c ≠ 'E'

/-- The text is divided into these tokens whatever stands behind it, as long as this does
not go on with a number. -/
def Lexes (t : Text) (tokens : List Token) : Prop :=
  ∀ rest behind, EndsNumber rest → ofText? rest = some behind →
    ofText? (t ++ rest) = some (tokens ++ behind)

lemma endsNumber_nil : EndsNumber [] := by
  intro c hc
  cases hc

/-- Whether a text goes on with a number is decided by its first character. -/
lemma endsNumber_cons {c : Char} {t : Text}
    (hc : ¬c.isDigit ∧ c ≠ '.' ∧ c ≠ 'e' ∧ c ≠ 'E') : EndsNumber (c :: t) := by
  intro d hd
  obtain rfl : c = d := Option.some.inj hd
  exact hc

lemma EndsNumber.append {s t : Text} (hs : EndsNumber s) (ht : EndsNumber t) :
    EndsNumber (s ++ t) := by
  cases s with
  | nil => exact ht
  | cons c s => exact endsNumber_cons (hs c rfl)

lemma lexes_nil : Lexes [] [] := fun _ _ _ h => h

/-- Characters between tokens may stand before a text. -/
lemma Lexes.gap {gap t : Text} {tokens : List Token} (h : Lexes t tokens)
    (hgap : ∀ c ∈ gap, isGap c) : Lexes (gap ++ t) tokens := by
  intro rest behind hends hrest
  induction gap with
  | nil => exact h rest behind hends hrest
  | cons c gap ih =>
    obtain ⟨hc, hgap⟩ := List.forall_mem_cons.mp hgap
    rw [List.cons_append, List.cons_append, ofText?_gap hc]
    exact ih hgap

/-- A character that is a token by itself may stand before a text. -/
lemma Lexes.cons {t : Text} {tokens : List Token} (h : Lexes t tokens) {c : Char} {token : Token}
    (hc : ¬isGap c) (hnext : ∀ rest, next? (c :: rest) = some (token, rest)) :
    Lexes (c :: t) (token :: tokens) := by
  intro rest behind hends hrest
  exact ofText?_token (t := []) hc (hnext _) (h rest behind hends hrest)

/-- Two texts can be put one after the other unless the second one goes on with a number. -/
lemma Lexes.append {s t : Text} {first second : List Token} (hs : Lexes s first)
    (ht : Lexes t second) (hends : EndsNumber t) : Lexes (s ++ t) (first ++ second) := by
  intro rest behind hrest hbehind
  rw [List.append_assoc, List.append_assoc]
  exact hs _ _ (hends.append hrest) (ht rest behind hrest hbehind)

/-- A text alone is divided into its tokens. -/
lemma Lexes.ofText?_eq {t : Text} {tokens : List Token} (h : Lexes t tokens) :
    ofText? t = some tokens := by
  have hall := h [] [] endsNumber_nil rfl
  rwa [List.append_nil, List.append_nil] at hall

/-! ## Numbers -/

/-- Before a text that does not go on with a number, all digits are taken. -/
lemma spanDigits_append {digits rest : Text} (hdigits : ∀ c ∈ digits, c.isDigit)
    (hrest : EndsNumber rest) : spanDigits (digits ++ rest) = (digits, rest) := by
  have hnone : rest.takeWhile Char.isDigit = [] ∧ rest.dropWhile Char.isDigit = rest := by
    cases rest with
    | nil => exact ⟨rfl, rfl⟩
    | cons c rest =>
      have hc : ¬c.isDigit := (hrest c rfl).1
      exact ⟨List.takeWhile_cons_of_neg hc, List.dropWhile_cons_of_neg hc⟩
  rw [spanDigits, List.takeWhile_append_of_pos hdigits, List.dropWhile_append_of_pos hdigits,
    hnone.1, hnone.2, List.append_nil]

/-- The digits of a number that is not zero do not start with a zero. -/
lemma head?_ofNat_ne_zero {n : Nat} (hn : n ≠ 0) : (ofNat n).head? ≠ some '0' := by
  induction n using Nat.strongRecOn with
  | ind n ih =>
    rw [ofNat, Nat.toDigits_eq_if (by decide)]
    split
    next => simp [hn]
    next hlarge =>
      have hsmaller : (ofNat (n / 10)).head? ≠ some '0' := ih (n / 10) (by omega) (by omega)
      rw [ofNat] at hsmaller
      rw [List.head?_append]
      cases hdigits : (Nat.toDigits 10 (n / 10)).head? with
      | none => exact absurd (List.head?_eq_none_iff.mp hdigits) Nat.toDigits_ne_nil
      | some c => rwa [hdigits] at hsmaller

/-- The digits of a number are read as a whole number. -/
lemma whole?_ofNat (n : Nat) {rest : Text} (hrest : EndsNumber rest) :
    whole? (ofNat n ++ rest) = some (ofNat n, rest) := by
  have hdigits : ∀ c ∈ ofNat n, c.isDigit :=
    fun c hc => Nat.isDigit_of_mem_toDigits (by decide) (by decide) hc
  by_cases hn : n = 0
  · subst hn
    have hzero : ofNat 0 = ['0'] := rfl
    rw [hzero, List.singleton_append, whole?]
    cases rest with
    | nil => rfl
    | cons c rest => simp [(hrest c rfl).1]
  · have hhead := head?_ofNat_ne_zero hn
    have hspan := spanDigits_append hdigits hrest
    cases hcase : ofNat n with
    | nil => exact absurd hcase Nat.toDigits_ne_nil
    | cons c digits =>
      rw [hcase] at hhead hspan
      have hc : c ≠ '0' := fun heq => hhead (congrArg some heq)
      unfold whole?
      split
      next heq => exact absurd (List.cons.inj heq).1 hc
      next => rw [hspan]

lemma fraction?_eq {rest : Text} (h : EndsNumber rest) : fraction? rest = some ([], rest) := by
  unfold fraction?
  split
  next => exact absurd rfl (h '.' rfl).2.1
  next => rfl

lemma exponent?_eq {rest : Text} (h : EndsNumber rest) : exponent? rest = some ([], rest) := by
  unfold exponent?
  split
  next c rest =>
    obtain ⟨-, -, he, hE⟩ := h c rfl
    rw [if_neg (by simp [he, hE])]
  next => rfl

/-- A text that starts with a digit starts with a number. -/
lemma next?_of_isDigit {c : Char} (hc : c.isDigit) (t : Text) :
    next? (c :: t) = number? (c :: t) := by
  unfold next?
  split
  all_goals first
    | rfl
    | next heq =>
      rw [(List.cons.inj heq).1] at hc
      exact absurd hc (by decide)

/-- The digits of a number are one token. -/
lemma lexes_ofNat (n : Nat) : Lexes (ofNat n) [.nat n] := by
  intro rest behind hends hrest
  have hdigits : ∀ c ∈ ofNat n, c.isDigit :=
    fun c hc => Nat.isDigit_of_mem_toDigits (by decide) (by decide) hc
  have hwhole := whole?_ofNat n hends
  have hvalue : Nat.ofDigitChars 10 (ofNat n) 0 = n := Nat.ofDigitChars_ten_toDigits
  cases hcase : ofNat n with
  | nil => exact absurd hcase Nat.toDigits_ne_nil
  | cons c digits =>
    rw [hcase] at hdigits hwhole hvalue
    have hc : c.isDigit := hdigits c List.mem_cons_self
    have hgap : ¬isGap c := by
      have hne : c ≠ ' ' ∧ c ≠ '\n' ∧ c ≠ '\t' ∧ c ≠ '\r' := by
        refine ⟨?_, ?_, ?_, ?_⟩ <;> rintro rfl <;> exact absurd hc (by decide)
      simp [isGap, hne]
    have hminus : c ≠ '-' := by
      rintro rfl
      exact absurd hc (by decide)
    have hnumber : number? (c :: (digits ++ rest)) = some (.nat n, rest) := by
      rw [List.cons_append] at hwhole
      simp [number?, hminus, hwhole, fraction?_eq hends, exponent?_eq hends, hvalue]
    exact ofText?_token hgap ((next?_of_isDigit hc _).trans hnumber) hrest

/-! ## Strings -/

/-- The hexadecimal digits of a control character spell its number. -/
lemma hex4?_hexDigit {n : Nat} (hn : n < 0x20) :
    hex4? '0' '0' (hexDigit (n / 16)) (hexDigit (n % 16)) = some n := by
  have hall : ∀ n < 0x20, hex4? '0' '0' (hexDigit (n / 16)) (hexDigit (n % 16)) = some n := by
    decide
  exact hall n hn

/-- The number of a control character stands for this character alone. -/
lemma textOfUnits?_code {n : Nat} (hn : n < 0x20) (units : List Unit16) :
    textOfUnits? (.code n :: units) = (textOfUnits? units).map (Char.ofNat n :: ·) := by
  have hhigh : ¬isHigh n := by
    simp only [isHigh, Bool.and_eq_true, decide_eq_true_eq]
    omega
  have hlow : ¬isLow n := by
    simp only [isLow, Bool.and_eq_true, decide_eq_true_eq]
    omega
  rcases units with _ | ⟨char | code, units⟩
  · simp [textOfUnits?, hhigh, hlow]
  · simp [textOfUnits?, hhigh, hlow]
  · rw [textOfUnits?, if_neg hhigh, if_neg hlow]

/-- A character that needs no escape is one unit. -/
lemma units?_of_visible {c : Char} (hquote : c ≠ '"') (hbackslash : c ≠ '\\')
    (hvisible : ¬c.toNat < 0x20) (t : Text) :
    units? (c :: t) = (units? t).map fun (units, rest) => (.char c :: units, rest) := by
  rw [units?.eq_def]
  split
  next heq => cases heq
  next heq => exact absurd (List.cons.inj heq).1 hquote
  next heq => exact absurd (List.cons.inj heq).1 hbackslash
  next heq => exact absurd (List.cons.inj heq).1 hbackslash
  next heq =>
    obtain ⟨rfl, rfl⟩ := List.cons.inj heq
    rw [if_neg (by simp [hvisible, hbackslash])]
    cases units? t <;> rfl

/-- A character is spelled in a string by one unit, which stands for it. -/
lemma exists_units?_escapeChar (c : Char) :
    ∃ unit, (∀ t, units? (escapeChar c ++ t) =
        (units? t).map fun (units, rest) => (unit :: units, rest)) ∧
      ∀ units, textOfUnits? (unit :: units) = (textOfUnits? units).map (c :: ·) := by
  unfold escapeChar
  split
  case h_8 _ hquote hbackslash _ _ _ _ _ =>
    split
    next hcontrol =>
      refine ⟨.code c.toNat, fun t => ?_, fun units => ?_⟩
      · have hdigits := hex4?_hexDigit hcontrol
        cases h : units? t <;> simp [units?, hdigits, h]
      · rw [textOfUnits?_code hcontrol, Char.ofNat_toNat]
    next hvisible =>
      exact ⟨.char c, units?_of_visible hquote hbackslash hvisible, fun units => rfl⟩
  -- the characters with a letter of their own
  all_goals
    refine ⟨.char _, fun t => ?_, fun units => rfl⟩
    cases h : units? t <;> simp [units?, simpleEscape?, h]

/-- The characters of a text in quotes are read up to the closing quote. -/
lemma exists_units?_flatMap (t rest : Text) :
    ∃ units, units? (t.flatMap escapeChar ++ '"' :: rest) = some (units, rest) ∧
      textOfUnits? units = some t := by
  induction t with
  | nil => exact ⟨[], rfl, rfl⟩
  | cons c t ih =>
    obtain ⟨units, hunits, htext⟩ := ih
    obtain ⟨unit, hread, hstands⟩ := exists_units?_escapeChar c
    refine ⟨unit :: units, ?_, ?_⟩
    · rw [List.flatMap_cons, List.append_assoc, hread, hunits]
      rfl
    · rw [hstands, htext]
      rfl

/-- A text in quotes is one token. -/
lemma lexes_quote (t : Text) : Lexes (quote t) [.str t] := by
  intro rest behind _ hrest
  obtain ⟨units, hunits, htext⟩ := exists_units?_flatMap t rest
  have hstring : string? (t.flatMap escapeChar ++ ['"'] ++ rest) = some (.str t, rest) := by
    rw [List.append_assoc, List.singleton_append, string?, hunits, Option.map_some]
    dsimp only
    rw [htext]
  have hnext : next? ('"' :: (t.flatMap escapeChar ++ ['"'] ++ rest)) = some (.str t, rest) :=
    hstring
  exact ofText?_token (by decide) hnext hrest

end Token

end Json

end ScriptFlow
