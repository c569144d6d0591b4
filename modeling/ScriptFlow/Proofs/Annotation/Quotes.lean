import ScriptFlow.Annotation.Property
import ScriptFlow.Proofs.Text.Lines
import ScriptFlow.Proofs.Text.Trim

/-!
# Quotes and separators

A body is cut at commas, and a part of it at a colon, by two scans that both keep
track of the open quote.  This file says what such a scan does in terms that do
not mention positions: `Passes d o t o'` holds when reading `t` inside the quote
`o` meets no `d` outside quotes and ends inside the quote `o'`.

The scan for commas then gives the pieces of the text (`partsFrom_eq`), each of
which passes from no quote to no quote, and the scan for a colon gives the part
that passes up to it (`cutColonFrom?_eq_some_iff`).  Blanks pass everywhere, so
trimming the text first changes the pieces only at their ends
(`map_trim_pieces_trim`).
-/

namespace ScriptFlow

namespace Property

open Text

/-! ## Open quotes -/

/-- The quote that is open after a character. -/
def quoteAfter : Option Char → Char → Option Char
  | some quote, c => if c == quote then none else some quote
  | none, c => if isQuote c then some c else none

/-- The quote that is open after a text, with the column of its opening. -/
def openAfter : Nat → Option OpenQuote → Text → Option OpenQuote
  | _, opened, [] => opened
  | column, some opened, c :: rest =>
    openAfter (column + 1) (if c == opened.quote then none else some opened) rest
  | column, none, c :: rest =>
    openAfter (column + 1) (if isQuote c then some ⟨c, column⟩ else none) rest

/-- The quote that is open does not depend on columns. -/
lemma map_quote_openAfter (column : Nat) (opened : Option OpenQuote) (t : Text) :
    (openAfter column opened t).map OpenQuote.quote =
      t.foldl quoteAfter (opened.map OpenQuote.quote) := by
  induction t generalizing column opened with
  | nil => cases opened <;> rfl
  | cons c t ih =>
    rw [List.foldl_cons]
    cases opened with
    | none =>
      by_cases h : isQuote c = true
      · simp [openAfter, quoteAfter, ih, h]
      · simp [openAfter, quoteAfter, ih, h]
    | some q =>
      by_cases h : c = q.quote
      · simp [openAfter, quoteAfter, ih, h]
      · simp [openAfter, quoteAfter, ih, h]

/-- A text is closed at one column when it is at any other. -/
lemma openAfter_eq_none_iff {column : Nat} {t : Text} :
    openAfter column none t = none ↔ t.foldl quoteAfter none = none := by
  rw [← Option.map_eq_none_iff (f := OpenQuote.quote), map_quote_openAfter, Option.map_none]

/-- Only quotes are ever open. -/
lemma isQuote_of_foldl_quoteAfter {t : Text} {q : Char}
    (h : t.foldl quoteAfter none = some q) : isQuote q = true := by
  induction t using List.reverseRecOn generalizing q with
  | nil => simp at h
  | append_singleton t c ih =>
    rw [List.foldl_concat] at h
    cases ho : t.foldl quoteAfter none with
    | none =>
      rw [ho] at h
      by_cases hc : isQuote c = true
      · simp only [quoteAfter, hc, if_true, Option.some.injEq] at h
        exact h ▸ hc
      · simp [quoteAfter, hc] at h
    | some q' =>
      rw [ho] at h
      by_cases hc : c = q'
      · simp [quoteAfter, hc] at h
      · simp only [quoteAfter, beq_iff_eq, hc, if_false, Option.some.injEq] at h
        exact ih (h ▸ ho)

/-- Blanks are no quotes. -/
lemma isQuote_eq_false_of_isBlank {c : Char} (h : isBlank c = true) : isQuote c = false := by
  unfold isQuote
  rw [Bool.or_eq_false_iff, beq_eq_false_iff_ne, beq_eq_false_iff_ne]
  constructor <;> rintro rfl <;> simp [isBlank] at h

/-! ## Passing -/

/-- Reading a text inside the first quote, if there is one, meets no `d` outside
quotes and ends inside the last. -/
def Passes (d : Char) : Option Char → Text → Option Char → Prop
  | o, [], o' => o = o'
  | o, c :: rest, o' => (o = none → c ≠ d) ∧ Passes d (quoteAfter o c) rest o'

/-- Passing through two texts in a row. -/
lemma passes_append {d : Char} {o o' : Option Char} {s t : Text} :
    Passes d o (s ++ t) o' ↔ ∃ m, Passes d o s m ∧ Passes d m t o' := by
  induction s generalizing o with
  | nil => simp [Passes]
  | cons c s ih =>
    rw [List.cons_append, Passes, ih]
    simp only [Passes, and_assoc, exists_and_left]

/-- The quote that a text ends in is the one that is open after it. -/
lemma Passes.foldl_eq {d : Char} {o o' : Option Char} {t : Text} (h : Passes d o t o') :
    t.foldl quoteAfter o = o' := by
  induction t generalizing o with
  | nil => exact h
  | cons c t ih => exact ih h.2

/-- A text without quotes passes when it does not hold the separator. -/
lemma passes_plain {d : Char} {t : Text} (hq : ∀ c ∈ t, isQuote c = false) :
    Passes d none t none ↔ d ∉ t := by
  induction t with
  | nil => simp [Passes]
  | cons c t ih =>
    have hc : quoteAfter none c = none := by simp [quoteAfter, hq c (by simp)]
    rw [Passes, hc, ih fun x hx => hq x (List.mem_cons_of_mem _ hx)]
    simp [eq_comm]

/-- Inside a quote everything passes up to the quote. -/
lemma passes_inside (d : Char) {q : Char} {t : Text} (h : q ∉ t) :
    Passes d (some q) t (some q) := by
  induction t with
  | nil => rfl
  | cons c t ih =>
    have hc : c ≠ q := fun hcq => h (by simp [hcq])
    refine ⟨by simp, ?_⟩
    rw [show quoteAfter (some q) c = some q by simp [quoteAfter, hc]]
    exact ih fun hq => h (List.mem_cons_of_mem _ hq)

/-- A text in quotes passes. -/
lemma passes_quoted {d q : Char} {t : Text} (hq : isQuote q = true) (hd : q ≠ d)
    (h : q ∉ t) : Passes d none (q :: t ++ [q]) none := by
  rw [passes_append]
  refine ⟨some q, ⟨fun _ => hd, ?_⟩, by simp, ?_⟩
  · rw [show quoteAfter none q = some q by simp [quoteAfter, hq]]
    exact passes_inside d h
  · simp [Passes, quoteAfter]

/-- Blanks pass. -/
lemma passes_blank {d : Char} {a : Text} (ha : IsBlankText a) (hd : isBlank d = false) :
    Passes d none a none := by
  rw [passes_plain fun c hc => isQuote_eq_false_of_isBlank (ha c hc)]
  intro h
  simp [ha d h] at hd

/-- Blanks around a text do not matter for whether it is closed. -/
lemma foldl_quoteAfter_trim (t : Text) :
    (trim t).foldl quoteAfter none = none ↔ t.foldl quoteAfter none = none := by
  obtain ⟨a, b, ha, hb, ht⟩ := exists_blanks_trim t
  have hfront : a.foldl quoteAfter none = none :=
    (passes_blank (d := ',') ha (by decide)).foldl_eq
  have hback : ∀ o, (∀ q, o = some q → isQuote q = true) →
      b.foldl quoteAfter o = o := by
    intro o ho
    cases o with
    | none => exact (passes_blank (d := ',') hb (by decide)).foldl_eq
    | some q =>
      have hq : q ∉ b := by
        intro hqb
        have := isQuote_eq_false_of_isBlank (hb q hqb)
        rw [ho q rfl] at this
        exact Bool.noConfusion this
      exact (passes_inside ',' hq).foldl_eq
  conv_rhs => rw [ht, List.foldl_append, List.foldl_append, hfront]
  rw [hback _ fun q hq => isQuote_of_foldl_quoteAfter hq]

/-! ## Pieces between commas -/

/-- The pieces of a text between the commas outside quotes. -/
def pieces : Option Char → Text → List Text
  | _, [] => [[]]
  | o, c :: rest =>
    if o = none ∧ c = ',' then [] :: pieces none rest
    else extendFirst c (pieces (quoteAfter o c) rest)

/-- The scan for commas gives the open quote or the pieces. -/
lemma partsFrom_eq (column : Nat) (opened : Option OpenQuote) (t : Text) :
    partsFrom column opened t =
      match openAfter column opened t with
      | some quote => .error quote
      | none => .ok (pieces (opened.map OpenQuote.quote) t) := by
  induction t generalizing column opened with
  | nil => cases opened <;> rfl
  | cons c t ih =>
    cases opened with
    | none =>
      by_cases hc : c = ','
      · subst hc
        have hq : isQuote ',' = false := rfl
        simp only [partsFrom, openAfter, pieces, hq, ih, Option.map_none, beq_self_eq_true,
          and_self, if_true, Bool.false_eq_true, if_false]
        cases openAfter (column + 1) none t <;> rfl
      · by_cases hq : isQuote c = true
        · simp only [partsFrom, openAfter, pieces, hq, if_true, hc, and_false, if_false, ih,
            Option.map_some, Option.map_none, quoteAfter]
          cases openAfter (column + 1) (some ⟨c, column⟩) t <;> rfl
        · simp only [partsFrom, openAfter, pieces, hq, if_false, hc, beq_iff_eq, and_false,
            ih, Option.map_none, quoteAfter, Bool.false_eq_true]
          cases openAfter (column + 1) none t <;> rfl
    | some q =>
      simp only [partsFrom, openAfter, pieces, ih, Option.map_some, reduceCtorEq, false_and,
        if_false, quoteAfter]
      by_cases hc : c = q.quote
      · simp only [hc, beq_self_eq_true, if_true]
        cases openAfter (column + 1) none t <;> rfl
      · simp only [beq_iff_eq, hc, if_false]
        cases openAfter (column + 1) (some q) t <;> rfl

lemma pieces_ne_nil (o : Option Char) (t : Text) : pieces o t ≠ [] := by
  cases t with
  | nil => simp [pieces]
  | cons c t =>
    rw [pieces]
    split
    · simp
    · cases pieces (quoteAfter o c) t <;> simp [extendFirst]

/-- The pieces of a text, taken apart at the first comma outside quotes. -/
lemma pieces_cons_of_passes {o : Option Char} {s : Text} (h : Passes ',' o s none) (t : Text) :
    pieces o (s ++ ',' :: t) = s :: pieces none t := by
  induction s generalizing o with
  | nil =>
    obtain rfl : o = none := h
    simp [pieces]
  | cons c s ih =>
    have hc : ¬(o = none ∧ c = ',') := fun ⟨ho, hcomma⟩ => h.1 ho hcomma
    rw [List.cons_append, pieces, if_neg hc, ih h.2, extendFirst]

/-- A text that passes is its only piece. -/
lemma pieces_of_passes {o o' : Option Char} {s : Text} (h : Passes ',' o s o') :
    pieces o s = [s] := by
  induction s generalizing o with
  | nil => rfl
  | cons c s ih =>
    have hc : ¬(o = none ∧ c = ',') := fun ⟨ho, hcomma⟩ => h.1 ho hcomma
    rw [pieces, if_neg hc, ih h.2, extendFirst]

/-- The pieces of texts between commas are these texts if each passes. -/
lemma pieces_join {segments : List Text} (h : ∀ s ∈ segments, Passes ',' none s none)
    (hne : segments ≠ []) : pieces none (join [','] segments) = segments := by
  induction segments with
  | nil => exact absurd rfl hne
  | cons s rest ih =>
    have hs : Passes ',' none s none := h s (by simp)
    cases rest with
    | nil => rw [join, List.intercalate_singleton, pieces_of_passes hs]
    | cons next rest =>
      have hrest : next :: rest ≠ [] := List.cons_ne_nil next rest
      rw [join_cons_of_ne_nil _ _ hrest, List.append_assoc, List.singleton_append,
        pieces_cons_of_passes hs, ih (fun x hx => h x (List.mem_cons_of_mem _ hx)) hrest]

/-- Texts between commas leave no quote open if none of them does. -/
lemma foldl_quoteAfter_join {segments : List Text}
    (h : ∀ s ∈ segments, Passes ',' none s none) :
    (join [','] segments).foldl quoteAfter none = none := by
  induction segments with
  | nil => rfl
  | cons s rest ih =>
    have hs : s.foldl quoteAfter none = none := (h s (by simp)).foldl_eq
    have hrest := ih fun x hx => h x (List.mem_cons_of_mem _ hx)
    by_cases hne : rest = []
    · rw [hne, join, List.intercalate_singleton, hs]
    · rw [join_cons_of_ne_nil _ _ hne, List.foldl_append, List.foldl_append, hs]
      exact hrest

/-- A text is its pieces between commas. -/
lemma join_pieces (o : Option Char) (t : Text) : join [','] (pieces o t) = t := by
  induction t generalizing o with
  | nil => rfl
  | cons c t ih =>
    rw [pieces]
    split
    next h =>
      rw [join_cons_of_ne_nil _ _ (pieces_ne_nil none t), ih, h.2]
      rfl
    next =>
      obtain ⟨first, rest, hp⟩ := List.exists_cons_of_ne_nil (pieces_ne_nil (quoteAfter o c) t)
      have hjoin := ih (quoteAfter o c)
      rw [hp] at hjoin ⊢
      rw [extendFirst, ← hjoin]
      cases rest with
      | nil => simp [join, List.intercalate_singleton]
      | cons next rest => simp [join, List.intercalate_cons_cons]

/-- Each piece of a text that leaves no quote open passes. -/
lemma passes_of_mem_pieces {o : Option Char} {t : Text} (h : t.foldl quoteAfter o = none) :
    ∃ first rest, pieces o t = first :: rest ∧ Passes ',' o first none ∧
      ∀ piece ∈ rest, Passes ',' none piece none := by
  induction t generalizing o with
  | nil => exact ⟨[], [], rfl, h, by simp⟩
  | cons c t ih =>
    by_cases hc : o = none ∧ c = ','
    · obtain ⟨rfl, rfl⟩ := hc
      obtain ⟨first, rest, hp, hfirst, hrest⟩ := ih h
      have hcomma : pieces none (',' :: t) = [] :: first :: rest := by
        rw [pieces, if_pos ⟨rfl, rfl⟩]
        exact congrArg _ hp
      refine ⟨[], first :: rest, hcomma, rfl, fun piece hpiece => ?_⟩
      rcases List.mem_cons.mp hpiece with rfl | hpiece
      · exact hfirst
      · exact hrest piece hpiece
    · obtain ⟨first, rest, hp, hfirst, hrest⟩ := ih h
      refine ⟨c :: first, rest, ?_, ⟨fun ho hcomma => hc ⟨ho, hcomma⟩, hfirst⟩, hrest⟩
      rw [pieces, if_neg hc, hp, extendFirst]

/-- If a text that is read outside quotes leaves no quote open, all its pieces pass. -/
lemma forall_passes_pieces {t : Text} (h : t.foldl quoteAfter none = none) :
    ∀ piece ∈ pieces none t, Passes ',' none piece none := by
  obtain ⟨first, rest, hp, hfirst, hrest⟩ := passes_of_mem_pieces h
  rw [hp]
  exact List.forall_mem_cons.mpr ⟨hfirst, hrest⟩

/-- Blanks behind a text end up behind its last piece. -/
lemma pieces_append_blank {o : Option Char} {t b : Text} (ht : t.foldl quoteAfter o = none)
    (hb : IsBlankText b) :
    ∃ front last, pieces o t = front ++ [last] ∧ pieces o (t ++ b) = front ++ [last ++ b] := by
  induction t generalizing o with
  | nil =>
    obtain rfl : o = none := ht
    exact ⟨[], [], rfl, pieces_of_passes (passes_blank hb (by decide))⟩
  | cons c t ih =>
    obtain ⟨front, last, hp, hpb⟩ := ih (o := quoteAfter o c) ht
    by_cases hc : o = none ∧ c = ','
    · obtain ⟨rfl, rfl⟩ := hc
      refine ⟨[] :: front, last, ?_, ?_⟩
      · rw [pieces, if_pos ⟨rfl, rfl⟩, show pieces none t = front ++ [last] from hp]
        rfl
      · rw [List.cons_append, pieces, if_pos ⟨rfl, rfl⟩,
          show pieces none (t ++ b) = front ++ [last ++ b] from hpb]
        rfl
    · rw [List.cons_append, pieces, pieces, if_neg hc, if_neg hc, hp, hpb]
      cases front with
      | nil => exact ⟨[], c :: last, rfl, rfl⟩
      | cons first front => exact ⟨(c :: first) :: front, last, rfl, rfl⟩

/-- Blanks in front of a text end up in front of its first piece. -/
lemma pieces_blank_append {a : Text} (ha : IsBlankText a) (t : Text) :
    ∃ first rest, pieces none t = first :: rest ∧ pieces none (a ++ t) = (a ++ first) :: rest := by
  induction a with
  | nil =>
    obtain ⟨first, rest, hp⟩ := List.exists_cons_of_ne_nil (pieces_ne_nil none t)
    exact ⟨first, rest, hp, hp⟩
  | cons c a ih =>
    obtain ⟨first, rest, hp, hpa⟩ := ih fun d hd => ha d (List.mem_cons_of_mem _ hd)
    have hblank : isBlank c = true := ha c (by simp)
    have hc : ¬((none : Option Char) = none ∧ c = ',') := by
      rintro ⟨-, rfl⟩
      simp [isBlank] at hblank
    have hquote : quoteAfter none c = none := by
      simp [quoteAfter, isQuote_eq_false_of_isBlank hblank]
    exact ⟨first, rest, hp, by rw [List.cons_append, pieces, if_neg hc, hquote, hpa]; rfl⟩

/-- The trimmed pieces of a text are those of the trimmed text. -/
lemma map_trim_pieces_trim {t : Text} (h : t.foldl quoteAfter none = none) :
    (pieces none (trim t)).map trim = (pieces none t).map trim := by
  obtain ⟨a, b, ha, hb, ht⟩ := exists_blanks_trim t
  have hclosed : (trim t).foldl quoteAfter none = none := (foldl_quoteAfter_trim t).mpr h
  obtain ⟨first, rest, hp, hpa⟩ := pieces_blank_append ha (trim t)
  have hclosed' : (a ++ trim t).foldl quoteAfter none = none := by
    rw [List.foldl_append, (passes_blank (d := ',') ha (by decide)).foldl_eq, hclosed]
  obtain ⟨front, last, hp', hpb⟩ := pieces_append_blank hclosed' hb
  have hfront : (pieces none (a ++ trim t)).map trim = (pieces none (trim t)).map trim := by
    rw [hp, hpa, List.map_cons, List.map_cons, trim_append_left ha]
  rw [← hfront, hp']
  conv_rhs => rw [ht, hpb]
  rw [List.map_append, List.map_append, List.map_singleton, List.map_singleton,
    trim_append_right _ hb]

/-! ## The first colon -/

/-- The scan for a colon, one character at a time. -/
lemma cutColonFrom?_cons (o : Option Char) (c : Char) (t : Text) :
    cutColonFrom? o (c :: t) =
      if o = none ∧ c = ':' then some ([], t)
      else (cutColonFrom? (quoteAfter o c) t).map fun cut => (c :: cut.1, cut.2) := by
  cases o with
  | none =>
    by_cases hc : c = ':'
    · simp [cutColonFrom?, hc]
    · simp only [cutColonFrom?, beq_iff_eq, hc, and_false, if_false, quoteAfter]
  | some q => simp [cutColonFrom?, quoteAfter]

/-- The scan for a colon stops at the first one that it meets outside quotes. -/
lemma cutColonFrom?_eq_some_iff {o : Option Char} {t before after : Text} :
    cutColonFrom? o t = some (before, after) ↔
      t = before ++ ':' :: after ∧ Passes ':' o before none := by
  induction t generalizing o before with
  | nil => simp [cutColonFrom?]
  | cons c t ih =>
    rw [cutColonFrom?_cons]
    split
    next h =>
      obtain ⟨rfl, rfl⟩ := h
      constructor
      · intro heq
        obtain ⟨rfl, rfl⟩ := Prod.mk.inj (Option.some.inj heq)
        exact ⟨rfl, rfl⟩
      · rintro ⟨heq, hpass⟩
        cases before with
        | nil => rw [(List.cons.inj heq).2]
        | cons d before => exact absurd (List.cons.inj heq).1.symm (hpass.1 rfl)
    next h =>
      rw [Option.map_eq_some_iff]
      constructor
      · rintro ⟨⟨front, back⟩, hcut, heq⟩
        obtain ⟨rfl, rfl⟩ := Prod.mk.inj heq
        obtain ⟨rfl, hpass⟩ := ih.mp hcut
        exact ⟨rfl, fun ho hc => h ⟨ho, hc⟩, hpass⟩
      · rintro ⟨heq, hpass⟩
        cases before with
        | nil => exact absurd ⟨hpass, (List.cons.inj heq).1⟩ h
        | cons d before =>
          obtain ⟨rfl, rfl⟩ := List.cons.inj heq
          exact ⟨(before, after), ih.mpr ⟨rfl, hpass.2⟩, rfl⟩

end Property

end ScriptFlow
