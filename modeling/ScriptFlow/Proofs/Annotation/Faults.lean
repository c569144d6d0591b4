import ScriptFlow.Proofs.Annotation.Grammar

/-!
# Faults of property lists

The grammar says which bodies are read.  Of any other body one fault is reported, and this file
says which.  A quote that stays open comes before everything else, for without its end there is
no telling where the segments are (`EndsInside`).  Otherwise commas divide the body into
segments that leave no quote open, and the first one that is neither blank nor spells a property
is blamed (`Blames`).

A segment is scanned once more for its colon, and the scan could end inside a quote like the one
before (`separators`).  It never does: a body that ends outside quotes has only segments that do,
and blanks around a segment open and close nothing.
-/

namespace ScriptFlow

namespace Property

open Text

/-! ## Open quotes -/

/-- A text that is read from left to right and ends outside quotes. -/
def IsClosed (t : Text) : Prop :=
  t.foldl quoteAfter none = none

/-- A text that ends inside a quote.  What stands before the quote ends outside quotes, and the
character that opens it does not occur again.  Columns count from 1. -/
inductive EndsInside : Text → OpenQuote → Prop
  | intro {before inside : Text} {quote : Char} (hbefore : IsClosed before)
      (hquote : isQuote quote = true) (hinside : quote ∉ inside) :
      EndsInside (before ++ quote :: inside) ⟨quote, before.length + 1⟩

/-- The quote that is open after two texts in a row. -/
lemma openAfter_append (column : Nat) (opened : Option OpenQuote) (s t : Text) :
    openAfter column opened (s ++ t) =
      openAfter (column + s.length) (openAfter column opened s) t := by
  induction s generalizing column opened with
  | nil => cases opened <;> rfl
  | cons c s ih =>
    cases opened <;>
      rw [List.cons_append, openAfter, openAfter, ih, List.length_cons, Nat.add_right_comm,
        Nat.add_assoc]

/-- A quote stays open as long as its character does not occur. -/
lemma openAfter_of_not_mem (column : Nat) {opened : OpenQuote} {t : Text}
    (h : opened.quote ∉ t) : openAfter column (some opened) t = some opened := by
  induction t generalizing column with
  | nil => rfl
  | cons c t ih =>
    have hc : c ≠ opened.quote := (List.ne_of_not_mem_cons h).symm
    rw [openAfter, if_neg (by simpa using hc)]
    exact ih (column + 1) (List.not_mem_of_not_mem_cons h)

/-- A quote in which a text ends is closed only by its own character. -/
lemma EndsInside.concat {t : Text} {opened : OpenQuote} (h : EndsInside t opened) {c : Char}
    (hc : c ≠ opened.quote) : EndsInside (t ++ [c]) opened := by
  cases h with
  | intro hbefore hquote hinside =>
    rw [List.append_assoc, List.cons_append]
    refine .intro hbefore hquote (List.not_mem_append hinside ?_)
    rw [List.mem_singleton]
    exact hc.symm

/-- The quote that is open at the end is the one that the text ends inside. -/
theorem openAfter_eq_some_iff {t : Text} {opened : OpenQuote} :
    openAfter 1 none t = some opened ↔ EndsInside t opened := by
  constructor
  · intro h
    induction t using List.reverseRecOn generalizing opened with
    | nil => cases h
    | append_singleton t c ih =>
      rw [openAfter_append] at h
      cases hopen : openAfter 1 none t with
      | none =>
        -- the last character opens the quote
        rw [hopen] at h
        by_cases hc : isQuote c = true
        · rw [openAfter, if_pos hc] at h
          obtain rfl := Option.some.inj h
          rw [Nat.add_comm 1]
          exact .intro (openAfter_eq_none_iff.mp hopen) hc List.not_mem_nil
        · rw [openAfter, if_neg hc] at h
          cases h
      | some quote =>
        -- the quote was open before and the last character does not close it
        rw [hopen, openAfter] at h
        by_cases hc : c = quote.quote
        · rw [if_pos (beq_iff_eq.mpr hc)] at h
          cases h
        · rw [if_neg (by simpa using hc)] at h
          obtain rfl := Option.some.inj h
          exact (ih hopen).concat hc
  · rintro ⟨hbefore, hquote, hinside⟩
    rw [openAfter_append, openAfter_eq_none_iff.mpr hbefore, openAfter, if_pos hquote,
      openAfter_of_not_mem _ hinside, Nat.add_comm]

/-- A text that ends inside a quote is one that does not end outside. -/
lemma exists_endsInside_iff {t : Text} : (∃ opened, EndsInside t opened) ↔ ¬IsClosed t := by
  rw [IsClosed, ← @openAfter_eq_none_iff 1, ← ne_eq, Option.ne_none_iff_exists']
  simp only [openAfter_eq_some_iff]

/-! ## Segments -/

/-- The segments of a text between the commas outside quotes, if it is read inside the given
quote.  The last segment may end inside a quote. -/
inductive Divides : Option Char → Text → List Text → Prop
  | last {o o' : Option Char} {segment : Text} (h : Passes ',' o segment o') :
      Divides o segment [segment]
  | comma {o : Option Char} {segment rest : Text} {segments : List Text}
      (h : Passes ',' o segment none) (hrest : Divides none rest segments) :
      Divides o (segment ++ ',' :: rest) (segment :: segments)

/-- The pieces of a text are its segments. -/
theorem divides_pieces (o : Option Char) (t : Text) : Divides o t (pieces o t) := by
  induction t generalizing o with
  | nil => exact .last rfl
  | cons c t ih =>
    rw [pieces]
    split
    next hcomma =>
      obtain ⟨rfl, rfl⟩ := hcomma
      have hempty : Passes ',' none [] none := rfl
      exact .comma hempty (ih none)
    next hother =>
      have hc : o = none → c ≠ ',' := fun ho hcomma => hother ⟨ho, hcomma⟩
      have hrest := ih (quoteAfter o c)
      generalize pieces (quoteAfter o c) t = segments at hrest
      cases hrest with
      | last h => exact .last ⟨hc, h⟩
      | @comma _ segment _ _ h hrest =>
        have hfirst : Passes ',' o (c :: segment) none := ⟨hc, h⟩
        exact .comma hfirst hrest

/-- A text has no other segments. -/
lemma Divides.eq_pieces {o : Option Char} {t : Text} {segments : List Text}
    (h : Divides o t segments) : segments = pieces o t := by
  induction h with
  | last h => exact (pieces_of_passes h).symm
  | comma h _ ih => rw [pieces_cons_of_passes h, ih]

/-- The segments of a text that ends outside quotes leave no quote open. -/
lemma Divides.passes {t : Text} {segments : List Text} (h : Divides none t segments)
    (hclosed : IsClosed t) : ∀ segment ∈ segments, Passes ',' none segment none := by
  rw [h.eq_pieces]
  exact forall_passes_pieces hclosed

/-- A text of blank segments ends outside quotes. -/
lemma Divides.isClosed_of_blank {t : Text} {segments : List Text} (h : Divides none t segments)
    (hblank : ∀ segment ∈ segments, IsBlankText segment) : IsClosed t := by
  rw [← join_pieces none t, ← h.eq_pieces]
  exact foldl_quoteAfter_join fun segment hsegment =>
    passes_blank (hblank segment hsegment) (by decide)

/-! ## The scan for a colon -/

/-- The places at which a separator stands outside quotes, counted on from the given one, or the
quote that the text ends inside.  The scan starts inside a quote if there is one. -/
def separatorsFrom (d : Char) : Nat → Option OpenQuote → Text → Except OpenQuote (List Nat)
  | _, none, [] => .ok []
  | _, some opened, [] => .error opened
  | i, some opened, c :: rest =>
    separatorsFrom d (i + 1) (if c == opened.quote then none else some opened) rest
  | i, none, c :: rest =>
    if isQuote c then separatorsFrom d (i + 1) (some ⟨c, i + 1⟩) rest
    else if c == d then (separatorsFrom d (i + 1) none rest).map (i :: ·)
    else separatorsFrom d (i + 1) none rest

/-- The places at which a separator stands outside quotes, or the quote that the text ends
inside. -/
def separators (d : Char) (t : Text) : Except OpenQuote (List Nat) :=
  separatorsFrom d 0 none t

/-- A scan fails when the text ends inside a quote. -/
lemma separatorsFrom_eq_error_iff {d : Char} {i : Nat} {o : Option OpenQuote} {t : Text}
    {opened : OpenQuote} :
    separatorsFrom d i o t = .error opened ↔ openAfter (i + 1) o t = some opened := by
  induction t generalizing i o with
  | nil => cases o <;> simp [separatorsFrom, openAfter]
  | cons c t ih =>
    cases o with
    | some quote => rw [separatorsFrom, openAfter, ih]
    | none =>
      rw [separatorsFrom, openAfter]
      split
      next => exact ih
      next =>
        rw [← ih]
        split
        next => cases separatorsFrom d (i + 1) none t <;> simp [Except.map]
        next => rfl

/-- A scan fails exactly when the text ends inside a quote, and with this quote. -/
theorem separators_eq_error_iff {d : Char} {t : Text} {opened : OpenQuote} :
    separators d t = .error opened ↔ EndsInside t opened :=
  separatorsFrom_eq_error_iff.trans openAfter_eq_some_iff

/-- The first colon that a scan finds is the one at which a text is cut. -/
lemma head?_separatorsFrom {i : Nat} {o : Option OpenQuote} {t : Text} {places : List Nat}
    (h : separatorsFrom ':' i o t = .ok places) :
    places.head? =
      (cutColonFrom? (o.map OpenQuote.quote) t).map fun cut => i + cut.1.length := by
  induction t generalizing i o places with
  | nil =>
    cases o with
    | none =>
      obtain rfl := Except.ok.inj h
      rfl
    | some quote => cases h
  | cons c t ih =>
    have hshift : ∀ cut : Option (Text × Text),
        (cut.map fun cut => (c :: cut.1, cut.2)).map (fun cut => i + cut.1.length) =
          cut.map fun cut => i + 1 + cut.1.length := by
      intro cut
      cases cut with
      | none => rfl
      | some cut => simp [Nat.add_comm, Nat.add_left_comm]
    rw [cutColonFrom?_cons]
    cases o with
    | some quote =>
      rw [separatorsFrom] at h
      rw [Option.map_some, if_neg (by simp), hshift, ih h]
      congr 2
      rw [quoteAfter]
      split <;> rfl
    | none =>
      rw [separatorsFrom] at h
      rw [Option.map_none]
      split at h
      next hquote =>
        have hc : c ≠ ':' := by
          rintro rfl
          cases hquote
        rw [if_neg (by simp [hc]), hshift, ih h, quoteAfter, if_pos hquote]
        rfl
      next hquote =>
        split at h
        next hcolon =>
          obtain ⟨others, -, rfl⟩ := map_eq_ok_iff.mp h
          rw [if_pos ⟨rfl, beq_iff_eq.mp hcolon⟩]
          rfl
        next hcolon =>
          rw [if_neg (by simpa using hcolon), hshift, ih h, quoteAfter, if_neg hquote]
          rfl

/-- A scan that succeeds finds where the text is cut. -/
lemma cutColon?_eq_of_separators {t : Text} {places : List Nat}
    (h : separators ':' t = .ok places) :
    cutColon? t = places.head?.map fun i => (t.take i, t.drop (i + 1)) := by
  have hhead : places.head? = (cutColon? t).map fun cut => 0 + cut.1.length :=
    head?_separatorsFrom h
  rw [hhead]
  cases hcut : cutColon? t with
  | none => rfl
  | some cut =>
    obtain ⟨before, after⟩ := cut
    obtain ⟨rfl, -⟩ := cutColonFrom?_eq_some_iff.mp hcut
    simp

/-! ## Malformed segments -/

/-- A segment that is not blank and spells no property. -/
structure IsMalformed (segment : Text) : Prop where
  notBlank : ¬IsBlankText segment
  notSpelled : ∀ p, ¬Spells segment p

/-- What is blamed on a malformed segment, taken without the blanks around it. -/
inductive Blames : Text → PropertyError → Prop
  /-- Every colon stands inside quotes. -/
  | missingSeparator {part : Text}
      (hinside : ∀ before after, part = before ++ ':' :: after → ¬IsClosed before) :
      Blames part (.missingSeparator part)
  /-- Before the first colon outside quotes there is no key. -/
  | invalidKey {part before after : Text} (hpart : part = before ++ ':' :: after)
      (hfirst : Passes ':' none before none) (hkey : isIdentifier (trim before) = false) :
      Blames part (.invalidKey (trim before))
  /-- There is a key, and then the fault is in the quotes of the value. -/
  | mismatchedQuotes {part before after : Text} (hpart : part = before ++ ':' :: after)
      (hfirst : Passes ':' none before none) (hkey : isIdentifier (trim before) = true) :
      Blames part (.mismatchedQuotes (trim before) (trim after))

/-- Before a colon outside quotes, or at it, there is a first one. -/
lemma exists_first_colon {o : Option Char} {before : Text}
    (h : before.foldl quoteAfter o = none) (after : Text) :
    ∃ front back, before ++ ':' :: after = front ++ ':' :: back ∧ Passes ':' o front none := by
  induction before generalizing o with
  | nil => exact ⟨[], after, rfl, h⟩
  | cons c before ih =>
    by_cases hc : o = none ∧ c = ':'
    · obtain ⟨rfl, rfl⟩ := hc
      exact ⟨[], before ++ ':' :: after, rfl, rfl⟩
    · obtain ⟨front, back, hsplit, hpass⟩ := ih h
      refine ⟨c :: front, back, ?_, fun ho hcolon => hc ⟨ho, hcolon⟩, hpass⟩
      rw [List.cons_append, hsplit, List.cons_append]

/-- A part is not cut when all its colons stand inside quotes. -/
lemma cutColon?_eq_none_iff {part : Text} :
    cutColon? part = none ↔
      ∀ before after, part = before ++ ':' :: after → ¬IsClosed before := by
  constructor
  · rintro hcut before after rfl hclosed
    obtain ⟨front, back, hsplit, hpass⟩ := exists_first_colon hclosed after
    have hfirst : cutColon? (before ++ ':' :: after) = some (front, back) :=
      cutColonFrom?_eq_some_iff.mpr ⟨hsplit, hpass⟩
    rw [hcut] at hfirst
    cases hfirst
  · intro hinside
    cases hcut : cutColon? part with
    | none => rfl
    | some cut =>
      obtain ⟨hpart, hpass⟩ := cutColonFrom?_eq_some_iff.mp hcut
      exact absurd hpass.foldl_eq (hinside _ _ hpart)

/-- What is blamed on a part is told by where it is cut. -/
lemma blames_iff {part : Text} {e : PropertyError} :
    Blames part e ↔ e =
      match cutColon? part with
      | none => .missingSeparator part
      | some (before, after) =>
        if isIdentifier (trim before) then .mismatchedQuotes (trim before) (trim after)
        else .invalidKey (trim before) := by
  constructor
  · rintro (hinside | ⟨hpart, hfirst, hkey⟩ | ⟨hpart, hfirst, hkey⟩)
    · rw [cutColon?_eq_none_iff.mpr hinside]
    · rw [cutColon?, cutColonFrom?_eq_some_iff.mpr ⟨hpart, hfirst⟩]
      simp [hkey]
    · rw [cutColon?, cutColonFrom?_eq_some_iff.mpr ⟨hpart, hfirst⟩]
      simp [hkey]
  · rintro rfl
    cases hcut : cutColon? part with
    | none => exact .missingSeparator (cutColon?_eq_none_iff.mp hcut)
    | some cut =>
      obtain ⟨hpart, hfirst⟩ := cutColonFrom?_eq_some_iff.mp hcut
      dsimp only
      split
      next hkey => exact .mismatchedQuotes hpart hfirst hkey
      next hkey => exact .invalidKey hpart hfirst (Bool.eq_false_iff.mpr hkey)

/-- A part that is not read is blamed. -/
lemma blames_of_ofPart {part : Text} {e : PropertyError} (h : ofPart part = .error e) :
    Blames part e := by
  rw [blames_iff]
  rw [ofPart] at h
  cases hcut : cutColon? part with
  | none =>
    rw [hcut] at h
    exact (Except.error.inj h).symm
  | some cut =>
    obtain ⟨before, after⟩ := cut
    simp only [hcut] at h ⊢
    cases hkey : isIdentifier (trim before) with
    | false =>
      simp only [hkey] at h
      exact (Except.error.inj h).symm
    | true =>
      simp only [hkey, Bool.not_true, Bool.false_eq_true, if_false, if_true] at h ⊢
      split at h
      next => exact (Except.error.inj h).symm
      next => cases h

/-- Of a malformed segment that leaves no quote open there is a fault to report. -/
lemma IsMalformed.exists_ofPart_eq {segment : Text} (h : IsMalformed segment)
    (hpass : Passes ',' none segment none) : ∃ e, ofPart (trim segment) = .error e := by
  cases hread : ofPart (trim segment) with
  | error e => exact ⟨e, rfl⟩
  | ok p => exact absurd (spells_of_ofPart_trim hpass hread) (h.notSpelled p)

/-- Segments none of which is malformed spell a list of properties. -/
lemma exists_spellsList {segments : List Text}
    (h : ∀ segment ∈ segments, ¬IsMalformed segment) :
    ∃ properties, SpellsList segments properties := by
  induction segments with
  | nil => exact ⟨[], .nil⟩
  | cons segment rest ih =>
    obtain ⟨hsegment, hrest⟩ := List.forall_mem_cons.mp h
    obtain ⟨properties, hproperties⟩ := ih hrest
    by_cases hblank : IsBlankText segment
    · exact ⟨properties, .blank hblank hproperties⟩
    · have hspells : ∃ p, Spells segment p := by
        by_contra hnone
        exact hsegment ⟨hblank, not_exists.mp hnone⟩
      obtain ⟨p, hp⟩ := hspells
      exact ⟨p :: properties, .property hp hproperties⟩

/-! ## What is reported -/

variable {body : Text} {segments : List Text}

/-- An open quote is reported whatever else is wrong. -/
lemma parse_of_endsInside {opened : OpenQuote} (h : EndsInside (trim body) opened) :
    parse body = .error (.unterminatedQuote opened.quote opened.column) := by
  rw [parse_eq, openAfter_eq_some_iff.mpr h]

/-- Without an open quote the segments are read one after the other, unless all are blank. -/
lemma parse_of_isClosed (hsegments : Divides none (trim body) segments)
    (hclosed : IsClosed (trim body)) :
    parse body =
      if ∀ segment ∈ segments, IsBlankText segment then .error .empty
      else (partsToRead segments).mapM ofPart := by
  have htrim : trim (trim body) = trim body := (isTrimmed_trim body).trim_eq
  have hparse : parse body = parse (trim body) := by rw [parse, parse, htrim]
  rw [hparse, parse_eq, htrim, openAfter_eq_none_iff.mpr hclosed, ← hsegments.eq_pieces]
  cases hparts : partsToRead segments with
  | nil =>
    have hblank : ∀ segment ∈ segments, IsBlankText segment := by
      by_contra hsome
      push Not at hsome
      exact partsToRead_ne_nil_iff.mpr hsome hparts
    rw [if_pos hblank]
  | cons part parts =>
    have hsome : ∃ segment ∈ segments, ¬IsBlankText segment :=
      partsToRead_ne_nil_iff.mp (by simp [hparts])
    rw [if_neg (by push Not; exact hsome)]

/-- The first malformed segment is blamed, if no quote is open. -/
lemma exists_parse_eq_of_isMalformed {front back : List Text} {segment : Text}
    (hsegments : Divides none (trim body) (front ++ segment :: back))
    (hclosed : IsClosed (trim body)) (hfront : ∀ earlier ∈ front, ¬IsMalformed earlier)
    (hsegment : IsMalformed segment) :
    ∃ e, parse body = .error e ∧ Blames (trim segment) e := by
  have hmem : segment ∈ front ++ segment :: back :=
    List.mem_append_right front List.mem_cons_self
  obtain ⟨e, he⟩ := hsegment.exists_ofPart_eq (hsegments.passes hclosed segment hmem)
  have hparts : partsToRead (front ++ segment :: back) =
      partsToRead front ++ trim segment :: partsToRead back := by
    rw [← partsToRead_cons hsegment.notBlank]
    simp [partsToRead]
  have hread : ∀ earlier ∈ partsToRead front, ∃ p, ofPart earlier = .ok p := by
    obtain ⟨properties, hproperties⟩ := exists_spellsList hfront
    intro earlier hearlier
    have hall := mapM_eq_ok_iff.mp (mapM_ofPart_of_spellsList hproperties)
    obtain ⟨p, -, hp⟩ := exists_mem_right_of_forall₂ hall hearlier
    exact ⟨p, hp⟩
  refine ⟨e, ?_, blames_of_ofPart he⟩
  rw [parse_of_isClosed hsegments hclosed,
    if_neg fun hblank => hsegment.notBlank (hblank segment hmem), hparts]
  exact mapM_eq_error_iff.mpr ⟨_, _, _, rfl, hread, he⟩

/-- Without an open quote all segments are blank or one of them is blamed. -/
lemma blank_or_exists_blames_of_parse (hsegments : Divides none (trim body) segments)
    (hclosed : IsClosed (trim body)) {e : PropertyError} (h : parse body = .error e) :
    (e = .empty ∧ ∀ segment ∈ segments, IsBlankText segment) ∨ ∃ part, Blames part e := by
  rw [parse_of_isClosed hsegments hclosed] at h
  split at h
  next hblank => exact .inl ⟨(Except.error.inj h).symm, hblank⟩
  next =>
    obtain ⟨_, part, _, -, -, hpart⟩ := mapM_eq_error_iff.mp h
    exact .inr ⟨part, blames_of_ofPart hpart⟩

/-- An open quote is reported only if there is one. -/
lemma endsInside_of_parse (hsegments : Divides none (trim body) segments) {opened : OpenQuote}
    (h : parse body = .error (.unterminatedQuote opened.quote opened.column)) :
    EndsInside (trim body) opened := by
  by_cases hclosed : IsClosed (trim body)
  · rcases blank_or_exists_blames_of_parse hsegments hclosed h with ⟨heq, -⟩ | ⟨part, hblames⟩
    · cases heq
    · cases hblames
  · obtain ⟨other, hother⟩ := exists_endsInside_iff.mpr hclosed
    rw [parse_of_endsInside hother] at h
    injection h with h
    injection h with hquote hcolumn
    cases other
    cases opened
    cases hquote
    cases hcolumn
    exact hother

/-- That there is no property is reported only if all segments are blank. -/
lemma isBlankText_of_parse (hsegments : Divides none (trim body) segments)
    (h : parse body = .error .empty) : ∀ segment ∈ segments, IsBlankText segment := by
  have hclosed : IsClosed (trim body) := by
    by_contra hopen
    obtain ⟨opened, hopened⟩ := exists_endsInside_iff.mpr hopen
    rw [parse_of_endsInside hopened] at h
    cases h
  rcases blank_or_exists_blames_of_parse hsegments hclosed h with ⟨-, hblank⟩ | ⟨part, hblames⟩
  · exact hblank
  · cases hblames

/-- The scan of a segment for its colon does not end inside a quote. -/
lemma exists_separators_eq (hsegments : Divides none (trim body) segments)
    (hclosed : IsClosed (trim body)) {segment : Text} (hsegment : segment ∈ segments) :
    ∃ places, separators ':' (trim segment) = .ok places := by
  have hpass := hsegments.passes hclosed segment hsegment
  have htrim : IsClosed (trim segment) := (foldl_quoteAfter_trim segment).mpr hpass.foldl_eq
  cases hscan : separators ':' (trim segment) with
  | ok places => exact ⟨places, rfl⟩
  | error opened =>
    exact absurd htrim (exists_endsInside_iff.mp ⟨opened, separators_eq_error_iff.mp hscan⟩)

/-- What reading a body reports, and where.  The segments are those of the body without blanks
around it, and in this body columns are counted. -/
structure Diagnoses (body : Text) (segments : List Text) : Prop where
  divides : Divides none (trim body) segments
  /-- An open quote is reported whatever else is wrong. -/
  unterminatedQuote_iff : ∀ opened : OpenQuote,
    parse body = .error (.unterminatedQuote opened.quote opened.column) ↔
      EndsInside (trim body) opened
  endsInside_iff : (∃ opened, EndsInside (trim body) opened) ↔ ¬IsClosed (trim body)
  /-- The scan for a colon never ends inside a quote, and it finds where the segment is cut. -/
  colon : IsClosed (trim body) → ∀ segment ∈ segments, ∃ places,
    separators ':' (trim segment) = .ok places ∧
      cutColon? (trim segment) =
        places.head?.map fun i => ((trim segment).take i, (trim segment).drop (i + 1))
  /-- Of several malformed segments the first is blamed, and for one reason only. -/
  malformed : IsClosed (trim body) → ∀ front segment back, segments = front ++ segment :: back →
    (∀ earlier ∈ front, ¬IsMalformed earlier) → IsMalformed segment →
      ∃ e, parse body = .error e ∧ ∀ other, Blames (trim segment) other ↔ other = e
  empty_iff : parse body = .error .empty ↔ ∀ segment ∈ segments, IsBlankText segment
  /-- Nothing is reported if nothing of this is wrong. -/
  read : IsClosed (trim body) → (∀ segment ∈ segments, ¬IsMalformed segment) →
    (∃ segment ∈ segments, ¬IsBlankText segment) → ∃ properties, parse body = .ok properties

/-- Of whatever is wrong with a body one fault is reported, and it is put in the right place: the
quote that the body ends inside, if there is one, and otherwise the first malformed segment.
That there is no property is reported when all segments are blank. -/
theorem exists_diagnoses (body : Text) : ∃ segments, Diagnoses body segments := by
  have hdivides : Divides none (trim body) (pieces none (trim body)) := divides_pieces none _
  refine ⟨pieces none (trim body), {
    divides := hdivides
    unterminatedQuote_iff := fun opened => ⟨endsInside_of_parse hdivides, parse_of_endsInside⟩
    endsInside_iff := exists_endsInside_iff
    colon := fun hclosed segment hsegment => ?_
    malformed := fun hclosed front segment back heq hfront hsegment => ?_
    empty_iff := ⟨isBlankText_of_parse hdivides, fun hblank => ?_⟩
    read := fun hclosed hsegments hsome => ?_ }⟩
  · obtain ⟨places, hplaces⟩ := exists_separators_eq hdivides hclosed hsegment
    exact ⟨places, hplaces, cutColon?_eq_of_separators hplaces⟩
  · rw [heq] at hdivides
    obtain ⟨e, hparse, hblames⟩ :=
      exists_parse_eq_of_isMalformed hdivides hclosed hfront hsegment
    refine ⟨e, hparse, fun other => ?_⟩
    rw [blames_iff] at hblames ⊢
    rw [← hblames]
  · rw [parse_of_isClosed hdivides (hdivides.isClosed_of_blank hblank), if_pos hblank]
  · obtain ⟨properties, hproperties⟩ := exists_spellsList hsegments
    refine ⟨properties, ?_⟩
    rw [parse_of_isClosed hdivides hclosed, if_neg (by push Not; exact hsome)]
    exact mapM_ofPart_of_spellsList hproperties

/-- The column counts characters, and an open quote comes before a missing colon. -/
example : parse "a, é: 'b', c: \"d'" = .error (.unterminatedQuote '"' 15) := by decide

/-- The first malformed segment is blamed. -/
example : parse ", a: 'b' , c d, 1: e" = .error (.missingSeparator "c d") := by decide

end Property

end ScriptFlow
