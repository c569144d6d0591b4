import ScriptFlow.Proofs.Annotation.Quotes
import ScriptFlow.Proofs.Results
import ScriptFlow.Proofs.Text.Identifier

/-!
# The grammar of property lists

A property list is written as segments between commas.  A segment is blank, or it
is a key, a colon and the spelling of a value, with blanks around each of them.
The relations of this file say just that; they do not scan and do not trim.

The reader follows the grammar in neither direction: it trims, scans for commas,
trims again, scans for a colon, trims the two sides and only then looks at quotes.
`parse_of_spellsList` shows that it reads whatever the grammar allows, and
`exists_spellsList_of_parse` that it reads nothing else.
-/

namespace ScriptFlow

namespace Property

open Text

/-! ## The grammar -/

/-- The spellings of a value: in double quotes, in single quotes, or bare. -/
inductive SpellsValue : Text → Text → Prop
  | double {value : Text} (h : '"' ∉ value) : SpellsValue ('"' :: value ++ ['"']) value
  | single {value : Text} (h : '\'' ∉ value) : SpellsValue ('\'' :: value ++ ['\'']) value
  | bare {value : Text} (hdouble : '"' ∉ value) (hsingle : '\'' ∉ value) (hcomma : ',' ∉ value)
      (htrim : IsTrimmed value) : SpellsValue value value

/-- The segments that spell a property. -/
inductive Spells : Text → Property → Prop
  | intro {a b c d key spelled value : Text} (ha : IsBlankText a) (hb : IsBlankText b)
      (hc : IsBlankText c) (hd : IsBlankText d) (hkey : isIdentifier key = true)
      (hvalue : SpellsValue spelled value) :
      Spells (a ++ key ++ b ++ ':' :: (c ++ spelled ++ d)) ⟨key, value⟩

/-- The lists of segments that spell a list of properties, blank ones between. -/
inductive SpellsList : List Text → List Property → Prop
  | nil : SpellsList [] []
  | blank {segment : Text} {segments : List Text} {properties : List Property}
      (h : IsBlankText segment) (hrest : SpellsList segments properties) :
      SpellsList (segment :: segments) properties
  | property {segment : Text} {segments : List Text} {p : Property} {properties : List Property}
      (h : Spells segment p) (hrest : SpellsList segments properties) :
      SpellsList (segment :: segments) (p :: properties)

/-! ## Values -/

/-- No character of a text is a quote when neither quote occurs in it. -/
lemma isQuote_eq_false_of_not_mem {t : Text} (hdouble : '"' ∉ t) (hsingle : '\'' ∉ t) :
    ∀ c ∈ t, isQuote c = false := by
  intro c hc
  unfold isQuote
  rw [Bool.or_eq_false_iff, beq_eq_false_iff_ne, beq_eq_false_iff_ne]
  exact ⟨fun h => hdouble (h ▸ hc), fun h => hsingle (h ▸ hc)⟩

/-- A character that is no quote is neither of the two. -/
lemma not_mem_of_isQuote_eq_false {t : Text} (h : ∀ c ∈ t, isQuote c = false) {q : Char}
    (hq : isQuote q = true) : q ∉ t := by
  intro hmem
  rw [h q hmem] at hq
  exact Bool.noConfusion hq

/-- A text in quotes has no blank at its ends. -/
lemma isTrimmed_quoted {q : Char} (hq : isQuote q = true) (t : Text) :
    IsTrimmed (q :: t ++ [q]) := by
  have hblank : isBlank q = false := by
    cases h : isBlank q with
    | false => rfl
    | true =>
      rw [isQuote_eq_false_of_isBlank h] at hq
      exact Bool.noConfusion hq
  refine ⟨fun c hc => ?_, fun c hc => ?_⟩
  · rw [List.cons_append, List.head?_cons, Option.mem_some_iff] at hc
    exact hc ▸ hblank
  · rw [List.getLast?_concat, Option.mem_some_iff] at hc
    exact hc ▸ hblank

/-- The spelling of a value has no blank at its ends. -/
lemma SpellsValue.isTrimmed {spelled value : Text} (h : SpellsValue spelled value) :
    IsTrimmed spelled := by
  cases h with
  | double h => exact isTrimmed_quoted (by decide) value
  | single h => exact isTrimmed_quoted (by decide) value
  | bare _ _ _ htrim => exact htrim

/-- The spelling of a value holds no comma outside quotes. -/
lemma SpellsValue.passes {spelled value : Text} (h : SpellsValue spelled value) :
    Passes ',' none spelled none := by
  cases h with
  | double h => exact passes_quoted (by decide) (by decide) h
  | single h => exact passes_quoted (by decide) (by decide) h
  | bare hdouble hsingle hcomma _ =>
    exact (passes_plain (isQuote_eq_false_of_not_mem hdouble hsingle)).mpr hcomma

/-- The text between two quotes is found when it does not hold the quote. -/
lemma inner?_eq_some_iff {q : Char} {rest value : Text} :
    inner? q rest = some value ↔ rest = value ++ [q] ∧ q ∉ value := by
  unfold inner?
  cases h : beforeSuffix? [q] rest with
  | none =>
    simp only [reduceCtorEq, false_iff, not_and]
    intro hrest
    rw [beforeSuffix?_eq_some_iff.mpr hrest] at h
    exact absurd h (by simp)
  | some before =>
    rw [beforeSuffix?_eq_some_iff] at h
    subst h
    by_cases hq : q ∈ before
    · simp only [List.contains_iff_mem, hq, if_true, reduceCtorEq, false_iff, not_and]
      intro heq hnot
      exact hnot (List.append_cancel_right heq ▸ hq)
    · simp only [List.contains_iff_mem, hq, if_false, Option.some.injEq]
      constructor
      · rintro rfl
        exact ⟨rfl, hq⟩
      · rintro ⟨heq, -⟩
        exact List.append_cancel_right heq

/-- The value of a trimmed text is the one that the text spells, where a text
without quotes also has to be without commas. -/
lemma unquote?_eq_some_iff {raw value : Text} (htrim : IsTrimmed raw)
    (hcomma : (∀ c ∈ raw, isQuote c = false) → ',' ∉ raw) :
    unquote? raw = some value ↔ SpellsValue raw value := by
  constructor
  · intro h
    cases raw with
    | nil =>
      rw [unquote?, Option.some.injEq] at h
      exact h ▸ .bare (by simp) (by simp) (by simp) isTrimmed_nil
    | cons c rest =>
      rw [unquote?] at h
      split at h
      next hc =>
        obtain ⟨rfl, hvalue⟩ := inner?_eq_some_iff.mp h
        rw [isQuote, Bool.or_eq_true, beq_iff_eq, beq_iff_eq] at hc
        rcases hc with rfl | rfl
        · exact .double hvalue
        · exact .single hvalue
      next hc =>
        split at h
        · exact absurd h (by simp)
        next hrest =>
          rw [Option.some.injEq] at h
          have hplain : ∀ d ∈ c :: rest, isQuote d = false := by
            intro d hd
            rcases List.mem_cons.mp hd with rfl | hd
            · simpa using hc
            · simp only [List.any_eq_true, not_exists, not_and, Bool.not_eq_true] at hrest
              exact hrest d hd
          exact h ▸ .bare (not_mem_of_isQuote_eq_false hplain (by decide))
            (not_mem_of_isQuote_eq_false hplain (by decide)) (hcomma hplain) htrim
  · intro h
    cases h with
    | double h => exact inner?_eq_some_iff.mpr ⟨rfl, h⟩
    | single h => exact inner?_eq_some_iff.mpr ⟨rfl, h⟩
    | bare hdouble hsingle _ _ =>
      have hplain := isQuote_eq_false_of_not_mem hdouble hsingle
      cases raw with
      | nil => rfl
      | cons c rest =>
        have hc : isQuote c = false := hplain c (by simp)
        have hrest : rest.any isQuote = false :=
          List.any_eq_false.mpr fun d hd => by simp [hplain d (List.mem_cons_of_mem _ hd)]
        simp [unquote?, hc, hrest]

/-! ## Segments -/

/-- No character of an identifier is a quote. -/
lemma isQuote_eq_false_of_isIdentifier {key : Text} (h : isIdentifier key = true) :
    ∀ c ∈ key, isQuote c = false :=
  isQuote_eq_false_of_not_mem (not_mem_of_isIdentifier h (by decide))
    (not_mem_of_isIdentifier h (by decide))

/-- A key between blanks holds no separator. -/
lemma passes_key {d : Char} {a key b : Text} (ha : IsBlankText a)
    (hkey : isIdentifier key = true) (hb : IsBlankText b) (hblank : isBlank d = false)
    (hd : isIdentifierChar d = false) : Passes d none (a ++ key ++ b) none := by
  have hmiddle : Passes d none key none :=
    (passes_plain (isQuote_eq_false_of_isIdentifier hkey)).mpr (not_mem_of_isIdentifier hkey hd)
  rw [passes_append]
  refine ⟨none, ?_, passes_blank hb hblank⟩
  rw [passes_append]
  exact ⟨none, passes_blank ha hblank, hmiddle⟩

/-- A segment that spells a property holds no comma outside quotes. -/
lemma Spells.passes {segment : Text} {p : Property} (h : Spells segment p) :
    Passes ',' none segment none := by
  cases h with
  | @intro a b c d key spelled value ha hb hc hd hkey hvalue =>
    have hafter : Passes ',' none (c ++ spelled ++ d) none := by
      rw [passes_append]
      refine ⟨none, ?_, passes_blank hd (by decide)⟩
      rw [passes_append]
      exact ⟨none, passes_blank hc (by decide), hvalue.passes⟩
    rw [passes_append]
    exact ⟨none, passes_key ha hkey hb (by decide) (by decide), by decide, hafter⟩

/-- A segment that spells a property is not blank. -/
lemma Spells.not_isBlankText {segment : Text} {p : Property} (h : Spells segment p) :
    ¬IsBlankText segment := by
  cases h with
  | intro => exact fun hblank => absurd (hblank ':' (by simp)) (by decide)

/-- The reader accepts a trimmed segment that spells a property. -/
lemma ofPart_trim_of_spells {segment : Text} {p : Property} (h : Spells segment p) :
    ofPart (trim segment) = .ok p := by
  cases h with
  | @intro a b c d key spelled value ha hb hc hd hkey hvalue =>
    have hkeyTrim : trim (trimStart (a ++ key ++ b)) = key := by
      obtain ⟨front, hfront, hsplit⟩ := exists_append_trimStart (a ++ key ++ b)
      rw [← trim_append_left hfront, ← hsplit]
      exact trim_of_blanks ha hb (isTrimmed_of_isIdentifier hkey)
    have hvalueTrim : trim (trimEnd (c ++ spelled ++ d)) = spelled := by
      obtain ⟨back, hback, hsplit⟩ := exists_trimEnd_append (c ++ spelled ++ d)
      rw [← trim_append_right _ hback, ← hsplit]
      exact trim_of_blanks hc hd hvalue.isTrimmed
    have hpass : Passes ':' none (trimStart (a ++ key ++ b)) none := by
      rw [List.append_assoc, trimStart_append_of_blank ha,
        trimStart_eq_self fun x hx => ?_]
      · exact passes_key isBlankText_nil hkey hb (by decide) (by decide)
      · rw [List.head?_append_of_ne_nil _ (isIdentifier_ne_nil hkey)] at hx
        exact (isTrimmed_of_isIdentifier hkey).head x hx
    have hcut : cutColon? (trim (a ++ key ++ b ++ ':' :: (c ++ spelled ++ d))) =
        some (trimStart (a ++ key ++ b), trimEnd (c ++ spelled ++ d)) := by
      rw [trim_append_cons _ _ (by decide)]
      exact cutColonFrom?_eq_some_iff.mpr ⟨rfl, hpass⟩
    have hunquote : unquote? spelled = some value := by
      refine (unquote?_eq_some_iff hvalue.isTrimmed fun hplain => ?_).mpr hvalue
      exact (passes_plain hplain).mp hvalue.passes
    rw [ofPart, hcut]
    simp only [hkeyTrim, hvalueTrim, hkey, hunquote, Bool.not_true, Bool.false_eq_true, if_false]

/-- The reader accepts no other segment without commas outside quotes. -/
lemma spells_of_ofPart_trim {segment : Text} {p : Property} (hpass : Passes ',' none segment none)
    (h : ofPart (trim segment) = .ok p) : Spells segment p := by
  rw [ofPart] at h
  cases hcut : cutColon? (trim segment) with
  | none => simp [hcut] at h
  | some cut =>
    obtain ⟨before, after⟩ := cut
    simp only [hcut] at h
    split at h
    · exact absurd h (by simp)
    next hkey =>
      rw [Bool.not_eq_true, Bool.not_eq_false'] at hkey
      split at h
      · exact absurd h (by simp)
      next value hunquote =>
        rw [Except.ok.injEq] at h
        subst h
        obtain ⟨hsplit, -⟩ := cutColonFrom?_eq_some_iff.mp hcut
        obtain ⟨a, b, ha, hb, hsegment⟩ := exists_blanks_trim segment
        obtain ⟨front, back, hfront, hback, hbefore⟩ := exists_blanks_trim before
        obtain ⟨open', close, hopen, hclose, hafter⟩ := exists_blanks_trim after
        have hwhole : segment = (a ++ front) ++ trim before ++ back ++
            ':' :: (open' ++ trim after ++ (close ++ b)) := by
          conv_lhs => rw [hsegment, hsplit, hbefore, hafter]
          simp only [List.append_assoc, List.cons_append]
        -- What stands before the colon holds no quote, so what stands after it passes as well.
        have hcomma : (∀ c ∈ trim after, isQuote c = false) → ',' ∉ trim after := by
          intro hplain
          rw [hwhole, passes_append] at hpass
          obtain ⟨m, hpassBefore, -, hpassAfter⟩ := hpass
          have hm : m = none :=
            hpassBefore.foldl_eq.symm.trans
              (passes_key (d := ':') (ha.append hfront) hkey hback (by decide)
                (by decide)).foldl_eq
          rw [hm] at hpassAfter
          have hquoteAfter : ∀ c ∈ open' ++ trim after ++ (close ++ b), isQuote c = false := by
            intro c hc
            rcases List.mem_append.mp hc with hc | hc
            · rcases List.mem_append.mp hc with hc | hc
              · exact isQuote_eq_false_of_isBlank (hopen c hc)
              · exact hplain c hc
            · exact isQuote_eq_false_of_isBlank (hclose.append hb c hc)
          have hnone := (passes_plain hquoteAfter).mp hpassAfter
          exact fun hmem =>
            hnone (List.mem_append_left _ (List.mem_append_right _ hmem))
        rw [hwhole]
        exact .intro (ha.append hfront) hback hopen (hclose.append hb) hkey
          ((unquote?_eq_some_iff (isTrimmed_trim after) hcomma).mp hunquote)

/-! ## Bodies -/

/-- The parts of a body that are read: its trimmed pieces that are not blank. -/
def partsToRead (segments : List Text) : List Text :=
  (segments.map trim).filter fun part => !part.isEmpty

/-- A body is read by its pieces, unless a quote stays open. -/
lemma parse_eq (body : Text) :
    parse body =
      match openAfter 1 none (trim body) with
      | some opened => .error (.unterminatedQuote opened.quote opened.column)
      | none =>
        match partsToRead (pieces none body) with
        | [] => .error .empty
        | parts => parts.mapM ofPart := by
  unfold parse parts
  rw [partsFrom_eq]
  cases h : openAfter 1 none (trim body) with
  | some opened => rfl
  | none =>
    have hclosed : body.foldl quoteAfter none = none :=
      (foldl_quoteAfter_trim body).mp (openAfter_eq_none_iff.mp h)
    have hparts : partsToRead (pieces none (trim body)) = partsToRead (pieces none body) := by
      rw [partsToRead, map_trim_pieces_trim hclosed, partsToRead]
    rw [← hparts]
    rfl

/-- Blank segments are not read. -/
lemma partsToRead_cons_blank {segment : Text} (h : IsBlankText segment) (segments : List Text) :
    partsToRead (segment :: segments) = partsToRead segments := by
  simp [partsToRead, h.trim_eq]

/-- All other segments are read, without the blanks around them. -/
lemma partsToRead_cons {segment : Text} (h : ¬IsBlankText segment) (segments : List Text) :
    partsToRead (segment :: segments) = trim segment :: partsToRead segments := by
  have hne : trim segment ≠ [] := fun hnil => h (trim_eq_nil_iff.mp hnil)
  simp [partsToRead, hne]

/-- Segments that spell properties pass. -/
lemma SpellsList.passes {segments : List Text} {properties : List Property}
    (h : SpellsList segments properties) : ∀ s ∈ segments, Passes ',' none s none := by
  induction h with
  | nil => simp
  | blank hblank _ ih => exact List.forall_mem_cons.mpr ⟨passes_blank hblank (by decide), ih⟩
  | property hspells _ ih => exact List.forall_mem_cons.mpr ⟨hspells.passes, ih⟩

/-- Reading the segments of a list of properties gives these properties. -/
lemma mapM_ofPart_of_spellsList {segments : List Text} {properties : List Property}
    (h : SpellsList segments properties) :
    (partsToRead segments).mapM ofPart = .ok properties := by
  rw [mapM_eq_ok_iff]
  induction h with
  | nil => exact .nil
  | blank hblank _ ih => rwa [partsToRead_cons_blank hblank]
  | property hspells _ ih =>
    rw [partsToRead_cons hspells.not_isBlankText]
    exact .cons (ofPart_trim_of_spells hspells) ih

/-- What is read of segments that pass is what they spell. -/
lemma spellsList_of_mapM_ofPart {segments : List Text} {properties : List Property}
    (hpass : ∀ s ∈ segments, Passes ',' none s none)
    (h : (partsToRead segments).mapM ofPart = .ok properties) :
    SpellsList segments properties := by
  rw [mapM_eq_ok_iff] at h
  induction segments generalizing properties with
  | nil =>
    cases h
    exact .nil
  | cons s rest ih =>
    obtain ⟨hs, hrest⟩ := List.forall_mem_cons.mp hpass
    by_cases hblank : IsBlankText s
    · rw [partsToRead_cons_blank hblank] at h
      exact .blank hblank (ih hrest h)
    · rw [partsToRead_cons hblank] at h
      cases h with
      | cons hp htail => exact .property (spells_of_ofPart_trim hs hp) (ih hrest htail)

/-- Some segment is read when some segment is not blank. -/
lemma partsToRead_ne_nil_iff {segments : List Text} :
    partsToRead segments ≠ [] ↔ ∃ s ∈ segments, ¬IsBlankText s := by
  simp [partsToRead, List.filter_eq_nil_iff, trim_eq_nil_iff]

/-- The reader accepts every body that the grammar allows. -/
theorem parse_of_spellsList {segments : List Text} {properties : List Property}
    (h : SpellsList segments properties) (hsome : ∃ s ∈ segments, ¬IsBlankText s) :
    parse (join [','] segments) = .ok properties := by
  have hne : segments ≠ [] := by
    obtain ⟨s, hs, -⟩ := hsome
    exact List.ne_nil_of_mem hs
  have hclosed : openAfter 1 none (trim (join [','] segments)) = none := by
    rw [openAfter_eq_none_iff, foldl_quoteAfter_trim]
    exact foldl_quoteAfter_join h.passes
  have hparts := partsToRead_ne_nil_iff.mpr hsome
  rw [parse_eq, hclosed, pieces_join h.passes hne]
  cases hread : partsToRead segments with
  | nil => exact absurd hread hparts
  | cons part parts =>
    rw [← mapM_ofPart_of_spellsList h, hread]

/-- The reader accepts no other body. -/
theorem exists_spellsList_of_parse {body : Text} {properties : List Property}
    (h : parse body = .ok properties) :
    ∃ segments, body = join [','] segments ∧ SpellsList segments properties ∧
      ∃ s ∈ segments, ¬IsBlankText s := by
  rw [parse_eq] at h
  cases hopen : openAfter 1 none (trim body) with
  | some opened => simp [hopen] at h
  | none =>
    have hclosed : body.foldl quoteAfter none = none :=
      (foldl_quoteAfter_trim body).mp (openAfter_eq_none_iff.mp hopen)
    simp only [hopen] at h
    split at h
    · exact absurd h (by simp)
    next hparts =>
      refine ⟨pieces none body, (join_pieces none body).symm,
        spellsList_of_mapM_ofPart (forall_passes_pieces hclosed) h,
        partsToRead_ne_nil_iff.mp hparts⟩

/-- A body is read as a list of properties exactly when it is written as segments
between commas that spell this list and are not all blank. -/
theorem parse_eq_ok_iff {body : Text} {properties : List Property} :
    parse body = .ok properties ↔
      ∃ segments, body = join [','] segments ∧ SpellsList segments properties ∧
        ∃ s ∈ segments, ¬IsBlankText s := by
  constructor
  · exact exists_spellsList_of_parse
  · rintro ⟨segments, rfl, h, hsome⟩
    exact parse_of_spellsList h hsome

end Property

end ScriptFlow
