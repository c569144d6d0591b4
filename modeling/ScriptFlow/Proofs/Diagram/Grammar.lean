import ScriptFlow.Diagram.Style
import ScriptFlow.Proofs.Diagram.SafeText
import ScriptFlow.Proofs.Text.Lines

/-!
# The grammar of diagrams

Below the title a diagram with nodes has lines of seven forms.  The relations of this
file say what a line of each form looks like; they know nothing of how diagrams are
drawn.

A line has at most one form (`LineForm.Spells.unique`): the word that it starts with
and the two characters after this word decide which one, although every word of the
diagram language may also be an identifier here.
-/

namespace ScriptFlow

open Text

/-- The forms of lines. -/
inductive LineForm where
  | definition
  | groupStart
  | groupEnd
  | connection
  | style
  | members
  | link
  deriving DecidableEq, Repr

namespace LineForm

/-- The brackets that give a definition its shape. -/
def shapes : List (Text × Text) :=
  [("([", "])"), ("[", "]"), ("[[", "]]"), ("\x7b", "\x7d"), ("[(", ")]")]

/-- The arrows of connections. -/
def arrows : List Text :=
  ["-->", "-.->"]

/-- The widths of the lines around nodes. -/
def widths : List Text :=
  ["2px", "3px"]

/-- A text between double quotes. -/
def inQuotes (t : Text) : Text :=
  ['"'] ++ t ++ ['"']

/-- What a line of a form says behind its indentation. -/
inductive Says : LineForm → Text → Prop
  | definition {id label : Text} {shape : Text × Text} (hid : isIdentifier id = true)
      (hshape : shape ∈ shapes) (hlabel : Label.IsSafeText label) :
      Says .definition (id ++ shape.1 ++ inQuotes label ++ shape.2)
  | groupStart {id label : Text} (hid : isIdentifier id = true)
      (hlabel : Label.IsSafeText label) :
      Says .groupStart ("subgraph " ++ id ++ " [" ++ inQuotes label ++ "]")
  | groupEnd : Says .groupEnd "end"
  | connection {source arrow target : Text} (hsource : isIdentifier source = true)
      (harrow : arrow ∈ arrows) (htarget : isIdentifier target = true) :
      Says .connection (source ++ " " ++ arrow ++ " " ++ target)
  | labelled {source arrow label target : Text} (hsource : isIdentifier source = true)
      (harrow : arrow ∈ arrows) (hlabel : Label.IsSafeText label)
      (htarget : isIdentifier target = true) :
      Says .connection (source ++ " " ++ arrow ++ "|" ++ label ++ "| " ++ target)
  | style (kind : NodeKind) {fill stroke width color : Text} (hfill : isColor fill = true)
      (hstroke : isColor stroke = true) (hwidth : width ∈ widths)
      (hcolor : isColor color = true) :
      Says .style ("classDef " ++ kind.tag ++ "Style fill:" ++ fill ++ ",stroke:" ++ stroke ++
        ",stroke-width:" ++ width ++ ",color:" ++ color)
  | members (kind : NodeKind) {ids : List Text} (hne : ids ≠ [])
      (hids : ∀ id ∈ ids, isIdentifier id = true) :
      Says .members ("class " ++ join [','] ids ++ " " ++ kind.tag ++ "Style")
  | link {id uri : Text} (hid : isIdentifier id = true) (huri : Link.IsSafeText uri) :
      Says .link ("click " ++ id ++ " href " ++ inQuotes uri ++ " _blank")

/-- The lines of a form: indented once, or twice for a definition inside a group. -/
def Spells (form : LineForm) (line : Text) : Prop :=
  ∃ content, Says form content ∧
    (line = "    " ++ content ∨ form = .definition ∧ line = "        " ++ content)

/-! ## The ends of a line -/

/-- A color is `#` and hexadecimal digits, which may stand in identifiers. -/
lemma exists_digits_of_isColor {t : Text} (h : isColor t = true) :
    ∃ digits, t = '#' :: digits ∧ digits ≠ [] ∧ ∀ c ∈ digits, isIdentifierChar c = true := by
  unfold isColor at h
  split at h
  next digits =>
    rw [Bool.and_eq_true, Bool.or_eq_true, beq_iff_eq, beq_iff_eq, List.all_eq_true] at h
    obtain ⟨hlength, hdigits⟩ := h
    refine ⟨digits, rfl, ?_, fun c hc => ?_⟩
    · rintro rfl
      simp at hlength
    · have hc := hdigits c hc
      simp only [isHexDigit, Bool.or_eq_true, Bool.and_eq_true, decide_eq_true_eq, Char.le_def,
        UInt32.le_iff_toNat_le] at hc
      rcases hc with (hdigit | ⟨hlow, hhigh⟩) | ⟨hlow, hhigh⟩
      · simp [isIdentifierChar, Char.isAlphanum, hdigit]
      · exact isIdentifierChar_iff.mpr (.inr (.inr (.inr ⟨hlow, hhigh.trans (by decide)⟩)))
      · exact isIdentifierChar_iff.mpr (.inr (.inl ⟨hlow, hhigh.trans (by decide)⟩))
  next => exact Bool.noConfusion h

/-- A color has no blank at its ends. -/
lemma isTrimmed_of_isColor {t : Text} (h : isColor t = true) : IsTrimmed t ∧ t ≠ [] := by
  obtain ⟨digits, rfl, hne, hdigits⟩ := exists_digits_of_isColor h
  refine ⟨⟨fun c hc => ?_, fun c hc => ?_⟩, List.cons_ne_nil _ _⟩
  · rw [List.head?_cons, Option.mem_some_iff] at hc
    exact hc ▸ rfl
  · obtain ⟨d, r, rfl⟩ := List.exists_cons_of_ne_nil hne
    rw [List.getLast?_cons_cons] at hc
    exact isBlank_eq_false_of_isIdentifierChar (hdigits c (List.mem_of_getLast? hc))

/-- A color is one line. -/
lemma not_mem_of_isColor {t : Text} (h : isColor t = true) : '\n' ∉ t := by
  obtain ⟨digits, rfl, -, hdigits⟩ := exists_digits_of_isColor h
  intro hmem
  rcases List.mem_cons.mp hmem with heq | hmem
  · exact absurd heq (by decide)
  · exact absurd (hdigits _ hmem) (by decide)

/-- Whether a text starts with a character that is no blank. -/
def startsPlain (t : Text) : Bool :=
  t.head?.any fun c => !isBlank c

/-- Whether a text ends with a character that is no blank. -/
def endsPlain (t : Text) : Bool :=
  t.getLast?.any fun c => !isBlank c

/-- A trimmed text that is not empty starts and ends with no blank. -/
lemma startsPlain_and_endsPlain {t : Text} (h : IsTrimmed t) (hne : t ≠ []) :
    startsPlain t = true ∧ endsPlain t = true := by
  constructor
  · obtain ⟨c, r, rfl⟩ := List.exists_cons_of_ne_nil hne
    simpa [startsPlain] using h.head
  · have hlast := List.getLast?_eq_some_getLast hne
    have hplain := h.last _ hlast
    rw [endsPlain, hlast, Option.any_some, hplain, Bool.not_false]

/-- A text that starts and ends with no blank, given a part at either end. -/
lemma isTrimmed_of_isPrefix_of_isSuffix {s t whole : Text} (hs : startsPlain s = true)
    (ht : endsPlain t = true) (hstart : s <+: whole) (hend : t <:+ whole) :
    IsTrimmed whole ∧ whole ≠ [] := by
  obtain ⟨first, hfirst, hplain⟩ := (Option.any_eq_true _ _).mp hs
  obtain ⟨last, hlast, hplain'⟩ := (Option.any_eq_true _ _).mp ht
  obtain ⟨after, rfl⟩ := hstart
  have hhead : (s ++ after).head? = some first := by
    rw [List.head?_append, hfirst, Option.some_or]
  refine ⟨⟨fun c hc => ?_, fun c hc => ?_⟩, fun hnil => by rw [hnil] at hhead; cases hhead⟩
  · rw [hhead, Option.mem_some_iff] at hc
    subst hc
    simpa using hplain
  · obtain ⟨before, hbefore⟩ := hend
    rw [← hbefore, List.getLast?_append, hlast, Option.some_or, Option.mem_some_iff] at hc
    subst hc
    simpa using hplain'

namespace Says

variable {form : LineForm} {content : Text}

/-- What a line says has no blank at its ends and is not empty. -/
theorem isTrimmed (h : Says form content) : IsTrimmed content ∧ content ≠ [] := by
  have hid : ∀ {id : Text}, isIdentifier id = true →
      startsPlain id = true ∧ endsPlain id = true :=
    fun hid => startsPlain_and_endsPlain (isTrimmed_of_isIdentifier hid) (isIdentifier_ne_nil hid)
  cases h with
  | @definition id label shape hid' hshape hlabel =>
    have hclosing : ∀ shape ∈ shapes, endsPlain shape.2 = true := by decide
    exact isTrimmed_of_isPrefix_of_isSuffix (hid hid').1 (hclosing shape hshape)
      (by simp only [List.append_assoc, List.prefix_append]) (List.suffix_append _ _)
  | @groupStart id label hid' hlabel =>
    exact isTrimmed_of_isPrefix_of_isSuffix (s := "subgraph ") (t := "]") (by decide) (by decide)
      (by simp only [List.append_assoc, List.prefix_append]) (List.suffix_append _ _)
  | groupEnd => decide
  | @connection source arrow target hsource harrow htarget =>
    exact isTrimmed_of_isPrefix_of_isSuffix (hid hsource).1 (hid htarget).2
      (by simp only [List.append_assoc, List.prefix_append]) (List.suffix_append _ _)
  | @labelled source arrow label target hsource harrow hlabel htarget =>
    exact isTrimmed_of_isPrefix_of_isSuffix (hid hsource).1 (hid htarget).2
      (by simp only [List.append_assoc, List.prefix_append]) (List.suffix_append _ _)
  | @style kind fill stroke width color hfill hstroke hwidth hcolor =>
    obtain ⟨htrimmed, hne⟩ := isTrimmed_of_isColor hcolor
    exact isTrimmed_of_isPrefix_of_isSuffix (s := "classDef ") (by decide)
      (startsPlain_and_endsPlain htrimmed hne).2
      (by simp only [List.append_assoc, List.prefix_append]) (List.suffix_append _ _)
  | @members kind ids hne hids =>
    exact isTrimmed_of_isPrefix_of_isSuffix (s := "class ") (t := "Style") (by decide) (by decide)
      (by simp only [List.append_assoc, List.prefix_append]) (List.suffix_append _ _)
  | @link id uri hid' huri =>
    exact isTrimmed_of_isPrefix_of_isSuffix (s := "click ") (t := " _blank") (by decide) (by decide)
      (by simp only [List.append_assoc, List.prefix_append]) (List.suffix_append _ _)

/-- What a line says is one line. -/
theorem not_mem (h : Says form content) : '\n' ∉ content := by
  have hidentifier : ∀ {id : Text}, isIdentifier id = true → '\n' ∉ id :=
    fun hid => not_mem_of_isIdentifier hid rfl
  have hsafe : ∀ {label : Text}, Label.IsSafeText label → '\n' ∉ label :=
    fun hlabel => hlabel.noEnder _ (by decide)
  have hkind : ∀ kind : NodeKind, '\n' ∉ kind.tag := by
    intro kind
    cases kind <;> decide
  have harrows : ∀ arrow ∈ arrows, '\n' ∉ arrow := by decide
  have hquotes : ∀ {t : Text}, '\n' ∉ t → '\n' ∉ inQuotes t := by
    intro t ht
    simpa [inQuotes] using ht
  cases h with
  | @definition id label shape hid hshape hlabel =>
    have hshapes : ∀ shape ∈ shapes, '\n' ∉ shape.1 ∧ '\n' ∉ shape.2 := by decide
    obtain ⟨hopening, hclosing⟩ := hshapes shape hshape
    simp only [List.mem_append, not_or, and_assoc]
    exact ⟨hidentifier hid, hopening, hquotes (hsafe hlabel), hclosing⟩
  | @groupStart id label hid hlabel =>
    simp only [List.mem_append, not_or, and_assoc]
    exact ⟨by decide, hidentifier hid, by decide, hquotes (hsafe hlabel), by decide⟩
  | groupEnd => decide
  | @connection source arrow target hsource harrow htarget =>
    simp only [List.mem_append, not_or, and_assoc]
    exact ⟨hidentifier hsource, by decide, harrows arrow harrow, by decide, hidentifier htarget⟩
  | @labelled source arrow label target hsource harrow hlabel htarget =>
    simp only [List.mem_append, not_or, and_assoc]
    exact ⟨hidentifier hsource, by decide, harrows arrow harrow, by decide, hsafe hlabel, by decide,
      hidentifier htarget⟩
  | @style kind fill stroke width color hfill hstroke hwidth hcolor =>
    have hwidths : ∀ width ∈ widths, '\n' ∉ width := by decide
    simp only [List.mem_append, not_or, and_assoc]
    exact ⟨by decide, hkind kind, by decide, not_mem_of_isColor hfill, by decide,
      not_mem_of_isColor hstroke, by decide, hwidths width hwidth, by decide,
      not_mem_of_isColor hcolor⟩
  | @members kind ids hne hids =>
    have hjoin : '\n' ∉ join [','] ids := by
      intro hmem
      rcases mem_join hmem with hmem | ⟨id, hid, hmem⟩
      · exact absurd hmem (by decide)
      · exact hidentifier (hids id hid) hmem
    simp only [List.mem_append, not_or, and_assoc]
    exact ⟨by decide, hjoin, by decide, hkind kind, by decide⟩
  | @link id uri hid huri =>
    have huri' : '\n' ∉ uri := fun hmem => absurd (huri.noBlank _ hmem) (by decide)
    simp only [List.mem_append, not_or, and_assoc]
    exact ⟨by decide, hidentifier hid, by decide, hquotes huri', by decide⟩

end Says

/-! ## One form for each line -/

/-- The form that what a line says can have: the first word decides with the two
characters after it. -/
def ofContent (content : Text) : LineForm :=
  match content.dropWhile isIdentifierChar with
  | [] => .groupEnd
  | ' ' :: '-' :: _ => .connection
  | ' ' :: _ =>
    let word := content.takeWhile isIdentifierChar
    if word = "subgraph" then .groupStart
    else if word = "classDef" then .style
    else if word = "class" then .members
    else .link
  | _ => .definition

/-- A first word ends where something else than a character of identifiers stands. -/
lemma takeWhile_dropWhile_word {w : Text} (hword : w.all isIdentifierChar = true)
    {c : Char} (hc : isIdentifierChar c = false) (rest : Text) :
    (w ++ c :: rest).takeWhile isIdentifierChar = w ∧
      (w ++ c :: rest).dropWhile isIdentifierChar = c :: rest := by
  have hnot : ¬isIdentifierChar c = true := by simp [hc]
  have hall := List.all_eq_true.mp hword
  rw [List.takeWhile_append_of_pos hall, List.dropWhile_append_of_pos hall,
    List.takeWhile_cons_of_neg hnot, List.dropWhile_cons_of_neg hnot, List.append_nil]
  exact ⟨rfl, rfl⟩

/-- A bracket right after a word starts a shape. -/
lemma ofContent_bracket {w : Text} (hword : w.all isIdentifierChar = true) {c : Char}
    (hc : isIdentifierChar c = false) (hblank : c ≠ ' ') (rest : Text) :
    ofContent (w ++ c :: rest) = .definition := by
  rw [ofContent, (takeWhile_dropWhile_word hword hc rest).2]
  split
  next heq => cases heq
  next heq => exact absurd (List.cons.inj heq).1 hblank
  next heq => exact absurd (List.cons.inj heq).1 hblank
  next => rfl

/-- After a word and a blank, a hyphen belongs to an arrow. -/
lemma ofContent_arrow {w : Text} (hword : w.all isIdentifierChar = true)
    (rest : Text) : ofContent (w ++ ' ' :: '-' :: rest) = .connection := by
  rw [ofContent, (takeWhile_dropWhile_word hword rfl _).2]
  rfl

/-- After a word and a blank, anything but a hyphen leaves it to the word. -/
lemma ofContent_word {w : Text} (hword : w.all isIdentifierChar = true) {c : Char}
    (hc : c ≠ '-') (rest : Text) :
    ofContent (w ++ ' ' :: c :: rest) =
      if w = "subgraph" then .groupStart
      else if w = "classDef" then .style
      else if w = "class" then .members
      else .link := by
  obtain ⟨htake, hdrop⟩ := takeWhile_dropWhile_word hword (c := ' ') rfl (c :: rest)
  rw [ofContent, hdrop, htake]
  split
  next heq => cases heq
  next heq =>
    obtain ⟨-, htail⟩ := List.cons.inj heq
    exact absurd (List.cons.inj htail).1 hc
  next => rfl
  next hnot => exact absurd rfl (hnot _)

/-- A shape starts with a bracket. -/
lemma exists_cons_of_mem_shapes {shape : Text × Text} (h : shape ∈ shapes) :
    ∃ c r, shape.1 = c :: r ∧ isIdentifierChar c = false ∧ c ≠ ' ' := by
  simp only [shapes, List.mem_cons, List.not_mem_nil, or_false] at h
  rcases h with rfl | rfl | rfl | rfl | rfl <;> exact ⟨_, _, rfl, rfl, by decide⟩

/-- The first character of an identifier is no hyphen. -/
lemma exists_cons_of_isIdentifier {id : Text} (h : isIdentifier id = true) :
    ∃ c r, id = c :: r ∧ c ≠ '-' := by
  obtain ⟨c, r, rfl⟩ := List.exists_cons_of_ne_nil (isIdentifier_ne_nil h)
  refine ⟨c, r, rfl, ?_⟩
  rintro rfl
  exact absurd (isIdentifierChar_of_mem h List.mem_cons_self) (by decide)

/-- The first character of joined identifiers is no hyphen. -/
lemma exists_cons_of_join {ids : List Text} (hne : ids ≠ [])
    (hids : ∀ id ∈ ids, isIdentifier id = true) : ∃ c r, join [','] ids = c :: r ∧ c ≠ '-' := by
  obtain ⟨id, rest, rfl⟩ := List.exists_cons_of_ne_nil hne
  obtain ⟨c, r, rfl, hc⟩ := exists_cons_of_isIdentifier (hids id List.mem_cons_self)
  by_cases hnil : rest = []
  · exact ⟨c, r, by rw [hnil, join, List.intercalate_singleton], hc⟩
  · exact ⟨c, r ++ [','] ++ join [','] rest, by rw [join_cons_of_ne_nil _ _ hnil]; rfl, hc⟩

/-- What a line says tells its form. -/
theorem Says.ofContent_eq {form : LineForm} {content : Text} (h : Says form content) :
    ofContent content = form := by
  have hword : ∀ {id : Text}, isIdentifier id = true → id.all isIdentifierChar = true :=
    fun hid => List.all_eq_true.mpr fun c hc => isIdentifierChar_of_mem hid hc
  cases h with
  | @definition id label shape hid hshape hlabel =>
    obtain ⟨c, r, hopening, hc, hblank⟩ := exists_cons_of_mem_shapes hshape
    have h := ofContent_bracket (hword hid) hc hblank (r ++ (inQuotes label ++ shape.2))
    rw [hopening]
    simpa only [List.append_assoc, List.cons_append] using h
  | @groupStart id label hid hlabel =>
    obtain ⟨c, r, rfl, hc⟩ := exists_cons_of_isIdentifier hid
    exact ofContent_word (w := "subgraph") (by decide) hc (r ++ " [" ++ inQuotes label ++ "]")
  | groupEnd => rfl
  | @connection source arrow target hsource harrow htarget =>
    simp only [arrows, List.mem_cons, List.not_mem_nil, or_false] at harrow
    rcases harrow with rfl | rfl
    · simpa using ofContent_arrow (hword hsource) ("->" ++ " " ++ target)
    · simpa using ofContent_arrow (hword hsource) (".->" ++ " " ++ target)
  | @labelled source arrow label target hsource harrow hlabel htarget =>
    simp only [arrows, List.mem_cons, List.not_mem_nil, or_false] at harrow
    rcases harrow with rfl | rfl
    · simpa using ofContent_arrow (hword hsource) ("->" ++ "|" ++ label ++ "| " ++ target)
    · simpa using ofContent_arrow (hword hsource) (".->" ++ "|" ++ label ++ "| " ++ target)
  | @style kind fill stroke width color hfill hstroke hwidth hcolor =>
    cases kind <;> exact ofContent_word (w := "classDef") (by decide) (by decide) _
  | @members kind ids hne hids =>
    obtain ⟨c, r, hjoin, hc⟩ := exists_cons_of_join hne hids
    rw [hjoin]
    exact ofContent_word (w := "class") (by decide) hc (r ++ " " ++ kind.tag ++ "Style")
  | @link id uri hid huri =>
    obtain ⟨c, r, rfl, hc⟩ := exists_cons_of_isIdentifier hid
    exact ofContent_word (w := "click") (by decide) hc (r ++ " href " ++ inQuotes uri ++ " _blank")

/-- What a line of a form says is the line without its indentation. -/
lemma Spells.says_trimStart {form : LineForm} {line : Text} (h : form.Spells line) :
    Says form (trimStart line) := by
  obtain ⟨content, hsaid, hline⟩ := h
  have hindent : ∀ n, trimStart (List.replicate n ' ' ++ content) = content := by
    intro n
    rw [trimStart_append_of_blank (isBlankText_replicate n)]
    exact trimStart_eq_self hsaid.isTrimmed.1.head
  rcases hline with rfl | ⟨-, rfl⟩
  · exact (hindent 4).symm ▸ hsaid
  · exact (hindent 8).symm ▸ hsaid

/-- A line has at most one form. -/
theorem Spells.unique {first second : LineForm} {line : Text} (hfirst : first.Spells line)
    (hsecond : second.Spells line) : first = second := by
  rw [← hfirst.says_trimStart.ofContent_eq, hsecond.says_trimStart.ofContent_eq]

end LineForm

end ScriptFlow
