import ScriptFlow.Diagram.Basic
import ScriptFlow.Proofs.Diagram.Grammar
import ScriptFlow.Proofs.Diagram.Groups
import ScriptFlow.Proofs.Diagram.Ident
import ScriptFlow.Proofs.Distinct
import ScriptFlow.Proofs.Graph

/-!
# The lines of a diagram

Every line that is drawn for nodes has one of the forms of the grammar, since the
identifiers in it were handed out as such and the texts in it were escaped.  No form
has a line feed, so the lines of the text are the lines that were drawn
(`splitOn_text`).
-/

namespace ScriptFlow

open Text

namespace DiagramLine

/-- The form of the lines of a kind, below the title of a diagram with nodes. -/
def form? : DiagramLine → Option LineForm
  | header _ => none
  | title _ => none
  | placeholder => none
  | node .. => some .definition
  | groupStart .. => some .groupStart
  | groupEnd => some .groupEnd
  | edge .. => some .connection
  | style .. => some .style
  | members .. => some .members
  | link .. => some .link

/-- A line that the grammar of diagrams allows. -/
def HasForm (line : DiagramLine) : Prop :=
  ∃ form : LineForm, form.Spells line.text

/-- A line that the grammar allows for what it is. -/
def Fits (line : DiagramLine) : Prop :=
  ∃ form : LineForm, line.form? = some form ∧ form.Spells line.text

/-- A line that fits has a form. -/
lemma Fits.hasForm {line : DiagramLine} (h : line.Fits) : line.HasForm := by
  obtain ⟨form, -, hform⟩ := h
  exact ⟨form, hform⟩

/-- Nothing is cut off a line whose content has a form. -/
lemma text_eq_append {line : DiagramLine} {form : LineForm} (h : form.Says line.content) :
    line.text = line.indentation ++ line.content := by
  obtain ⟨htrimmed, hne⟩ := h.isTrimmed
  refine trimEnd_eq_self fun c hc => htrimmed.last c ?_
  rw [List.getLast?_append_of_ne_nil _ hne] at hc
  exact hc

/-- A line fits if what it says has its form. -/
lemma fits_of_says {line : DiagramLine} {form : LineForm} (hform : line.form? = some form)
    (hsaid : form.Says line.content)
    (hindent : line.indentation = "    " ∨
      form = .definition ∧ line.indentation = "        ") : line.Fits := by
  refine ⟨form, hform, line.content, hsaid, ?_⟩
  rw [text_eq_append hsaid]
  rcases hindent with hindent | ⟨hform, hindent⟩
  · exact .inl (by rw [hindent])
  · exact .inr ⟨hform, by rw [hindent]⟩

/-- What the definition of a node or of what nodes read and write says. -/
lemma says_node (grouped : Bool) {id : Text} (hid : isIdentifier id = true) (label : Text)
    (kind : NodeKind) :
    LineForm.Says .definition (node grouped id (Label.escape label) kind).content := by
  have hshape : brackets kind ∈ LineForm.shapes := by
    cases kind <;> decide
  exact .definition hid hshape (Label.isSafeText_escape label)

/-- The definition of a node or of what nodes read and write. -/
lemma fits_node (grouped : Bool) {id : Text} (hid : isIdentifier id = true) (label : Text)
    (kind : NodeKind) : (node grouped id (Label.escape label) kind).Fits := by
  refine fits_of_says rfl (says_node grouped hid label kind) ?_
  cases grouped
  · exact .inl rfl
  · exact .inr ⟨rfl, rfl⟩

/-- What the start of a group says. -/
lemma says_groupStart {id : Text} (hid : isIdentifier id = true) (label : Text) :
    LineForm.Says .groupStart (groupStart id (Label.escape label)).content :=
  .groupStart hid (Label.isSafeText_escape label)

/-- The start of a group. -/
lemma fits_groupStart {id : Text} (hid : isIdentifier id = true) (label : Text) :
    (groupStart id (Label.escape label)).Fits :=
  fits_of_says rfl (says_groupStart hid label) (.inl rfl)

/-- The end of a group. -/
lemma fits_groupEnd : groupEnd.Fits :=
  fits_of_says rfl .groupEnd (.inl rfl)

/-- A connection, with or without a label. -/
lemma fits_edge {source target : Text} (hsource : isIdentifier source = true)
    (htarget : isIdentifier target = true) (kind : EdgeKind) (label : Option Text) :
    (edge source kind (label.map Label.escape) target).Fits := by
  have harrow : arrow kind ∈ LineForm.arrows := by
    cases kind <;> decide
  cases label with
  | none => exact fits_of_says rfl (.connection hsource harrow htarget) (.inl rfl)
  | some label =>
    exact fits_of_says rfl
      (.labelled hsource harrow (Label.isSafeText_escape label) htarget) (.inl rfl)

/-- What the style of a kind says. -/
lemma says_style (kind : NodeKind) (colors : Style) :
    LineForm.Says .style (style kind colors).content := by
  have hwidth : strokeWidth kind ∈ LineForm.widths := by
    cases kind <;> decide
  exact .style kind colors.fill.isColor colors.stroke.isColor hwidth colors.color.isColor

/-- The style of a kind. -/
lemma fits_style (kind : NodeKind) (colors : Style) : (style kind colors).Fits :=
  fits_of_says rfl (says_style kind colors) (.inl rfl)

/-- What the line of the nodes that have the style of a kind says. -/
lemma says_members (kind : NodeKind) {ids : List Text} (hne : ids ≠ [])
    (hids : ∀ id ∈ ids, isIdentifier id = true) :
    LineForm.Says .members (members kind ids).content :=
  .members kind hne hids

/-- The nodes that have the style of a kind. -/
lemma fits_members (kind : NodeKind) {ids : List Text} (hne : ids ≠ [])
    (hids : ∀ id ∈ ids, isIdentifier id = true) : (members kind ids).Fits :=
  fits_of_says rfl (says_members kind hne hids) (.inl rfl)

/-- The link of a node. -/
lemma fits_link {id : Text} (hid : isIdentifier id = true) (scheme : LinkScheme) (path : Path)
    (number : Option Nat) : (link id (Link.uri scheme path number)).Fits :=
  fits_of_says rfl (.link hid (Link.isSafeText_uri scheme path number)) (.inl rfl)

/-- A line with a form is not empty and has no line feed. -/
lemma HasForm.text_ne_nil {line : DiagramLine} (h : line.HasForm) :
    line.text ≠ [] ∧ '\n' ∉ line.text := by
  obtain ⟨form, content, hsaid, hline⟩ := h
  have hwhole : ∀ indent : Text, '\n' ∉ indent →
      indent ++ content ≠ [] ∧ '\n' ∉ indent ++ content := by
    intro indent hindent
    refine ⟨by simp [hsaid.isTrimmed.2], ?_⟩
    rw [List.mem_append, not_or]
    exact ⟨hindent, hsaid.not_mem⟩
  rcases hline with hline | ⟨-, hline⟩
  · rw [hline]
    exact hwhole _ (by decide)
  · rw [hline]
    exact hwhole _ (by decide)

end DiagramLine

/-! ## The parts of a diagram -/

namespace Diagram

variable {options : DiagramOptions} {drawn : List DrawnNode} {nodes : List Node}
  {ids : List Text}

/-- Every line that defines a node or a group fits. -/
lemma fits_of_mem_nodeLines (hdrawn : ∀ d ∈ drawn, isIdentifier d.id = true)
    {groupIds : List Text} (hids : ∀ id ∈ groupIds, isIdentifier id = true) {line : DiagramLine}
    (h : line ∈ nodeLines options drawn (groups options drawn) groupIds) : line.Fits := by
  rcases List.mem_append.mp h with h | h
  · obtain ⟨d, hd, rfl⟩ := List.mem_map.mp h
    exact DiagramLine.fits_node false (hdrawn d (List.mem_filter.mp hd).1) _ _
  · obtain ⟨⟨group, id⟩, hpair, h⟩ := List.mem_flatMap.mp h
    obtain ⟨hgroup, hid⟩ := List.of_mem_zip hpair
    simp only [NodeGroup.lines, List.mem_append, List.mem_singleton, List.mem_map] at h
    rcases h with (rfl | ⟨d, hd, rfl⟩) | rfl
    · exact DiagramLine.fits_groupStart (hids id hid) _
    · have hmem := NodeGroup.mem_of_mem_ofNodes hgroup hd
      exact DiagramLine.fits_node true (hdrawn d (List.mem_filter.mp hmem).1) _ _
    · exact DiagramLine.fits_groupEnd

/-- The identifier at the position of a node. -/
lemma isIdentifier_getD (hids : ∀ id ∈ ids, isIdentifier id = true) {i : Nat}
    (hi : i < ids.length) : isIdentifier (ids.getD i []) = true := by
  rw [List.getD_eq_getElem?_getD, List.getElem?_eq_getElem hi, Option.getD_some]
  exact hids _ (List.getElem_mem hi)

/-- Every line that connects nodes fits. -/
lemma fits_of_mem_edgeLines (hids : ∀ id ∈ ids, isIdentifier id = true)
    (hlength : ids.length = nodes.length) {line : DiagramLine}
    (h : line ∈ edgeLines options ids (Graph.ofNodes nodes)) : line.Fits := by
  obtain ⟨edge, hedge, rfl⟩ := List.mem_map.mp h
  obtain ⟨hsource, htarget⟩ := Graph.lt_of_mem_edges hedge
  rw [← hlength] at hsource htarget
  have hlabel : (if options.showFiles then some (Label.escape edge.token) else none) =
      (if options.showFiles then some edge.token else none).map Label.escape := by
    split <;> rfl
  simp only [hlabel]
  exact DiagramLine.fits_edge (isIdentifier_getD hids hsource)
    (isIdentifier_getD hids htarget) _ _

/-- Both ends of every connection with what nodes write and read are identifiers. -/
lemma isIdentifier_of_mem_artifactArrows (hdrawn : ∀ d ∈ drawn, isIdentifier d.id = true)
    (hlength : drawn.length = nodes.length) {artifacts : List (Text × Text)}
    (hartifacts : ∀ entry ∈ artifacts, isIdentifier entry.2 = true) {a : Arrow}
    (h : a ∈ artifactArrows drawn (Graph.ofNodes nodes) artifacts) :
    isIdentifier a.source = true ∧ isIdentifier a.target = true := by
  have hfound : ∀ token id, (artifacts.find? fun entry => entry.1 == token).map Prod.snd =
      some id → isIdentifier id = true := by
    intro token id hid
    obtain ⟨entry, hentry, rfl⟩ := Option.map_eq_some_iff.mp hid
    exact hartifacts entry (List.mem_of_find?_eq_some hentry)
  have hnodes : ∀ id ∈ drawn.map DrawnNode.id, isIdentifier id = true := by
    intro id hid
    obtain ⟨d, hd, rfl⟩ := List.mem_map.mp hid
    exact hdrawn d hd
  have hends : ∀ i < nodes.length, isIdentifier ((drawn.map DrawnNode.id).getD i []) = true :=
    fun i hi => isIdentifier_getD hnodes (by rw [List.length_map, hlength]; exact hi)
  unfold artifactArrows at h
  dsimp only at h
  rcases List.mem_append.mp (mem_of_mem_eraseDupsBy h) with h | h
  · rcases List.mem_append.mp h with h | h
    · obtain ⟨d, hd, h⟩ := List.mem_flatMap.mp h
      obtain ⟨id, hid, rfl⟩ := List.mem_map.mp h
      obtain ⟨token, -, hid⟩ := List.mem_filterMap.mp hid
      exact ⟨hdrawn d hd, hfound token id hid⟩
    · obtain ⟨d, hd, h⟩ := List.mem_flatMap.mp h
      obtain ⟨id, hid, rfl⟩ := List.mem_map.mp h
      obtain ⟨token, -, hid⟩ := List.mem_filterMap.mp hid
      exact ⟨hfound token id hid, hdrawn d hd⟩
  · obtain ⟨edge, hedge, rfl⟩ := List.mem_map.mp h
    obtain ⟨hsource, htarget⟩ := Graph.lt_of_mem_edges (List.mem_filter.mp hedge).1
    exact ⟨hends _ hsource, hends _ htarget⟩

/-- Every line that draws what nodes write and read fits. -/
lemma fits_of_mem_artifactLines (hdrawn : ∀ d ∈ drawn, isIdentifier d.id = true)
    (hlength : drawn.length = nodes.length) {artifacts : List (Text × Text)}
    (hartifacts : ∀ entry ∈ artifacts, isIdentifier entry.2 = true) {line : DiagramLine}
    (h : line ∈ artifactLines drawn (Graph.ofNodes nodes) artifacts) : line.Fits := by
  rcases List.mem_append.mp h with h | h
  · obtain ⟨⟨token, id⟩, hentry, rfl⟩ := List.mem_map.mp h
    exact DiagramLine.fits_node false (hartifacts _ hentry) token .artifact
  · obtain ⟨a, ha, rfl⟩ := List.mem_map.mp h
    obtain ⟨hsource, htarget⟩ := isIdentifier_of_mem_artifactArrows hdrawn hlength hartifacts ha
    exact DiagramLine.fits_edge hsource htarget a.kind none

/-- Every line about styles fits. -/
lemma fits_of_mem_styleLines (hdrawn : ∀ d ∈ drawn, isIdentifier d.id = true)
    {artifactIds : List Text} (hids : ∀ id ∈ artifactIds, isIdentifier id = true)
    {palette : Palette} {line : DiagramLine}
    (h : line ∈ styleLines options palette drawn artifactIds) : line.Fits := by
  have hmembers : ∀ kind, ∀ id ∈ membersOf options drawn artifactIds kind,
      isIdentifier id = true := by
    intro kind id hid
    rcases List.mem_append.mp hid with hid | hid
    · obtain ⟨d, hd, rfl⟩ := List.mem_map.mp hid
      exact hdrawn d (List.mem_filter.mp hd).1
    · split at hid
      · exact hids id hid
      · exact absurd hid List.not_mem_nil
  rcases List.mem_append.mp h with h | h
  · obtain ⟨kind, -, rfl⟩ := List.mem_map.mp h
    exact DiagramLine.fits_style kind _
  · obtain ⟨kind, hkind, rfl⟩ := List.mem_map.mp h
    have hne : membersOf options drawn artifactIds kind ≠ [] := by
      simpa using (List.mem_filter.mp hkind).2
    exact DiagramLine.fits_members kind hne (hmembers kind)

/-- Every link fits. -/
lemma fits_of_mem_linkLines (hdrawn : ∀ d ∈ drawn, isIdentifier d.id = true)
    {line : DiagramLine} (h : line ∈ linkLines options drawn) : line.Fits := by
  unfold linkLines at h
  split at h
  · exact absurd h List.not_mem_nil
  next scheme _ =>
    obtain ⟨d, hd, rfl⟩ := List.mem_map.mp h
    exact DiagramLine.fits_link (hdrawn d (List.mem_filter.mp hd).1) scheme _ _

/-- Every line below the title of a diagram with nodes fits. -/
theorem fits_of_mem_body {palette : Palette} {line : DiagramLine}
    (h : line ∈ body options palette nodes) : line.Fits := by
  have hids : ∀ {taken texts : List Text}, ∀ id ∈ Ident.allocate taken texts,
      isIdentifier id = true := fun id hid => Ident.isIdentifier_of_mem_allocate hid
  have hlength : (Ident.allocate [] (nodes.map Node.id)).length = nodes.length := by
    rw [Ident.length_allocate, List.length_map]
  unfold body at h
  dsimp only at h
  set drawn := (nodes.zip (Ident.allocate [] (nodes.map Node.id))).map
    fun entry => DrawnNode.mk entry.1 entry.2 with hdrawnEq
  have hdrawn : ∀ d ∈ drawn, isIdentifier d.id = true := by
    intro d hd
    obtain ⟨entry, hentry, rfl⟩ := List.mem_map.mp hd
    exact hids _ (List.of_mem_zip hentry).2
  have hdrawnLength : drawn.length = nodes.length := by
    rw [hdrawnEq, List.length_map, List.length_zip, hlength, Nat.min_self]
  rcases List.mem_append.mp h with h | h
  · rcases List.mem_append.mp h with h | h
    · rcases List.mem_append.mp h with h | h
      · exact fits_of_mem_nodeLines hdrawn hids h
      · split at h
        · refine fits_of_mem_artifactLines hdrawn hdrawnLength (fun entry hentry => ?_) h
          exact hids _ (List.of_mem_zip hentry).2
        · exact fits_of_mem_edgeLines hids hlength h
    · split at h
      · exact fits_of_mem_styleLines hdrawn hids h
      · exact absurd h List.not_mem_nil
  · exact fits_of_mem_linkLines hdrawn h

/-- Every line below the title of a diagram with nodes has a form. -/
theorem hasForm_of_mem_body {palette : Palette} {line : DiagramLine}
    (h : line ∈ body options palette nodes) : line.HasForm :=
  (fits_of_mem_body h).hasForm

/-! ## The text of a diagram -/

/-- A comment line: two percent signs, and behind them one line of text or nothing. -/
def IsCommentLine (line : Text) : Prop :=
  line = "    %%" ∨
    ∃ text, IsOneLine text ∧ IsTrimmed text ∧ text ≠ [] ∧ line = "    %% " ++ text

/-- A comment line is not empty and has no line feed. -/
lemma IsCommentLine.ne_nil {line : Text} (h : IsCommentLine line) :
    line ≠ [] ∧ '\n' ∉ line := by
  rcases h with rfl | ⟨text, hline, -, -, rfl⟩
  · decide
  · refine ⟨by simp, ?_⟩
    rw [List.mem_append, not_or]
    exact ⟨by decide, hline.noLineFeed⟩

lemma text_title (title : Text) :
    (DiagramLine.title title).text = trimEnd ("    %% " ++ title) := rfl

/-- A trimmed title is drawn as a comment line. -/
lemma isCommentLine_text_title {title : Text} (hline : IsOneLine title)
    (htrim : IsTrimmed title) : IsCommentLine (DiagramLine.title title).text := by
  by_cases hnil : title = []
  · exact .inl (by rw [hnil]; decide)
  · refine .inr ⟨title, hline, htrim, hnil, ?_⟩
    rw [text_title]
    refine trimEnd_eq_self fun c hc => htrim.last c ?_
    rw [List.getLast?_append_of_ne_nil _ hnil] at hc
    exact hc

/-- With blanks for its line ends a title is one line. -/
lemma isOneLine_map_title (title : Text) :
    IsOneLine (title.map fun c => if c == '\r' || c == '\n' then ' ' else c) := by
  have hnot : ∀ d, d ≠ ' ' → (d == '\r' || d == '\n') = true →
      d ∉ title.map fun c => if c == '\r' || c == '\n' then ' ' else c := by
    intro d hspace hend hmem
    obtain ⟨c, -, hc⟩ := List.mem_map.mp hmem
    split at hc
    · exact hspace hc.symm
    next hkept =>
      rw [hc] at hkept
      exact hkept hend
  exact ⟨hnot _ (by decide) rfl, hnot _ (by decide) rfl⟩

/-- The title is drawn as one comment line. -/
lemma isCommentLine_of_mem_titleLines {line : DiagramLine} (h : line ∈ titleLines options) :
    IsCommentLine line.text := by
  obtain ⟨title, -, rfl⟩ := List.mem_map.mp h
  exact isCommentLine_text_title ((isOneLine_map_title title).mono (trim_subset _))
    (isTrimmed_trim _)

/-- A comment line reads as a definition, and so as nothing that starts with a word. -/
lemma ofContent_trimStart_of_mem_titleLines {line : DiagramLine} (h : line ∈ titleLines options) :
    LineForm.ofContent (trimStart line.text) = .definition := by
  rcases isCommentLine_of_mem_titleLines h with hline | ⟨text, -, -, -, hline⟩
  · rw [hline]
    decide
  · have hstart : trimStart ("    %% " ++ text) = '%' :: '%' :: ' ' :: text := by
      rw [show "    %% " ++ text = List.replicate 4 ' ' ++ ('%' :: '%' :: ' ' :: text) from rfl,
        trimStart_append_of_blank (isBlankText_replicate 4)]
      exact trimStart_eq_self fun c hc => by cases hc; rfl
    rw [hline, hstart]
    rfl

/-- The lines below the title. -/
def bodyLines (options : DiagramOptions) (nodes : List Node) : List DiagramLine :=
  if nodes.isEmpty then [.placeholder] else body options options.resolvePalette.1 nodes

lemma lines_ofNodes (options : DiagramOptions) (nodes : List Node) :
    (ofNodes options nodes).lines =
      .header options.direction :: (titleLines options ++ bodyLines options nodes) := rfl

/-- No line of a diagram is empty or has a line feed. -/
lemma text_ne_nil_of_mem_lines {line : DiagramLine} (h : line ∈ (ofNodes options nodes).lines) :
    line.text ≠ [] ∧ '\n' ∉ line.text := by
  rw [lines_ofNodes] at h
  rcases List.mem_cons.mp h with rfl | h
  · cases options.direction <;> decide
  · rcases List.mem_append.mp h with h | h
    · exact (isCommentLine_of_mem_titleLines h).ne_nil
    · unfold bodyLines at h
      split at h
      · rw [List.mem_singleton.mp h]
        decide
      · exact (hasForm_of_mem_body h).text_ne_nil

/-- Dividing the text of a diagram at line feeds gives back its lines. -/
lemma splitOn_text_ofNodes (options : DiagramOptions) (nodes : List Node) :
    (ofNodes options nodes).text.splitOn '\n' =
      (ofNodes options nodes).lines.map DiagramLine.text := by
  refine List.splitOn_intercalate '\n' (fun piece hpiece => ?_) (by simp [lines_ofNodes])
  obtain ⟨line, hline, rfl⟩ := List.mem_map.mp hpiece
  exact (text_ne_nil_of_mem_lines hline).2

/-- A diagram ends with its last line, so not with a line feed. -/
lemma getLast?_text_ofNodes (options : DiagramOptions) (nodes : List Node) :
    (ofNodes options nodes).text.getLast? ≠ some '\n' := by
  have hne : (ofNodes options nodes).lines ≠ [] := by simp [lines_ofNodes]
  have hlast := List.getLast?_eq_some_getLast hne
  generalize (ofNodes options nodes).lines.getLast hne = last at hlast
  obtain ⟨htext, hfeed⟩ := text_ne_nil_of_mem_lines (List.mem_of_getLast? hlast)
  have htexts : ((ofNodes options nodes).lines.map DiagramLine.text).getLast? =
      some last.text := by
    rw [List.getLast?_map, hlast, Option.map_some]
  obtain ⟨front, hfront⟩ := exists_join_eq_append ['\n'] htexts
  rw [text, hfront, List.getLast?_append_of_ne_nil _ htext]
  exact fun hend => hfeed (List.mem_of_getLast? hend)

/-- No text from the input breaks the lines of a diagram.  Divided at line feeds, a
diagram is its header, one comment line if a title is set, and then either the
placeholder alone or, if there are nodes, lines that each have exactly one form of the
grammar.  No line ends in a blank, and the diagram does not end in a line feed. -/
theorem splitOn_text (options : DiagramOptions) (nodes : List Node) :
    ∃ titles others,
      (ofNodes options nodes).text.splitOn '\n' =
          ("flowchart " ++ options.direction.tag) :: (titles ++ others) ∧
        titles.length = (if options.title.isSome then 1 else 0) ∧
        (∀ line ∈ titles, IsCommentLine line) ∧
        (nodes = [] → others = [("    empty[\"No workflow nodes found\"]" : String).toList]) ∧
        (nodes ≠ [] → ∀ line ∈ others, ∃! form : LineForm, form.Spells line) ∧
        (∀ line ∈ (ofNodes options nodes).text.splitOn '\n', trimEnd line = line) ∧
        (ofNodes options nodes).text.getLast? ≠ some '\n' := by
  refine ⟨(titleLines options).map DiagramLine.text,
    (bodyLines options nodes).map DiagramLine.text, ?_, ?_, ?_, ?_, ?_, ?_,
    getLast?_text_ofNodes options nodes⟩
  · rw [splitOn_text_ofNodes, lines_ofNodes, List.map_cons, List.map_append]
    cases options.direction <;> rfl
  · cases htitle : options.title <;> simp [titleLines, htitle]
  · intro line hline
    obtain ⟨title, htitle, rfl⟩ := List.mem_map.mp hline
    exact isCommentLine_of_mem_titleLines htitle
  · rintro rfl
    rfl
  · intro hnodes line hline
    obtain ⟨drawn, hdrawn, rfl⟩ := List.mem_map.mp hline
    rw [bodyLines, List.isEmpty_eq_false_iff.mpr hnodes] at hdrawn
    obtain ⟨form, hform⟩ := hasForm_of_mem_body hdrawn
    exact ⟨form, hform, fun other hother => hother.unique hform⟩
  · intro line hline
    rw [splitOn_text_ofNodes] at hline
    obtain ⟨drawn, -, rfl⟩ := List.mem_map.mp hline
    exact trimEnd_eq_self (isBlank_getLast_trimEnd _)

end Diagram

end ScriptFlow
