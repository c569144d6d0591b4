import ScriptFlow.Annotation.Draft
import ScriptFlow.Proofs.Annotation.Provenance
import ScriptFlow.Proofs.KeyMap

/-!
# Nodes and their properties

A node whose identifier, label and extra properties can be written and come back as they
are (`Node.IsDescribable`) has spellings for all its properties exactly if its lists of
files can stand in quotes, and reading the properties gives back everything but the lists.

A node that comes from an annotation meets further conditions that the reading of values
sets up: its lists can be read between commas and it sources nothing
(`Node.IsAnnotatedIn`).  The node that the properties of such a node stand for is the same
one on another line (`build_properties`).
-/

namespace ScriptFlow

open Text

namespace Text

/-- A file name that comes back from a list of files as it is. -/
@[mk_iff]
structure IsPlainName (name : Text) : Prop extends IsPlain name where
  noComma : ',' ∉ name

instance (name : Text) : Decidable (IsPlainName name) :=
  decidable_of_iff _ (isPlainName_iff name).symm

/-- A list of files that comes back from quotes as it is. -/
structure IsFileList (tokens : List Text) : Prop extends IsCommaList tokens where
  quotable : IsQuotable (join ", " tokens)

lemma isPlain_nil : IsPlain [] :=
  ⟨⟨isOneLine_nil, .inl List.not_mem_nil⟩, isTrimmed_nil⟩

/-- Trimming a text that can stand in quotes makes it plain. -/
lemma IsQuotable.isPlain_trim {t : Text} (h : IsQuotable t) : IsPlain (trim t) :=
  ⟨h.mono (trim_subset t), isTrimmed_trim t⟩

/-- A list that was read from a text that can stand in quotes can do so, too. -/
lemma IsQuotable.isFileList_commaList {t : Text} (h : IsQuotable t) :
    IsFileList (commaList t) := by
  have hpart : ∀ q, q ∉ (", " : String).toList → q ∉ t → q ∉ join ", " (commaList t) := by
    intro q hseparator hq hmem
    rcases mem_join hmem with hmem | ⟨token, htoken, hmem⟩
    · exact hseparator hmem
    · exact hq (subset_of_mem_commaList htoken hmem)
  exact ⟨isCommaList_commaList t,
    ⟨⟨hpart _ (by decide) h.oneLine.noLineFeed, hpart _ (by decide) h.oneLine.noReturn⟩,
      h.lacksQuote.imp (hpart _ (by decide)) (hpart _ (by decide))⟩⟩

/-- A plain name alone is read as itself, unless it is empty. -/
lemma IsPlainName.commaList_join {name : Text} (h : IsPlainName name) :
    commaList (join ", " [name]) = if name = [] then [] else [name] := by
  split
  next hnil => rw [hnil]; rfl
  next hne =>
    refine Text.commaList_join ⟨fun token htoken => ?_, fun token htoken => ?_,
      fun token htoken => ?_⟩ <;> obtain rfl := List.mem_singleton.mp htoken
    · exact h.trimmed
    · exact hne
    · exact h.noComma

end Text

/-! ## Look-up in property lists -/

namespace Property

/-- A key is looked up in the later of two lists first. -/
lemma lookup?_append (key : Text) (first second : List Property) :
    lookup? key (first ++ second) = (lookup? key second).or (lookup? key first) := by
  unfold lookup?
  rw [List.reverse_append, List.find?_append, Option.map_or]

/-- A key that does not occur has no value. -/
lemma lookup?_eq_none {key : Text} {properties : List Property}
    (h : ∀ p ∈ properties, p.key ≠ key) : lookup? key properties = none := by
  unfold lookup?
  rw [Option.map_eq_none_iff, List.find?_eq_none]
  intro p hp
  rw [beq_iff_eq]
  exact h p (List.mem_reverse.mp hp)

/-- A value that is found is that of some property. -/
lemma exists_mem_of_lookup? {key value : Text} {properties : List Property}
    (h : lookup? key properties = some value) : ∃ p ∈ properties, p.value = value := by
  rw [lookup?, Option.map_eq_some_iff] at h
  obtain ⟨p, hp, hvalue⟩ := h
  exact ⟨p, List.mem_reverse.mp (List.mem_of_find?_eq_some hp), hvalue⟩

/-- The properties of fields, where a field without a value has none. -/
def ofFields (fields : List (Text × Option Text)) : List Property :=
  fields.flatMap fun field => field.2.toList.map fun value => ⟨field.1, value⟩

/-- The properties of fields are their keys with their values. -/
lemma mem_ofFields {fields : List (Text × Option Text)} {p : Property} :
    p ∈ ofFields fields ↔ (p.key, some p.value) ∈ fields := by
  constructor
  · intro h
    obtain ⟨⟨key, value⟩, hmem, h⟩ := List.mem_flatMap.mp h
    obtain ⟨text, htext, rfl⟩ := List.mem_map.mp h
    obtain rfl : value = some text := Option.mem_toList.mp htext
    exact hmem
  · intro h
    exact List.mem_flatMap.mpr ⟨_, h, List.mem_map_of_mem (Option.mem_toList.mpr rfl)⟩

/-- If no two fields share a key, then every field is found with its value, or
without one. -/
lemma lookup?_ofFields {fields : List (Text × Option Text)}
    (hkeys : (fields.map Prod.fst).Nodup) {key : Text} {value : Option Text}
    (h : (key, value) ∈ fields) : lookup? key (ofFields fields) = value := by
  induction fields with
  | nil => exact absurd h List.not_mem_nil
  | cons field rest ih =>
    rw [List.map_cons, List.nodup_cons] at hkeys
    obtain ⟨hnot, hkeys⟩ := hkeys
    have hother : ∀ p ∈ ofFields rest, p.key ≠ field.1 :=
      fun p hp heq => hnot (heq ▸ List.mem_map_of_mem (mem_ofFields.mp hp))
    rw [ofFields, List.flatMap_cons, lookup?_append]
    rcases List.mem_cons.mp h with rfl | h
    · rw [← ofFields, lookup?_eq_none hother, Option.none_or]
      cases value with
      | none => rfl
      | some text => simp [lookup?]
    · have hne : field.1 ≠ key := fun heq => hnot (heq ▸ List.mem_map_of_mem h)
      have hfirst : lookup? key (field.2.toList.map fun value => ⟨field.1, value⟩) = none := by
        refine lookup?_eq_none fun p hp => ?_
        obtain ⟨text, -, rfl⟩ := List.mem_map.mp hp
        exact hne
      rw [hfirst, Option.or_none]
      exact ih hkeys h

end Property

/-! ## Nodes of annotations -/

namespace Node

/-- A node whose identifier, label and extra properties can be written and come back as
they are. -/
structure IsDescribable (node : Node) : Prop where
  id : IsPlain node.id
  label : ∀ label ∈ node.label, IsPlain label ∧ label ≠ []
  extra : ∀ e ∈ node.extra.toList,
    isIdentifier e.1 = true ∧ Draft.isExtraKey e.1 = true ∧ IsQuotable e.2

/-- A node of the kind that an annotation in a script stands for. -/
structure IsAnnotatedIn (script : ScriptRef) (node : Node) : Prop extends
    IsDescribable node where
  fileName : node.fileName = script.fileName
  filePath : node.filePath = script.path
  fileType : node.fileType = script.language.tag
  inputs : IsFileList node.inputs
  outputs : (IsFileList node.outputs ∧ node.outputs ≠ []) ∨ node.outputs = [script.fileName]
  dependencies : node.dependencies = []
  origin : node.origin = .annotated

end Node

namespace Draft

/-- The value of every key can stand in quotes if all values can. -/
lemma isQuotable_of_lookup? {properties : List Property} (h : ∀ p ∈ properties, p.IsSpellable)
    {key value : Text} (hvalue : Property.lookup? key properties = some value) :
    IsQuotable value := by
  obtain ⟨p, hp, rfl⟩ := Property.exists_mem_of_lookup? hvalue
  exact (h p hp).value

/-- The files of a list property come back from quotes as they are. -/
lemma isFileList_files {properties : List Property} (h : ∀ p ∈ properties, p.IsSpellable)
    (key : Text) : IsFileList (files key properties) := by
  unfold files
  cases hvalue : Property.lookup? key properties with
  | none => exact (IsPlain.toIsQuotable isPlain_nil).isFileList_commaList
  | some value => exact (isQuotable_of_lookup? h hvalue).isFileList_commaList

/-- An identifier that was given comes back from quotes as it is. -/
lemma isPlain_id {properties : List Property} (h : ∀ p ∈ properties, p.IsSpellable) :
    IsPlain ((id? properties).getD []) := by
  unfold id?
  cases hvalue : Property.lookup? "id" properties with
  | none => exact isPlain_nil
  | some value => exact (isQuotable_of_lookup? h hvalue).isPlain_trim

/-- A label is the trimmed value of its key, and is not empty. -/
lemma exists_lookup?_of_mem_label {properties : List Property} {text : Text}
    (h : text ∈ label properties) :
    text ≠ [] ∧ ∃ value, Property.lookup? "label" properties = some value ∧ trim value = text := by
  unfold label at h
  split at h
  · cases h
  next hne =>
    rw [Option.mem_def, Option.map_eq_some_iff] at h
    obtain ⟨value, hvalue, rfl⟩ := h
    refine ⟨fun hnil => ?_, value, hvalue, rfl⟩
    exact hne (by rw [hvalue, Option.map_some, hnil])

/-- A label that was given comes back from quotes as it is, and is not blank. -/
lemma isPlain_label {properties : List Property} (h : ∀ p ∈ properties, p.IsSpellable) :
    ∀ text ∈ label properties, IsPlain text ∧ text ≠ [] := by
  intro text htext
  obtain ⟨hne, value, hvalue, rfl⟩ := exists_lookup?_of_mem_label htext
  exact ⟨(isQuotable_of_lookup? h hvalue).isPlain_trim, hne⟩

/-- The extra entries are properties whose keys are no columns. -/
lemma mem_of_mem_extra {properties : List Property} {e : Text × Text}
    (h : e ∈ (extra properties).toList) :
    isExtraKey e.1 = true ∧ ∃ p ∈ properties, p.key = e.1 ∧ p.value = e.2 := by
  obtain ⟨p, hp, rfl⟩ := List.mem_map.mp (KeyMap.mem_of_mem_toList_ofList h)
  obtain ⟨hmem, hkey⟩ := List.mem_filter.mp hp
  exact ⟨hkey, p, hmem, rfl, rfl⟩

/-- The draft of an annotation that can be written holds a node of this kind. -/
theorem isAnnotatedIn_build (script : ScriptRef) {found : Annotation}
    (h : ∀ p ∈ found.properties, p.IsSpellable) :
    (build script found).node.IsAnnotatedIn script where
  fileName := rfl
  filePath := rfl
  fileType := rfl
  id := isPlain_id h
  label := isPlain_label h
  inputs := isFileList_files h "input"
  outputs := by
    cases hempty : (files "output" found.properties).isEmpty with
    | true =>
      refine .inr ?_
      simp only [build, hempty, if_true]
    | false =>
      refine .inl ?_
      simp only [build, hempty, Bool.false_eq_true, if_false]
      exact ⟨isFileList_files h "output", by simpa using hempty⟩
  dependencies := rfl
  origin := rfl
  extra := by
    intro e he
    obtain ⟨hkey, p, hp, hpkey, hpvalue⟩ := mem_of_mem_extra he
    exact ⟨hpkey ▸ (h p hp).key, hkey, hpvalue ▸ (h p hp).value⟩

end Draft

/-! ## Describing a node -/

namespace Node

/-- Files as the value of a field, which has none if there are no files. -/
def listed (tokens : List Text) : Option Text :=
  if tokens.isEmpty then none else some (join ", " tokens)

/-- The fields of a node that properties can set. -/
def fields (node : Node) : List (Text × Option Text) :=
  [("id", some node.id), ("label", node.label), ("node_type", some node.kind.tag),
    ("input", listed (node.inputs ++ node.dependencies)), ("output", listed node.outputs)]

/-- The extra properties of a node. -/
def extraProperties (node : Node) : List Property :=
  node.extra.toList.map fun e => ⟨e.1, e.2⟩

lemma map_fst_fields (node : Node) : node.fields.map Prod.fst = Draft.canonicalKeys := rfl

lemma properties_eq (node : Node) :
    node.properties = Property.ofFields node.fields ++ node.extraProperties := by
  have hlisted : ∀ (key : Text) (tokens : List Text),
      (if tokens.isEmpty then [] else [(⟨key, join ", " tokens⟩ : Property)]) =
        (listed tokens).toList.map fun value => ⟨key, value⟩ := by
    intro key tokens
    unfold listed
    split <;> rfl
  simp only [properties, hlisted, Property.ofFields, fields, List.flatMap_cons,
    List.flatMap_nil, List.append_assoc, List.append_nil]
  rfl

/-- Every node has an identifier to write, be it empty. -/
lemma properties_ne_nil (node : Node) : node.properties ≠ [] := by
  have hmem : ⟨"id", node.id⟩ ∈ Property.ofFields node.fields :=
    Property.mem_ofFields.mpr List.mem_cons_self
  rw [properties_eq]
  exact List.ne_nil_of_mem (List.mem_append_left _ hmem)

/-- The key of a field is an identifier, and that of no extra property. -/
lemma isExtraKey_of_mem_fields {node : Node} {key : Text} {value : Option Text}
    (h : (key, value) ∈ node.fields) :
    isIdentifier key = true ∧ Draft.isExtraKey key = false := by
  have hall : ∀ key ∈ Draft.canonicalKeys,
      isIdentifier key = true ∧ Draft.isExtraKey key = false := by decide
  exact hall key (node.map_fst_fields ▸ List.mem_map_of_mem h)

/-- A list of files can stand in quotes if it is missing or its value can. -/
lemma isQuotable_join_iff_listed {tokens : List Text} :
    IsQuotable (join ", " tokens) ↔ ∀ value ∈ listed tokens, IsQuotable value := by
  cases tokens with
  | nil =>
    refine ⟨fun _ value hvalue => ?_, fun _ => isPlain_nil.toIsQuotable⟩
    exact absurd hvalue (Option.not_mem_none value)
  | cons first rest =>
    refine ⟨fun h value hvalue => ?_, fun h => h _ rfl⟩
    exact Option.some.inj hvalue ▸ h

namespace IsDescribable

variable {node : Node}

/-- All properties of a node can be written exactly if its lists of files can. -/
theorem isSpellable_properties_iff (h : node.IsDescribable) :
    (∀ p ∈ node.properties, p.IsSpellable) ↔
      IsQuotable (join ", " (node.inputs ++ node.dependencies)) ∧
        IsQuotable (join ", " node.outputs) := by
  constructor
  · intro hspell
    have hlisted : ∀ (key : Text) (tokens : List Text),
        (key, listed tokens) ∈ node.fields → IsQuotable (join ", " tokens) := by
      intro key tokens hfield
      refine isQuotable_join_iff_listed.mpr fun value hvalue => ?_
      have hmem : ⟨key, value⟩ ∈ Property.ofFields node.fields := by
        rw [Property.mem_ofFields, ← Option.mem_def.mp hvalue]
        exact hfield
      rw [properties_eq] at hspell
      exact (hspell _ (List.mem_append_left _ hmem)).value
    exact ⟨hlisted "input" _ (by simp [fields]), hlisted "output" _ (by simp [fields])⟩
  · rintro ⟨hreads, hwrites⟩ p hp
    have hkind : IsQuotable node.kind.tag := by
      cases node.kind <;> exact ⟨⟨by decide, by decide⟩, .inl (by decide)⟩
    rw [properties_eq] at hp
    rcases List.mem_append.mp hp with hp | hp
    · have hfield := Property.mem_ofFields.mp hp
      refine ⟨(isExtraKey_of_mem_fields hfield).1, ?_⟩
      simp only [fields, List.mem_cons, Prod.mk.injEq, List.not_mem_nil, or_false] at hfield
      rcases hfield with ⟨-, heq⟩ | ⟨-, heq⟩ | ⟨-, heq⟩ | ⟨-, heq⟩ | ⟨-, heq⟩
      · exact Option.some.inj heq ▸ h.id.toIsQuotable
      · exact (h.label p.value heq.symm).1.toIsQuotable
      · exact Option.some.inj heq ▸ hkind
      · exact isQuotable_join_iff_listed.mp hreads p.value heq.symm
      · exact isQuotable_join_iff_listed.mp hwrites p.value heq.symm
    · obtain ⟨e, he, rfl⟩ := List.mem_map.mp hp
      obtain ⟨hkey, -, hvalue⟩ := h.extra e he
      exact ⟨hkey, hvalue⟩

/-! ### What the properties stand for -/

/-- Every field is looked up as it was written: its key is neither that of another
field nor that of an extra property. -/
lemma lookup?_properties (h : node.IsDescribable) {key : Text} {value : Option Text}
    (hfield : (key, value) ∈ node.fields) :
    Property.lookup? key node.properties = value := by
  have hextra : Property.lookup? key node.extraProperties = none := by
    refine Property.lookup?_eq_none fun p hp heq => ?_
    obtain ⟨e, he, rfl⟩ := List.mem_map.mp hp
    have hfalse := (h.extra e he).2.1
    rw [show e.1 = key from heq, (isExtraKey_of_mem_fields hfield).2] at hfalse
    exact Bool.noConfusion hfalse
  have hkeys : (node.fields.map Prod.fst).Nodup := by
    rw [map_fst_fields]
    decide
  rw [properties_eq, Property.lookup?_append, hextra, Option.none_or,
    Property.lookup?_ofFields hkeys hfield]

/-- The identifier comes back, also if it is empty. -/
lemma id?_properties (h : node.IsDescribable) :
    Draft.id? node.properties = some node.id := by
  have hfield : (("id" : Text), some node.id) ∈ node.fields := by simp [fields]
  rw [Draft.id?, h.lookup?_properties hfield, Option.map_some, h.id.trimmed.trim_eq]

/-- The label comes back, also if there is none. -/
lemma label_properties (h : node.IsDescribable) :
    Draft.label node.properties = node.label := by
  have hfield : (("label" : Text), node.label) ∈ node.fields := by simp [fields]
  rw [Draft.label, h.lookup?_properties hfield]
  cases hlabel : node.label with
  | none => rfl
  | some label =>
    obtain ⟨hplain, hne⟩ := h.label label (by rw [hlabel, Option.mem_some_iff])
    rw [Option.map_some, hplain.trimmed.trim_eq]
    split
    next heq => exact absurd (Option.some.inj heq) hne
    next => rfl

/-- The kind comes back. -/
lemma kind_properties (h : node.IsDescribable) :
    Draft.kind node.properties = node.kind := by
  have hfield : (("node_type" : Text), some node.kind.tag) ∈ node.fields := by simp [fields]
  rw [Draft.kind, h.lookup?_properties hfield]
  cases node.kind <;> rfl

/-- A field of files is read as its list. -/
lemma files_properties (h : node.IsDescribable) {key : Text} {tokens : List Text}
    (hfield : (key, listed tokens) ∈ node.fields) :
    Draft.files key node.properties = commaList (join ", " tokens) := by
  rw [Draft.files, h.lookup?_properties hfield]
  cases tokens <;> rfl

/-- The files that are read are those that the node reads and those that it sources. -/
lemma files_input_properties (h : node.IsDescribable) :
    Draft.files "input" node.properties =
      commaList (join ", " (node.inputs ++ node.dependencies)) := by
  have hfield : (("input" : Text), listed (node.inputs ++ node.dependencies)) ∈ node.fields := by
    simp [fields]
  exact h.files_properties hfield

/-- The files that are written are those that the node writes. -/
lemma files_output_properties (h : node.IsDescribable) :
    Draft.files "output" node.properties = commaList (join ", " node.outputs) := by
  have hfield : (("output" : Text), listed node.outputs) ∈ node.fields := by simp [fields]
  exact h.files_properties hfield

/-- The extra properties come back. -/
lemma extra_properties (h : node.IsDescribable) :
    Draft.extra node.properties = node.extra := by
  have hfields : (Property.ofFields node.fields).filter
      (fun p => Draft.isExtraKey p.key) = [] := by
    refine List.filter_eq_nil_iff.mpr fun p hp => ?_
    rw [(isExtraKey_of_mem_fields (Property.mem_ofFields.mp hp)).2]
    exact Bool.noConfusion
  have hextra : node.extraProperties.filter (fun p => Draft.isExtraKey p.key) =
      node.extraProperties := by
    refine List.filter_eq_self.mpr fun p hp => ?_
    obtain ⟨e, he, rfl⟩ := List.mem_map.mp hp
    exact (h.extra e he).2.1
  have hpairs : node.extraProperties.map (fun p => (p.key, p.value)) = node.extra.toList := by
    rw [extraProperties, List.map_map]
    exact List.map_id node.extra.toList
  rw [Draft.extra, properties_eq, List.filter_append, hfields, List.nil_append, hextra, hpairs,
    KeyMap.ofList_toList]

end IsDescribable

namespace IsAnnotatedIn

variable {script : ScriptRef} {node : Node}

/-- The written form of the outputs can stand in quotes. -/
lemma isQuotable_outputs (h : node.IsAnnotatedIn script) (hname : IsPlainName script.fileName) :
    IsQuotable (join ", " node.outputs) := by
  rcases h.outputs with ⟨houtputs, -⟩ | houtputs
  · exact houtputs.quotable
  · rw [houtputs, join, List.intercalate_singleton]
    exact hname.toIsQuotable

/-- A node that comes from an annotation can be written. -/
theorem isSpellable_properties (h : node.IsAnnotatedIn script)
    (hname : IsPlainName script.fileName) : ∀ p ∈ node.properties, p.IsSpellable := by
  have hinputs : IsQuotable (join ", " (node.inputs ++ node.dependencies)) := by
    rw [h.dependencies, List.append_nil]
    exact h.inputs.quotable
  exact h.isSpellable_properties_iff.mpr ⟨hinputs, h.isQuotable_outputs hname⟩

/-- The inputs come back. -/
lemma commaList_inputs (h : node.IsAnnotatedIn script) :
    commaList (join ", " (node.inputs ++ node.dependencies)) = node.inputs := by
  rw [h.dependencies, List.append_nil, commaList_join h.inputs.toIsCommaList]

/-- The outputs come back: a list that was given is read again, and where none was the
name of the script is put in again, even if it is empty. -/
lemma commaList_outputs (h : node.IsAnnotatedIn script) (hname : IsPlainName script.fileName) :
    (if (commaList (join ", " node.outputs)).isEmpty then [script.fileName]
      else commaList (join ", " node.outputs)) = node.outputs := by
  rcases h.outputs with ⟨houtputs, hne⟩ | houtputs
  · rw [Text.commaList_join houtputs.toIsCommaList, if_neg (by simpa using hne)]
  · rw [houtputs, hname.commaList_join]
    split
    next hnil => rw [hnil]; rfl
    next => rfl

/-- The properties of a node stand for the node itself, on the line on which they are
found, and its identifier counts as given. -/
theorem build_properties (h : node.IsAnnotatedIn script) (hname : IsPlainName script.fileName)
    (line : Nat) :
    (Draft.build script ⟨line, node.properties⟩).node = { node with line := some line } ∧
      (Draft.build script ⟨line, node.properties⟩).needsId = false := by
  unfold Draft.build
  simp only [h.id?_properties, h.label_properties, h.kind_properties, h.files_input_properties,
    h.files_output_properties, h.extra_properties, h.commaList_inputs, h.commaList_outputs hname,
    Option.getD_some, Option.isNone_some, and_true]
  rw [← h.fileName, ← h.filePath, ← h.fileType, ← h.origin, ← h.dependencies]

end IsAnnotatedIn

end Node

end ScriptFlow
