import ScriptFlow.Proofs.Distinct
import ScriptFlow.Proofs.Enumerated
import ScriptFlow.Proofs.Scan.Detected
import ScriptFlow.Proofs.Scan.Source

/-!
# The references of a script

A rule finds a path at a place that is given by a line, a rule and a match, all counted from
0 (`Reference.FoundAt`).  The references of a script enumerate what is found, in the order of
the places (`Reference.enumerates_ofLines`).

The files of a script follow from its references (`References.AreOf`): the distinct paths
of each kind in the order of their first mention, where those that are read lack the ones
that are sourced anywhere.  What is left out of a list thus stands in another one, so there
are files as soon as there is a reference, and a scan of code gives the script a node.
-/

namespace ScriptFlow

open Text

namespace Reference

variable {rules : List ReferenceRule} {lines : List Text}

/-! ## The order of references -/

/-- On a line a match of a rule captures a path. -/
inductive FoundAt (rules : List ReferenceRule) (lines : List Text) :
    Nat × Nat × Nat → Reference → Prop
  | mk {i j k : Nat} {line : Text} {rule : ReferenceRule} {found : Pattern.Cursor} {text : Text}
      (hline : lines[i]? = some line) (hrule : rules[j]? = some rule)
      (hfound : (rule.pattern.matchesIn line)[k]? = some found)
      (htext : found.groupText? rule.path = some text) (hne : trim text ≠ []) :
      FoundAt rules lines (i, j, k) ⟨rule.kind, trim text, i + 1⟩

/-- The reference that a match of a rule stands for, if the match captures a path. -/
def ofMatch? (rule : ReferenceRule) (number : Nat) (found : Pattern.Cursor) : Option Reference :=
  (found.groupText? rule.path).bind fun text =>
    if trim text = [] then none else some ⟨rule.kind, trim text, number⟩

lemma ofMatch?_eq_some_iff {rule : ReferenceRule} {number : Nat} {found : Pattern.Cursor}
    {reference : Reference} : ofMatch? rule number found = some reference ↔
      ∃ text, found.groupText? rule.path = some text ∧ trim text ≠ [] ∧
        reference = ⟨rule.kind, trim text, number⟩ := by
  simp only [ofMatch?, Option.bind_eq_some_iff, Option.ite_none_left_eq_some, Option.some_inj,
    eq_comm (b := reference), ne_eq]

/-- The references of one rule on a line are those of its matches. -/
lemma map_paths (rule : ReferenceRule) (number : Nat) (line : Text) :
    (rule.paths line).map (fun path => ⟨rule.kind, path, number⟩) =
      (rule.pattern.matchesIn line).filterMap (ofMatch? rule number) := by
  rw [ReferenceRule.paths, List.map_filterMap, ← List.filterMap_eq_filter,
    List.filterMap_filterMap, List.map_filterMap]
  refine List.filterMap_congr fun found _ => ?_
  unfold ofMatch?
  cases found.groupText? rule.path with
  | none => rfl
  | some text =>
    by_cases hne : trim text = [] <;> simp [Option.guard, hne]

/-- The references on some lines, as a loop over numbered lines. -/
lemma ofLinesFrom_eq_flatMap (rules : List ReferenceRule) (number : Nat) (lines : List Text) :
    ofLinesFrom rules (number + 1) lines =
      (lines.zipIdx number).flatMap fun numbered => ofLine rules (numbered.2 + 1) numbered.1 := by
  induction lines generalizing number with
  | nil => rfl
  | cons line rest ih => rw [ofLinesFrom, ih, List.zipIdx_cons, List.flatMap_cons]

/-- What is found at a place is the reference that the match there stands for. -/
lemma foundAt_iff {i j k : Nat} {line : Text} {rule : ReferenceRule} {found : Pattern.Cursor}
    {reference : Reference} (hline : lines[i]? = some line) (hrule : rules[j]? = some rule)
    (hfound : (rule.pattern.matchesIn line)[k]? = some found) :
    FoundAt rules lines (i, j, k) reference ↔ ofMatch? rule (i + 1) found = some reference := by
  rw [ofMatch?_eq_some_iff]
  constructor
  · intro h
    cases h with
    | mk hline' hrule' hfound' htext hne =>
      obtain rfl := Option.some.inj (hline.symm.trans hline')
      obtain rfl := Option.some.inj (hrule.symm.trans hrule')
      obtain rfl := Option.some.inj (hfound.symm.trans hfound')
      exact ⟨_, htext, hne, rfl⟩
  · rintro ⟨text, htext, hne, rfl⟩
    exact .mk hline hrule hfound htext hne

/-- The references of a script enumerate what is found in it, by line, rule and match. -/
lemma enumerates_ofLines (rules : List ReferenceRule) (lines : List Text) :
    Enumerates (Prod.Lex (· < ·) (Prod.Lex (· < ·) (· < ·))) (FoundAt rules lines)
      (ofLines rules lines) := by
  rw [ofLines, ofLinesFrom_eq_flatMap]
  refine enumerates_lex_flatMap_zipIdx (fun i line hline => ?_) fun i place reference h => ?_
  · refine enumerates_lex_flatMap (fun j rule hrule => ?_) fun j k reference h => ?_
    · rw [map_paths]
      refine enumerates_filterMap (fun k found hfound reference => ?_) fun k reference h => ?_
      · exact (foundAt_iff hline hrule hfound).symm
      · cases h with
        | mk hline' hrule' hfound =>
          obtain rfl := Option.some.inj (hline.symm.trans hline')
          obtain rfl := Option.some.inj (hrule.symm.trans hrule')
          exact (List.getElem?_eq_some_iff.mp hfound).1
    · cases h with
      | mk _ hrule => exact (List.getElem?_eq_some_iff.mp hrule).1
  · cases h with
    | mk hline => exact (List.getElem?_eq_some_iff.mp hline).1

/-! ## The files among references -/

/-- The paths of the references of one kind, in order. -/
def paths (kind : ReferenceKind) (found : List Reference) : List Text :=
  (found.filter fun reference => reference.kind = kind).map Reference.path

end Reference

namespace References

open Reference (paths)

/-- The files that some references are about: the paths of each kind once, in the order of
their first mention. -/
structure AreOf (found : List Reference) (files : References) : Prop where
  outputs : ListsOnce (paths .output found) files.outputs
  dependencies : ListsOnce (paths .dependency found) files.dependencies
  /-- Of the paths that are read, those that are sourced anywhere are left out. -/
  inputs : ∃ once, ListsOnce (paths .input found) once ∧
    files.inputs = once.filter fun path => path ∉ paths .dependency found
  nodup_inputs : files.inputs.Nodup
  isEmpty_iff : files.isEmpty = true ↔ found = []

lemma listsOnce_pathsOf (kind : ReferenceKind) (found : List Reference) :
    ListsOnce (paths kind found) (pathsOf kind found) := by
  have hpaths : paths kind found =
      (found.filter fun reference => reference.kind == kind).map Reference.path := rfl
  rw [pathsOf, ← hpaths]
  exact listsOnce_eraseDups _

lemma pathsOf_eq_nil_iff {kind : ReferenceKind} {found : List Reference} :
    pathsOf kind found = [] ↔ ∀ reference ∈ found, reference.kind ≠ kind := by
  simp only [List.eq_nil_iff_forall_not_mem, (listsOnce_pathsOf kind found).mem_iff, paths,
    List.mem_map, List.mem_filter, decide_eq_true_eq]
  constructor
  · exact fun h reference hmem hkind => h _ ⟨reference, ⟨hmem, hkind⟩, rfl⟩
  · rintro h _ ⟨reference, ⟨hmem, hkind⟩, -⟩
    exact h reference hmem hkind

/-- There is no file only if there is no reference: the paths that are left out of those that
are read are among those that are sourced. -/
lemma isEmpty_ofList_iff (found : List Reference) :
    (ofList found).isEmpty = true ↔ found = [] := by
  constructor
  · intro hempty
    simp only [isEmpty, Bool.and_eq_true, List.isEmpty_iff] at hempty
    obtain ⟨⟨hinputs, houtputs⟩, hdependencies⟩ := hempty
    have hsourced : pathsOf .dependency found = [] := hdependencies
    have hread : (ofList found).inputs = pathsOf .input found :=
      List.filter_eq_self.mpr fun path _ => by rw [hsourced]; rfl
    rw [hread, pathsOf_eq_nil_iff] at hinputs
    have houtputs := pathsOf_eq_nil_iff.mp houtputs
    have hdependencies := pathsOf_eq_nil_iff.mp hsourced
    refine List.eq_nil_iff_forall_not_mem.mpr fun reference hmem => ?_
    cases hkind : reference.kind with
    | input => exact hinputs reference hmem hkind
    | output => exact houtputs reference hmem hkind
    | dependency => exact hdependencies reference hmem hkind
  · rintro rfl
    rfl

/-- The files among some references. -/
lemma areOf_ofList (found : List Reference) : AreOf found (ofList found) where
  outputs := listsOnce_pathsOf .output found
  dependencies := listsOnce_pathsOf .dependency found
  inputs := by
    refine ⟨_, listsOnce_pathsOf .input found, List.filter_congr fun path _ => ?_⟩
    have hsourced := (listsOnce_pathsOf .dependency found).mem_iff path
    simp [hsourced]
  nodup_inputs := (listsOnce_pathsOf .input found).nodup.filter _
  isEmpty_iff := isEmpty_ofList_iff found

end References

/-- The rules of the language of a script are those of its tag. -/
lemma Script.files_eq (script : Script) :
    script.files = References.ofLines (ReferenceRule.ofTag script.language.tag) script.lines := by
  rw [ReferenceRule.ofTag, Language.ofTag?_tag]
  rfl

namespace Scan

/-! ## The nodes for references -/

/-- A scan of code gives a node for its files to every script with a reference. -/
lemma exists_mem_table_of_references {options : ScanOptions} (hmode : options.mode = .detected)
    {scripts : List Script} (prior : List Issue) {script : Script} (hscript : script ∈ scripts)
    (hfiles : script.files.isEmpty = false) :
    ∃ node ∈ (table options scripts prior).nodes,
      (Draft.ofReferences script.ref script.files).Yields node := by
  have hdrafts : (ofScript options script).drafts =
      [Draft.ofReferences script.ref script.files] := by
    rw [drafts_ofScript_detected hmode, Draft.detected?, hfiles, if_neg Bool.false_ne_true]
    rfl
  have hscan : ofScript options script ∈ ofScripts options scripts := by
    rw [ofScripts_eq_map]
    refine List.mem_map.mpr ⟨script, hscript, withNode_of_drafts_ne_nil _ ?_⟩
    rw [hdrafts]
    exact List.cons_ne_nil _ _
  refine exists_mem_right_of_forall₂ (forall₂_yields_table options scripts prior) ?_
  refine List.mem_flatMap.mpr ⟨_, hscan, ?_⟩
  rw [hdrafts]
  exact List.mem_singleton_self _

/-- The references of a script lose nothing on the way to its files and its node.  For every
tag of a language and all lines: the references are what the rules for the tag find, each
once, in the order of lines, then of rules, then of matches.  The files that are written and
those that are sourced are the paths of the references of their kind, each once, in the order
of their first mention; the files that are read are so too, but without the paths of
references that source, wherever these stand.  There are no files only if there are no
references, and a scan of code gives every script with a reference a node for its files. -/
theorem lists_references (tag : Text) (lines : List Text) :
    Enumerates (Prod.Lex (· < ·) (Prod.Lex (· < ·) (· < ·)))
        (Reference.FoundAt (ReferenceRule.ofTag tag) lines)
        (Reference.ofLines (ReferenceRule.ofTag tag) lines) ∧
      (References.ofLines (ReferenceRule.ofTag tag) lines).AreOf
        (Reference.ofLines (ReferenceRule.ofTag tag) lines) ∧
      ∀ (options : ScanOptions) (scripts : List Script) (prior : List Issue) (script : Script),
        options.mode = .detected → script ∈ scripts → script.language.tag = tag →
        script.lines = lines → Reference.ofLines (ReferenceRule.ofTag tag) lines ≠ [] →
        ∃ node ∈ (table options scripts prior).nodes,
          (Draft.ofReferences script.ref
            (References.ofLines (ReferenceRule.ofTag tag) lines)).Yields node := by
  refine ⟨Reference.enumerates_ofLines _ _, References.areOf_ofList _, ?_⟩
  rintro options scripts prior script hmode hscript rfl rfl hfound
  rw [← script.files_eq]
  refine exists_mem_table_of_references hmode prior hscript ?_
  rw [script.files_eq, ← Bool.not_eq_true]
  exact fun hempty => hfound ((References.isEmpty_ofList_iff _).mp hempty)

/-- A script that reads a file which it sources later, and two others, one of them twice. -/
def rereading : List Text :=
  ["load(\"setup.R\")", "x <- read.csv(\"b.csv\")", "y <- merge(x, read.csv(\"a.csv\"))",
    "source(\"setup.R\"); x <- read.csv(\"b.csv\")"]

theorem lists_references_rereading :
    Reference.ofLines (ReferenceRule.ofTag "r") rereading =
      [⟨.input, "setup.R", 1⟩, ⟨.input, "b.csv", 2⟩, ⟨.input, "a.csv", 3⟩, ⟨.input, "b.csv", 4⟩,
        ⟨.dependency, "setup.R", 4⟩] ∧
    ∃ node ∈ (table { mode := .detected } [⟨"a.R", .r, rereading⟩] []).nodes,
      node.inputs = ["b.csv", "a.csv"] ∧ node.outputs = ["a.R"] ∧
        node.dependencies = ["setup.R"] := by
  have hfound : Reference.ofLines (ReferenceRule.ofTag "r") rereading =
      [⟨.input, "setup.R", 1⟩, ⟨.input, "b.csv", 2⟩, ⟨.input, "a.csv", 3⟩, ⟨.input, "b.csv", 4⟩,
        ⟨.dependency, "setup.R", 4⟩] := by decide +kernel
  refine ⟨hfound, ?_⟩
  obtain ⟨-, -, hnode⟩ := lists_references "r" rereading
  obtain ⟨node, hmem, hyields⟩ := hnode { mode := .detected } [⟨"a.R", .r, rereading⟩] []
    ⟨"a.R", .r, rereading⟩ rfl List.mem_cons_self (by decide) rfl
    (by rw [hfound]; exact List.cons_ne_nil _ _)
  rw [References.ofLines, hfound] at hyields
  exact ⟨node, hmem, hyields.column Node.inputs fun _ => rfl,
    hyields.column Node.outputs fun _ => rfl, hyields.column Node.dependencies fun _ => rfl⟩

end Scan

end ScriptFlow
