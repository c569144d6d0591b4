import Mathlib.Data.List.Basic
import ScriptFlow.Scan.Merge

/-!
# Supplementing annotated drafts

Supplementing adds to the first of some drafts what was detected and what none of them
declares.  What a draft declares is spread over three lists, and the name of the script counts
as an output only where it was given, not where it stands in for outputs that were not.  So a
new output takes the place of a standard one, and nothing that was declared is lost by it.

What is declared afterwards is what was declared before and what was detected
(`isDeclared_supplement_iff`), which is why nothing is left to be added a second time
(`supplement_supplement`).
-/

namespace ScriptFlow

namespace Draft

/-! ## Declared tokens -/

/-- Whether a token is something that a draft reads, sources or writes, a standard output left
out. -/
def Declares (draft : Draft) (token : Text) : Prop :=
  token ∈ draft.node.inputs ∨ token ∈ draft.node.dependencies ∨
    (draft.outputDefaulted = false ∧ token ∈ draft.node.outputs)

/-- Whether one of some drafts declares a token. -/
def IsDeclared (drafts : List Draft) (token : Text) : Prop :=
  ∃ draft ∈ drafts, draft.Declares token

lemma mem_givenOutputs_iff {draft : Draft} {token : Text} :
    token ∈ draft.givenOutputs ↔ draft.outputDefaulted = false ∧ token ∈ draft.node.outputs := by
  rw [givenOutputs]
  cases draft.outputDefaulted <;> simp

lemma declares_iff {draft : Draft} {token : Text} :
    draft.declares token = true ↔ draft.Declares token := by
  rw [declares, Bool.or_eq_true, Bool.or_eq_true, List.contains_iff_mem, List.contains_iff_mem,
    List.contains_iff_mem, mem_givenOutputs_iff, or_assoc, or_comm (a := _ ∧ _), Declares]

/-- The new tokens among some are those that no draft declares. -/
lemma mem_undeclared_iff {drafts : List Draft} {tokens : List Text} {token : Text} :
    token ∈ undeclared drafts tokens ↔ token ∈ tokens ∧ ¬IsDeclared drafts token := by
  have hdeclared : (drafts.any fun draft => draft.declares token) = true ↔
      IsDeclared drafts token := by
    simp only [List.any_eq_true, declares_iff, IsDeclared]
  rw [undeclared, List.mem_filter, Bool.not_eq_true', ← Bool.not_eq_true, hdeclared]

/-- Nothing is new when everything is declared. -/
lemma undeclared_eq_nil {drafts : List Draft} {tokens : List Text}
    (h : ∀ token ∈ tokens, IsDeclared drafts token) : undeclared drafts tokens = [] := by
  refine List.eq_nil_iff_forall_not_mem.mpr fun token hmem => ?_
  obtain ⟨htoken, hnot⟩ := mem_undeclared_iff.mp hmem
  exact hnot (h token htoken)

/-- The tokens among some that no draft declares, each once and in their order. -/
structure AreNew (drafts : List Draft) (tokens new : List Text) : Prop where
  sublist : new.Sublist tokens
  nodup : new.Nodup
  mem_iff : ∀ token, token ∈ new ↔ token ∈ tokens ∧ ¬IsDeclared drafts token

lemma areNew_undeclared (drafts : List Draft) {tokens : List Text} (h : tokens.Nodup) :
    AreNew drafts tokens (undeclared drafts tokens) where
  sublist := List.filter_sublist
  nodup := h.filter _
  mem_iff _ := mem_undeclared_iff

/-! ## Extended drafts -/

section Extend

variable (draft : Draft) (inputs outputs dependencies : List Text)

/-- Nothing further changes nothing. -/
lemma extend_nil : draft.extend [] [] [] = draft := by
  simp [extend]

/-- Further outputs are given outputs, also where they replace a standard one. -/
lemma givenOutputs_extend :
    (draft.extend inputs outputs dependencies).givenOutputs = draft.givenOutputs ++ outputs := by
  cases outputs with
  | nil => simp [extend, givenOutputs]
  | cons output others => simp [extend, givenOutputs]

/-- A draft with further files declares these besides its own. -/
lemma declares_extend_iff {token : Text} :
    (draft.extend inputs outputs dependencies).Declares token ↔
      draft.Declares token ∨ token ∈ inputs ∨ token ∈ dependencies ∨ token ∈ outputs := by
  simp only [Declares, ← mem_givenOutputs_iff, givenOutputs_extend]
  simp only [extend, List.mem_append]
  tauto

/-- Without further outputs a draft keeps its own, given or not. -/
lemma outputs_extend_nil :
    (draft.extend inputs [] dependencies).node.outputs = draft.node.outputs ∧
      (draft.extend inputs [] dependencies).outputDefaulted = draft.outputDefaulted :=
  ⟨rfl, Bool.and_true _⟩

variable {draft outputs}

/-- Further outputs stand behind given ones. -/
lemma outputs_extend_of_given (hgiven : draft.outputDefaulted = false) :
    (draft.extend inputs outputs dependencies).node.outputs = draft.node.outputs ++ outputs ∧
      (draft.extend inputs outputs dependencies).outputDefaulted = false := by
  cases outputs with
  | nil => simp [extend, hgiven]
  | cons output others => simp [extend, givenOutputs, hgiven]

/-- Further outputs stand in the place of a standard one. -/
lemma outputs_extend_of_defaulted (hdefaulted : draft.outputDefaulted = true)
    (hne : outputs ≠ []) :
    (draft.extend inputs outputs dependencies).node.outputs = outputs ∧
      (draft.extend inputs outputs dependencies).outputDefaulted = false := by
  have hsome : outputs.isEmpty = false := List.isEmpty_eq_false_iff.mpr hne
  simp [extend, givenOutputs, hdefaulted, hsome]

end Extend

/-! ## Supplemented drafts -/

/-- Supplemented drafts declare what the drafts declare and what was detected, and nothing
else. -/
lemma isDeclared_supplement_iff {drafts : List Draft} {found : Draft} {token : Text} :
    IsDeclared (supplement drafts found) token ↔
      IsDeclared drafts token ∨ found.Declares token := by
  cases drafts with
  | nil => simp [supplement, IsDeclared]
  | cons first rest =>
    have hfirst : ∀ {draft : Draft}, IsDeclared (draft :: rest) token ↔
        draft.Declares token ∨ IsDeclared rest token := by
      intro draft
      simp only [IsDeclared, List.mem_cons, exists_eq_or_imp]
    have hfound : found.Declares token ↔ token ∈ found.node.inputs ∨
        token ∈ found.node.dependencies ∨ token ∈ found.givenOutputs := by
      rw [Declares, mem_givenOutputs_iff]
    rw [supplement, hfirst, declares_extend_iff, mem_undeclared_iff, mem_undeclared_iff,
      mem_undeclared_iff, hfirst, hfound]
    tauto

/-- Nothing is added to drafts that declare everything that was detected. -/
lemma supplement_eq_self {drafts : List Draft} {found : Draft} (hne : drafts ≠ [])
    (h : ∀ token, found.Declares token → IsDeclared drafts token) :
    supplement drafts found = drafts := by
  have hinputs : undeclared drafts found.node.inputs = [] :=
    undeclared_eq_nil fun token htoken => h token (.inl htoken)
  have hdependencies : undeclared drafts found.node.dependencies = [] :=
    undeclared_eq_nil fun token htoken => h token (.inr (.inl htoken))
  have houtputs : undeclared drafts found.givenOutputs = [] :=
    undeclared_eq_nil fun token htoken => h token (.inr (.inr (mem_givenOutputs_iff.mp htoken)))
  obtain ⟨first, rest, rfl⟩ := List.exists_cons_of_ne_nil hne
  rw [supplement, hinputs, hdependencies, houtputs, extend_nil]

/-- What was detected is added only once. -/
lemma supplement_supplement (drafts : List Draft) (found : Draft) :
    supplement (supplement drafts found) found = supplement drafts found := by
  refine supplement_eq_self ?_ fun token htoken => isDeclared_supplement_iff.mpr (.inr htoken)
  cases drafts <;> exact List.cons_ne_nil _ _

/-- Whether a draft was detected to write something that no other draft declares. -/
def WritesNew (drafts : List Draft) (found : Draft) : Prop :=
  ∃ token, (found.outputDefaulted = false ∧ token ∈ found.node.outputs) ∧
    ¬IsDeclared drafts token

lemma writesNew_iff {drafts : List Draft} {found : Draft} :
    WritesNew drafts found ↔ undeclared drafts found.givenOutputs ≠ [] := by
  simp only [WritesNew, ← mem_givenOutputs_iff, ← mem_undeclared_iff]
  exact ⟨fun ⟨_, hmem⟩ => List.ne_nil_of_mem hmem, List.exists_mem_of_ne_nil _⟩

/-- The first of some drafts, supplemented by what was detected and not declared by any of
them. -/
structure IsSupplemented (first : Draft) (rest : List Draft) (found supplemented : Draft) :
    Prop where
  /-- Nothing differs but the files and whether the output is a standard one. -/
  others : supplemented = { first with
    node := { first.node with
      inputs := supplemented.node.inputs
      outputs := supplemented.node.outputs
      dependencies := supplemented.node.dependencies }
    outputDefaulted := supplemented.outputDefaulted }
  inputs : ∃ new, supplemented.node.inputs = first.node.inputs ++ new ∧
    AreNew (first :: rest) found.node.inputs new
  dependencies : ∃ new, supplemented.node.dependencies = first.node.dependencies ++ new ∧
    AreNew (first :: rest) found.node.dependencies new
  /-- New outputs stand behind given ones, and a standard output stays if there are none. -/
  outputs : ¬(first.outputDefaulted = true ∧ WritesNew (first :: rest) found) →
    supplemented.outputDefaulted = first.outputDefaulted ∧
      ∃ new, supplemented.node.outputs = first.node.outputs ++ new ∧
        AreNew (first :: rest) found.givenOutputs new
  /-- New outputs replace a standard one. -/
  replaced : first.outputDefaulted = true ∧ WritesNew (first :: rest) found →
    supplemented.outputDefaulted = false ∧
      AreNew (first :: rest) found.givenOutputs supplemented.node.outputs

/-- Extending the first draft by the new tokens supplements it. -/
lemma isSupplemented_extend {first found : Draft} (rest : List Draft)
    (hinputs : found.node.inputs.Nodup) (houtputs : found.node.outputs.Nodup)
    (hdependencies : found.node.dependencies.Nodup) :
    IsSupplemented first rest found
      (first.extend (undeclared (first :: rest) found.node.inputs)
        (undeclared (first :: rest) found.givenOutputs)
        (undeclared (first :: rest) found.node.dependencies)) := by
  have hgiven : found.givenOutputs.Nodup := by
    rw [givenOutputs]
    split
    · exact List.nodup_nil
    · exact houtputs
  have hnew := areNew_undeclared (first :: rest) hgiven
  constructor
  case others => rfl
  case inputs => exact ⟨_, rfl, areNew_undeclared _ hinputs⟩
  case dependencies => exact ⟨_, rfl, areNew_undeclared _ hdependencies⟩
  case outputs =>
    intro hkept
    cases hdefaulted : first.outputDefaulted with
    | false =>
      obtain ⟨houtputs, hfalse⟩ := outputs_extend_of_given
        (undeclared (first :: rest) found.node.inputs)
        (undeclared (first :: rest) found.node.dependencies) hdefaulted
      exact ⟨hfalse, _, houtputs, hnew⟩
    | true =>
      have hnone : undeclared (first :: rest) found.givenOutputs = [] := by
        rw [writesNew_iff] at hkept
        exact not_not.mp fun hne => hkept ⟨hdefaulted, hne⟩
      rw [hnone] at hnew ⊢
      obtain ⟨houtputs, htrue⟩ := outputs_extend_nil first
        (undeclared (first :: rest) found.node.inputs)
        (undeclared (first :: rest) found.node.dependencies)
      exact ⟨htrue.trans hdefaulted, [], houtputs.trans (List.append_nil _).symm, hnew⟩
  case replaced =>
    rintro ⟨hdefaulted, hwrites⟩
    obtain ⟨houtputs, hfalse⟩ := outputs_extend_of_defaulted
      (undeclared (first :: rest) found.node.inputs)
      (undeclared (first :: rest) found.node.dependencies) hdefaulted (writesNew_iff.mp hwrites)
    refine ⟨hfalse, ?_⟩
    rw [houtputs]
    exact hnew

/-- Supplementing some drafts changes their first one only, and this one only by new tokens.
What is declared afterwards is what the drafts declare and what was detected, and doing it
again changes nothing. -/
theorem isSupplemented_merge {first found : Draft} (rest : List Draft)
    (hinputs : found.node.inputs.Nodup) (houtputs : found.node.outputs.Nodup)
    (hdependencies : found.node.dependencies.Nodup) :
    ∃ supplemented, merge .supplement (first :: rest) (some found) = supplemented :: rest ∧
      IsSupplemented first rest found supplemented ∧
      (∀ token, IsDeclared (supplemented :: rest) token ↔
        IsDeclared (first :: rest) token ∨ found.Declares token) ∧
      merge .supplement (supplemented :: rest) (some found) = supplemented :: rest := by
  have hmerge : ∀ draft : Draft, merge .supplement (draft :: rest) (some found) =
      supplement (draft :: rest) found := fun _ => rfl
  refine ⟨_, rfl, isSupplemented_extend rest hinputs houtputs hdependencies, fun token => ?_, ?_⟩
  · exact @isDeclared_supplement_iff (first :: rest) found token
  · rw [hmerge]
    exact supplement_supplement (first :: rest) found

/-- A draft of a script that reads a table and was given no outputs. -/
def cleaning : Draft where
  node := { fileName := "clean.R", inputs := ["raw.csv"], outputs := ["clean.R"] }
  needsId := false
  outputDefaulted := true

/-- A further draft of the same script. -/
def reporting : Draft where
  node := { fileName := "clean.R", inputs := ["clean.csv"], outputs := ["report.pdf"] }
  needsId := false
  outputDefaulted := false

/-- What is detected in the script: it writes itself, and it writes and sources one file. -/
def detectedFiles : Draft where
  node :=
    { fileName := "clean.R"
      inputs := ["raw.csv", "rates.csv"]
      outputs := ["clean.R", "report.pdf", "setup.R"]
      dependencies := ["setup.R"]
      origin := .detected }
  needsId := true
  outputDefaulted := false

/-- The first draft with the new files. -/
def cleaningSupplemented : Draft where
  node :=
    { fileName := "clean.R"
      inputs := ["raw.csv", "rates.csv"]
      outputs := ["clean.R", "setup.R"]
      dependencies := ["setup.R"] }
  needsId := false
  outputDefaulted := false

theorem isSupplemented_merge_cleaning :
    detectedFiles.node.inputs.Nodup ∧ detectedFiles.node.outputs.Nodup ∧
      detectedFiles.node.dependencies.Nodup ∧
      merge .supplement [cleaning, reporting] (some detectedFiles) =
        [cleaningSupplemented, reporting] ∧
      IsSupplemented cleaning [reporting] detectedFiles cleaningSupplemented ∧
      merge .supplement [cleaningSupplemented, reporting] (some detectedFiles) =
        [cleaningSupplemented, reporting] := by
  have hinputs : detectedFiles.node.inputs.Nodup := by decide
  have houtputs : detectedFiles.node.outputs.Nodup := by decide
  have hdependencies : detectedFiles.node.dependencies.Nodup := by decide
  have hmerge : merge .supplement [cleaning, reporting] (some detectedFiles) =
      [cleaningSupplemented, reporting] := by decide
  obtain ⟨supplemented, heq, hsupplemented, -, hagain⟩ :=
    @isSupplemented_merge cleaning detectedFiles [reporting] hinputs houtputs hdependencies
  obtain rfl : supplemented = cleaningSupplemented := by
    rw [hmerge] at heq
    exact (List.cons.inj heq).1.symm
  exact ⟨hinputs, houtputs, hdependencies, hmerge, hsupplemented, hagain⟩

end Draft

end ScriptFlow
