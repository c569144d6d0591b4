import ScriptFlow.Proofs.Pattern.Captured
import ScriptFlow.Proofs.Text.Lines
import ScriptFlow.Proofs.Text.Trim
import ScriptFlow.Reference.Basic

/-!
# Paths that are found

The files of a script are the paths that the rules of its language find in its lines,
by kind (`mem_outputs_iff` and the like).  Such a path is a trimmed part of a line, and
it holds no character that the groups of the rule avoid.

For each language but SQL there is a quote that none of its paths holds, as the paths
stand between quotes or consist of plain characters.  SQL has one rule whose paths can
hold everything but blanks; what it writes still holds no single quote.
-/

namespace ScriptFlow

open Text

namespace ReferenceRule

/-- Whether no path that a rule finds holds a character. -/
def avoids (c : Char) (rule : ReferenceRule) : Bool :=
  rule.pattern.groupsAvoid c

/-- A path that is found is what a group captured, without the blanks around it. -/
lemma exists_groupText?_of_mem_paths {rule : ReferenceRule} {line path : Text}
    (h : path ∈ rule.paths line) :
    path ≠ [] ∧ ∃ found ∈ rule.pattern.matchesIn line, ∃ text,
      found.groupText? rule.path = some text ∧ trim text = path := by
  obtain ⟨hmem, hne⟩ := List.mem_filter.mp h
  obtain ⟨text, htext, htrim⟩ := List.mem_map.mp hmem
  obtain ⟨found, hfound, hgroup⟩ := List.mem_filterMap.mp htext
  exact ⟨by simpa using hne, found, hfound, text, hgroup, htrim⟩

/-- A path that is found is a part of the line. -/
lemma subset_of_mem_paths {rule : ReferenceRule} {line path : Text}
    (h : path ∈ rule.paths line) : path ⊆ line := by
  obtain ⟨-, found, hfound, text, htext, rfl⟩ := exists_groupText?_of_mem_paths h
  have hpart := (Pattern.groupText?_of_mem_matchesIn ' ' hfound htext).1
  exact fun _ hc => hpart (trim_subset text hc)

/-- A path that is found holds no character that its rule avoids. -/
lemma not_mem_of_mem_paths {rule : ReferenceRule} {line path : Text}
    (h : path ∈ rule.paths line) {c : Char} (havoid : rule.avoids c = true) : c ∉ path := by
  obtain ⟨-, found, hfound, text, htext, rfl⟩ := exists_groupText?_of_mem_paths h
  have hnot := (Pattern.groupText?_of_mem_matchesIn c hfound htext).2 havoid
  exact fun hc => hnot (trim_subset text hc)

/-! ## The quotes that paths lack -/

/-- No language but SQL has rules for paths with quotes of both kinds. -/
theorem avoids_quote_of_mem_ofLanguage {language : Language} (h : language ≠ .sql) :
    (∀ rule ∈ ofLanguage language, rule.avoids '"' = true) ∨
      ∀ rule ∈ ofLanguage language, rule.avoids '\'' = true := by
  have hall : ∀ language ∈ Language.all, language ≠ .sql →
      (∀ rule ∈ ofLanguage language, rule.avoids '"' = true) ∨
        ∀ rule ∈ ofLanguage language, rule.avoids '\'' = true := by
    decide +kernel
  exact hall language language.mem_all h

/-- The rules of SQL for files that are written avoid single quotes. -/
theorem avoids_singleQuote_of_mem_sql :
    ∀ rule ∈ ofLanguage .sql, rule.kind = .output → rule.avoids '\'' = true := by
  decide +kernel

end ReferenceRule

/-! ## The files of a script -/

/-- Some rules find a path for a kind of references in some lines. -/
def FindsPath (rules : List ReferenceRule) (lines : List Text) (kind : ReferenceKind)
    (path : Text) : Prop :=
  ∃ rule ∈ rules, rule.kind = kind ∧ ∃ line ∈ lines, path ∈ rule.paths line

namespace FindsPath

variable {rules : List ReferenceRule} {lines : List Text} {kind : ReferenceKind} {path : Text}

lemma isTrimmed (h : FindsPath rules lines kind path) : IsTrimmed path := by
  obtain ⟨rule, -, -, line, -, hpath⟩ := h
  obtain ⟨-, -, -, text, -, rfl⟩ := ReferenceRule.exists_groupText?_of_mem_paths hpath
  exact isTrimmed_trim text

lemma ne_nil (h : FindsPath rules lines kind path) : path ≠ [] := by
  obtain ⟨rule, -, -, line, -, hpath⟩ := h
  exact (ReferenceRule.exists_groupText?_of_mem_paths hpath).1

/-- A path holds no character that is in none of the lines. -/
lemma not_mem_of_lines (h : FindsPath rules lines kind path) {c : Char}
    (hlines : ∀ line ∈ lines, c ∉ line) : c ∉ path := by
  obtain ⟨rule, -, -, line, hline, hpath⟩ := h
  exact fun hc => hlines line hline (ReferenceRule.subset_of_mem_paths hpath hc)

/-- A path holds no character that all rules for its kind avoid. -/
lemma not_mem_of_avoids (h : FindsPath rules lines kind path) {c : Char}
    (havoid : ∀ rule ∈ rules, rule.kind = kind → rule.avoids c = true) : c ∉ path := by
  obtain ⟨rule, hrule, hkind, line, -, hpath⟩ := h
  exact ReferenceRule.not_mem_of_mem_paths hpath (havoid rule hrule hkind)

end FindsPath

namespace Reference

/-- The references on some lines are what the rules find there. -/
lemma exists_mem_ofLinesFrom_iff {rules : List ReferenceRule} {number : Nat} {lines : List Text}
    {kind : ReferenceKind} {path : Text} :
    (∃ reference ∈ ofLinesFrom rules number lines, reference.kind = kind ∧
      reference.path = path) ↔ FindsPath rules lines kind path := by
  have hline : ∀ {number : Nat} {line : Text},
      (∃ reference ∈ ofLine rules number line, reference.kind = kind ∧ reference.path = path) ↔
        ∃ rule ∈ rules, rule.kind = kind ∧ path ∈ rule.paths line := by
    intro number line
    simp only [ofLine, List.mem_flatMap, List.mem_map]
    constructor
    · rintro ⟨_, ⟨rule, hrule, found, hfound, rfl⟩, rfl, rfl⟩
      exact ⟨rule, hrule, rfl, hfound⟩
    · rintro ⟨rule, hrule, rfl, hpath⟩
      exact ⟨_, ⟨rule, hrule, path, hpath, rfl⟩, rfl, rfl⟩
  induction lines generalizing number with
  | nil => simp [ofLinesFrom, FindsPath]
  | cons line rest ih =>
    simp only [ofLinesFrom, List.mem_append, or_and_right, exists_or, hline, ih, FindsPath,
      List.exists_mem_cons_iff, and_or_left]

end Reference

namespace References

variable {rules : List ReferenceRule} {lines : List Text} {path : Text}

/-- The paths of a kind are those that the rules for it find. -/
lemma mem_pathsOf_iff {kind : ReferenceKind} :
    path ∈ pathsOf kind (Reference.ofLines rules lines) ↔ FindsPath rules lines kind path := by
  have hfind : (∃ reference ∈ Reference.ofLinesFrom rules 1 lines, reference.kind = kind ∧
      reference.path = path) ↔ FindsPath rules lines kind path :=
    Reference.exists_mem_ofLinesFrom_iff
  rw [← hfind, pathsOf, List.mem_eraseDups, List.mem_map]
  simp only [List.mem_filter, beq_iff_eq, and_assoc]
  rfl

/-- The files that a script writes. -/
theorem mem_outputs_iff :
    path ∈ (ofLines rules lines).outputs ↔ FindsPath rules lines .output path :=
  mem_pathsOf_iff

/-- The files that a script sources. -/
theorem mem_dependencies_iff :
    path ∈ (ofLines rules lines).dependencies ↔ FindsPath rules lines .dependency path :=
  mem_pathsOf_iff

/-- The files that a script reads, apart from those that it sources. -/
theorem mem_inputs_iff :
    path ∈ (ofLines rules lines).inputs ↔
      FindsPath rules lines .input path ∧ ¬FindsPath rules lines .dependency path := by
  rw [ofLines, ofList, List.mem_filter, mem_pathsOf_iff, Bool.not_eq_true',
    ← Bool.not_eq_true, List.contains_iff_mem, mem_pathsOf_iff]

end References

end ScriptFlow
