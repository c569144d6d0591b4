import ScriptFlow.Proofs.Text.Lines
import ScriptFlow.Proofs.Text.Trim

/-!
# Lists between commas

A list of files is written with a comma and a blank between its entries.  Reading
gives the entries without the blanks around them and without the blank ones, so
writing is undone exactly for the lists that reading can give.
-/

namespace ScriptFlow

namespace Text

/-- A list that can be read between commas: its entries are trimmed, are not empty
and hold no comma. -/
structure IsCommaList (tokens : List Text) : Prop where
  trimmed : ∀ token ∈ tokens, IsTrimmed token
  nonempty : ∀ token ∈ tokens, token ≠ []
  noComma : ∀ token ∈ tokens, ',' ∉ token

/-- A comma and a blank between texts, taken as a comma between texts with a blank
in front of each but the first. -/
lemma join_comma_blank (first : Text) (rest : List Text) :
    join ", " (first :: rest) = join [','] (first :: rest.map fun s => ' ' :: s) := by
  induction rest generalizing first with
  | nil => rfl
  | cons next rest ih =>
    have hnext := ih next
    rw [List.map_cons, join_cons_of_ne_nil _ _ (List.cons_ne_nil _ _), hnext,
      join_cons_of_ne_nil _ _ (List.cons_ne_nil _ _)]
    cases rest with
    | nil => simp [join, List.intercalate_singleton]
    | cons last rest => simp [join, List.intercalate_cons_cons]

/-- Trimmed texts that are not empty stay trimmed when they are joined. -/
lemma isTrimmed_join (separator : Text) {parts : List Text}
    (h : ∀ part ∈ parts, IsTrimmed part ∧ part ≠ []) :
    IsTrimmed (join separator parts) ∧ (parts ≠ [] → join separator parts ≠ []) := by
  induction parts with
  | nil => exact ⟨isTrimmed_nil, fun hne => absurd rfl hne⟩
  | cons part others ih =>
    obtain ⟨⟨htrim, hpart⟩, hothers⟩ := List.forall_mem_cons.mp h
    by_cases hnil : others = []
    · rw [hnil, join, List.intercalate_singleton]
      exact ⟨htrim, fun _ => hpart⟩
    · obtain ⟨hrest, hrestne⟩ := ih hothers
      rw [join_cons_of_ne_nil _ _ hnil]
      exact ⟨isTrimmed_of_ends htrim hpart hrest (hrestne hnil) separator, by simp [hpart]⟩

/-- A piece of a division is a part of the text. -/
lemma subset_of_mem_splitOn {mark : Char} {t piece : Text} (h : piece ∈ t.splitOn mark) :
    piece ⊆ t := by
  have hsubset := subset_join [mark] h
  rwa [join, List.intercalate_splitOn] at hsubset

/-- An entry that was read is a trimmed piece between commas. -/
lemma mem_commaList {t token : Text} (h : token ∈ commaList t) :
    (∃ piece ∈ t.splitOn ',', trim piece = token) ∧ token ≠ [] := by
  rw [commaList, List.mem_filter, List.mem_map] at h
  obtain ⟨hpiece, hne⟩ := h
  exact ⟨hpiece, by simpa using hne⟩

/-- Reading gives a list that can be read. -/
theorem isCommaList_commaList (t : Text) : IsCommaList (commaList t) where
  trimmed token h := by
    obtain ⟨⟨piece, -, rfl⟩, -⟩ := mem_commaList h
    exact isTrimmed_trim piece
  nonempty token h := (mem_commaList h).2
  noComma token h := by
    obtain ⟨⟨piece, hpiece, rfl⟩, -⟩ := mem_commaList h
    exact fun hc => not_mem_of_mem_splitOn hpiece (trim_subset piece hc)

/-- Every entry that is read is a part of the text. -/
lemma subset_of_mem_commaList {t token : Text} (h : token ∈ commaList t) : token ⊆ t := by
  obtain ⟨⟨piece, hpiece, rfl⟩, -⟩ := mem_commaList h
  exact fun _ hc => subset_of_mem_splitOn hpiece (trim_subset piece hc)

/-- Reading undoes writing. -/
theorem commaList_join {tokens : List Text} (h : IsCommaList tokens) :
    commaList (join ", " tokens) = tokens := by
  cases tokens with
  | nil => rfl
  | cons first rest =>
    have hpieces : ∀ piece ∈ first :: rest.map fun s => ' ' :: s, ',' ∉ piece := by
      intro piece hpiece
      rcases List.mem_cons.mp hpiece with rfl | hpiece
      · exact h.noComma piece List.mem_cons_self
      · obtain ⟨token, htoken, rfl⟩ := List.mem_map.mp hpiece
        have hnot := h.noComma token (List.mem_cons_of_mem _ htoken)
        simpa using hnot
    have hsplit : (join ", " (first :: rest)).splitOn ',' =
        first :: rest.map fun s => ' ' :: s := by
      rw [join_comma_blank]
      exact List.splitOn_intercalate ',' hpieces (List.cons_ne_nil _ _)
    have htrim : (rest.map fun s => ' ' :: s).map trim = rest := by
      rw [List.map_map]
      refine (List.map_congr_left fun token htoken => ?_).trans (List.map_id rest)
      have htoken' := h.trimmed token (List.mem_cons_of_mem _ htoken)
      exact (trim_append_left (isBlankText_replicate 1) token).trans htoken'.trim_eq
    have hkeep : ∀ token ∈ first :: rest, (!token.isEmpty) = true := by
      intro token htoken
      simpa using h.nonempty token htoken
    rw [commaList, hsplit, List.map_cons, htrim, (h.trimmed first List.mem_cons_self).trim_eq,
      List.filter_eq_self.mpr hkeep]

end Text

end ScriptFlow
