import ScriptFlow.Proofs.Annotation.Spelling
import ScriptFlow.Proofs.Distinct
import ScriptFlow.Proofs.Fresh
import ScriptFlow.Proofs.Path
import ScriptFlow.Proofs.Results
import ScriptFlow.Scan.Ident

/-!
# Made identifiers

A draft becomes a node by keeping its identifier or by getting one that is made of
the stem of its script and numbers.  Nodes are made one after the other, so the
nodes of drafts in a row are those of the first ones and those of the rest.

Identifiers that were given are reported when an earlier node has them, one report for
each later use (`forall₂_duplicatesFrom`).
-/

namespace ScriptFlow

open Text

namespace Draft

/-! ## What a made identifier is made of -/

/-- The first part of a made identifier: the stem of the script, if it has one. -/
def idStem (node : Node) : Text :=
  match Path.stem? node.fileName with
  | some (c :: rest) => c :: rest
  | _ => "node"

/-- The second part of a made identifier: the line of the node, if it has one. -/
def idTail (node : Node) : Text :=
  match node.line with
  | some line => "_" ++ ofNat line
  | none => "_auto"

lemma idBase_eq (node : Node) : idBase node = idStem node ++ idTail node := by
  unfold idBase idStem idTail
  dsimp only
  cases node.line with
  | none => rfl
  | some line => exact List.append_assoc _ _ _

/-- The first part of a made identifier starts like the name of the script. -/
lemma isQuotable_idStem {node : Node} (hname : IsPlain node.fileName)
    (hslash : '/' ∉ node.fileName) :
    IsQuotable (idStem node) ∧ ∀ c ∈ (idStem node).head?, isBlank c = false := by
  unfold idStem
  split
  next c rest hstem =>
    obtain ⟨after, hafter⟩ := Path.exists_append_of_stem? hslash hstem
    refine ⟨hname.mono fun d hd => hafter ▸ List.mem_append_left _ hd, fun d hd => ?_⟩
    refine hname.trimmed.head d ?_
    rw [hafter]
    exact hd
  next =>
    refine ⟨⟨⟨by decide, by decide⟩, .inl (by decide)⟩, fun c hc => ?_⟩
    obtain rfl : 'n' = c := Option.some.inj hc
    rfl

/-- The second part of a made identifier has characters of identifiers only. -/
lemma isIdentifierChar_of_mem_idTail {node : Node} {c : Char} (h : c ∈ idTail node) :
    isIdentifierChar c = true := by
  unfold idTail at h
  split at h
  · rcases List.mem_append.mp h with h | h
    · rw [List.mem_singleton.mp h]
      rfl
    · exact isIdentifierChar_of_mem_ofNat h
  · have hauto : ("_auto" : String).toList.all isIdentifierChar = true := by decide
    exact List.all_eq_true.mp hauto c h

lemma idTail_ne_nil (node : Node) : idTail node ≠ [] := by
  unfold idTail
  split <;> simp

/-- What a made identifier starts with is plain if the name of the script is. -/
lemma isPlain_idBase {node : Node} (hname : IsPlain node.fileName)
    (hslash : '/' ∉ node.fileName) : IsPlain (idBase node) := by
  obtain ⟨hquotable, hhead⟩ := isQuotable_idStem hname hslash
  rw [idBase_eq]
  exact isPlain_append hquotable hhead (fun _ hc => isIdentifierChar_of_mem_idTail hc)
    (idTail_ne_nil node)

/-- A made identifier is plain if the name of the script is. -/
theorem isPlain_name {node : Node} (hname : IsPlain node.fileName)
    (hslash : '/' ∉ node.fileName) (taken : List Text) :
    IsPlain (Fresh.name taken (idBase node)) := by
  have hbase := isPlain_idBase hname hslash
  rcases Fresh.name_eq_or_exists_numbered taken (idBase node) with h | ⟨k, h⟩
  · rw [h]
    exact hbase
  · rw [h, Fresh.numbered, List.append_assoc]
    exact isPlain_append hbase.toIsQuotable hbase.trimmed.head
      (fun c hc => Fresh.isIdentifierChar_of_mem_number hc) (by simp)

/-! ## The nodes of drafts in a row -/

/-- A node that a draft can become: its own if an identifier was given, and else one
that differs from it in a made identifier only. -/
def Becomes (draft : Draft) (node : Node) : Prop :=
  node = draft.node ∨
    ∃ taken, node = { draft.node with id := Fresh.name taken (idBase draft.node) }

/-- Every node is what one of the drafts becomes. -/
theorem exists_becomes_of_mem_nameFrom {taken : List Text} {drafts : List Draft} {node : Node}
    (h : node ∈ nameFrom taken drafts) : ∃ draft ∈ drafts, Becomes draft node := by
  induction drafts generalizing taken with
  | nil => exact absurd h List.not_mem_nil
  | cons draft rest ih =>
    have hrest : ∀ {later}, node ∈ nameFrom later rest → ∃ d ∈ draft :: rest, Becomes d node := by
      intro later hlater
      obtain ⟨d, hd, hbecomes⟩ := ih hlater
      exact ⟨d, List.mem_cons_of_mem _ hd, hbecomes⟩
    rw [nameFrom] at h
    split at h
    · rcases List.mem_cons.mp h with rfl | h
      · exact ⟨draft, List.mem_cons_self, .inr ⟨taken, rfl⟩⟩
      · exact hrest h
    · rcases List.mem_cons.mp h with rfl | h
      · exact ⟨draft, List.mem_cons_self, .inl rfl⟩
      · exact hrest h

/-- The nodes of drafts in a row, where the later ones know the identifiers made
before. -/
lemma exists_nameFrom_append (taken : List Text) (drafts rest : List Draft) :
    ∃ later, nameFrom taken (drafts ++ rest) = nameFrom taken drafts ++ nameFrom later rest := by
  induction drafts generalizing taken with
  | nil => exact ⟨taken, rfl⟩
  | cons draft drafts ih =>
    rw [List.cons_append, nameFrom, nameFrom]
    split
    · obtain ⟨later, h⟩ := ih (Fresh.name taken (idBase draft.node) :: taken)
      exact ⟨later, by simp only [h, List.cons_append]⟩
    · obtain ⟨later, h⟩ := ih taken
      exact ⟨later, by simp only [h, List.cons_append]⟩

/-- Drafts with identifiers become their own nodes. -/
lemma nameFrom_of_given {drafts : List Draft} (h : ∀ draft ∈ drafts, draft.needsId = false)
    (taken : List Text) : nameFrom taken drafts = drafts.map Draft.node := by
  induction drafts with
  | nil => rfl
  | cons draft rest ih =>
    obtain ⟨hdraft, hrest⟩ := List.forall_mem_cons.mp h
    rw [nameFrom, hdraft, if_neg (by simp), ih hrest, List.map_cons]

/-! ## Identifiers that were given twice -/

/-- A report that a node has an identifier that an earlier one has. -/
def Reports (issue : Issue) (node : Node) : Prop :=
  ∃ earlier, issue = duplicateIssue earlier node

/-- Every later use of an identifier is reported, in order. -/
lemma forall₂_duplicatesFrom (firsts nodes : List Node) :
    List.Forall₂ Reports (duplicatesFrom firsts nodes)
      (laterUses Node.id (firsts.map Node.id) nodes) := by
  induction nodes generalizing firsts with
  | nil => exact .nil
  | cons node rest ih =>
    rw [duplicatesFrom, laterUses_cons]
    cases hfound : firsts.find? fun first => first.id == node.id with
    | some earlier =>
      have hid : node.id ∈ firsts.map Node.id := by
        have heq : earlier.id = node.id := by simpa using List.find?_some hfound
        exact heq ▸ List.mem_map_of_mem (List.mem_of_find?_eq_some hfound)
      rw [if_pos hid]
      exact .cons ⟨earlier, rfl⟩ (ih firsts)
    | none =>
      have hid : node.id ∉ firsts.map Node.id := by
        intro hmem
        obtain ⟨first, hfirst, heq⟩ := List.mem_map.mp hmem
        have hne := List.find?_eq_none.mp hfound first hfirst
        exact hne (beq_iff_eq.mpr heq)
      rw [if_neg hid]
      exact ih (node :: firsts)

/-- An issue about identifiers is about one of the drafts. -/
lemma exists_eq_duplicateIssue {drafts : List Draft} {issue : Issue}
    (h : issue ∈ duplicateIssues drafts) :
    ∃ draft ∈ drafts, ∃ earlier, issue = duplicateIssue earlier draft.node := by
  obtain ⟨node, hnode, hreports⟩ :=
    exists_mem_right_of_forall₂ (forall₂_duplicatesFrom [] (givenNodes drafts)) h
  obtain ⟨draft, hdraft, rfl⟩ := List.mem_map.mp (mem_of_mem_laterUses Node.id hnode)
  exact ⟨draft, (List.mem_filter.mp hdraft).1, hreports⟩

end Draft

end ScriptFlow
