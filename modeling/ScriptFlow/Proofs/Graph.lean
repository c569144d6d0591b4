import Mathlib.Tactic.Lemma
import ScriptFlow.Graph

/-!
# Connections of the graph

Every connection joins two nodes of the table, so its ends are positions in it.
`mem_edges_data_iff` says between which positions there is a connection along data:
where one node writes the token and another one reads it.  `mem_edges_dependency_iff` says
the same of dependencies: one node is what another one sources.
-/

namespace ScriptFlow

/-- The tokens of a list are what its entries are without blanks around. -/
lemma Node.mem_tokens {list : List Text} {token : Text} :
    token ∈ Node.tokens list ↔ token ≠ [] ∧ ∃ written ∈ list, Text.trim written = token := by
  simp [Node.tokens, and_comm]

namespace Graph

/-- The ends of a connection along data are positions of nodes. -/
theorem lt_of_mem_dataEdges {nodes : List Node} {writer reader : Node × Nat} {edge : Edge}
    (hwriter : writer ∈ nodes.zipIdx) (hreader : reader ∈ nodes.zipIdx)
    (h : edge ∈ dataEdges writer reader) :
    edge.source < nodes.length ∧ edge.target < nodes.length := by
  unfold dataEdges at h
  split at h
  · exact absurd h List.not_mem_nil
  · obtain ⟨token, -, rfl⟩ := List.mem_map.mp h
    exact ⟨List.snd_lt_of_mem_zipIdx hwriter, List.snd_lt_of_mem_zipIdx hreader⟩

/-- The ends of a connection along a dependency are positions of nodes. -/
theorem lt_of_mem_dependencyEdges {nodes : List Node} {sourcing : Node × Nat} {token : Text}
    {edge : Edge} (hsourcing : sourcing ∈ nodes.zipIdx)
    (h : edge ∈ dependencyEdges nodes.zipIdx sourcing token) :
    edge.source < nodes.length ∧ edge.target < nodes.length := by
  obtain ⟨sourced, hsourced, rfl⟩ := List.mem_map.mp h
  have hmem : sourced ∈ nodes.zipIdx := (List.mem_filter.mp hsourced).1
  exact ⟨List.snd_lt_of_mem_zipIdx hmem, List.snd_lt_of_mem_zipIdx hsourcing⟩

/-- The ends of a connection are positions of nodes. -/
theorem lt_of_mem_edges {nodes : List Node} {edge : Edge} (h : edge ∈ (ofNodes nodes).edges) :
    edge.source < nodes.length ∧ edge.target < nodes.length := by
  rcases List.mem_append.mp h with h | h
  · obtain ⟨writer, hwriter, h⟩ := List.mem_flatMap.mp h
    obtain ⟨reader, hreader, h⟩ := List.mem_flatMap.mp h
    exact lt_of_mem_dataEdges hwriter hreader h
  · obtain ⟨sourcing, hsourcing, h⟩ := List.mem_flatMap.mp h
    obtain ⟨token, -, h⟩ := List.mem_flatMap.mp h
    exact lt_of_mem_dependencyEdges hsourcing h

/-- A node reads the tokens of its list of inputs. -/
lemma reads_eq_true_iff {node : Node} {token : Text} (hne : token ≠ []) :
    node.reads token = true ↔ token ∈ Node.tokens node.inputs := by
  rw [Node.mem_tokens, Node.reads, List.any_eq_true]
  simp only [beq_iff_eq, hne, ne_eq, not_false_eq_true, true_and]

/-- The connections along data from one node to another. -/
lemma mem_dataEdges_iff {writer reader : Node × Nat} {edge : Edge} :
    edge ∈ dataEdges writer reader ↔
      writer.2 ≠ reader.2 ∧ ∃ token ∈ Node.tokens writer.1.outputs,
        token ∈ Node.tokens reader.1.inputs ∧ edge = ⟨writer.2, reader.2, token, .data⟩ := by
  unfold dataEdges
  split
  next hsame => exact ⟨fun h => absurd h List.not_mem_nil, fun h => absurd hsame h.1⟩
  next hother =>
    simp only [List.mem_map, List.mem_filter]
    constructor
    · rintro ⟨token, ⟨hwritten, hread⟩, rfl⟩
      have hne := (Node.mem_tokens.mp hwritten).1
      exact ⟨hother, token, hwritten, (reads_eq_true_iff hne).mp hread, rfl⟩
    · rintro ⟨-, token, hwritten, hread, rfl⟩
      have hne := (Node.mem_tokens.mp hwritten).1
      exact ⟨token, ⟨hwritten, (reads_eq_true_iff hne).mpr hread⟩, rfl⟩

/-- There is a connection along data where one node writes what another one reads. -/
theorem mem_edges_data_iff {nodes : List Node} {i j : Nat} {token : Text} :
    (⟨i, j, token, .data⟩ : Edge) ∈ (ofNodes nodes).edges ↔
      i ≠ j ∧ ∃ writer reader, nodes[i]? = some writer ∧ nodes[j]? = some reader ∧
        token ∈ Node.tokens writer.outputs ∧ token ∈ Node.tokens reader.inputs := by
  constructor
  · intro h
    rcases List.mem_append.mp h with h | h
    · obtain ⟨writer, hwriter, h⟩ := List.mem_flatMap.mp h
      obtain ⟨reader, hreader, h⟩ := List.mem_flatMap.mp h
      obtain ⟨hother, token, hwritten, hread, heq⟩ := mem_dataEdges_iff.mp h
      cases heq
      exact ⟨hother, writer.1, reader.1, List.mem_zipIdx_iff_getElem?.mp hwriter,
        List.mem_zipIdx_iff_getElem?.mp hreader, hwritten, hread⟩
    · obtain ⟨sourcing, -, h⟩ := List.mem_flatMap.mp h
      obtain ⟨dependency, -, h⟩ := List.mem_flatMap.mp h
      obtain ⟨sourced, -, heq⟩ := List.mem_map.mp h
      cases heq
  · rintro ⟨hother, writer, reader, hwriter, hreader, hwritten, hread⟩
    refine List.mem_append_left _ (List.mem_flatMap.mpr ⟨(writer, i), ?_, ?_⟩)
    · exact List.mem_zipIdx_iff_getElem?.mpr hwriter
    · refine List.mem_flatMap.mpr ⟨(reader, j), List.mem_zipIdx_iff_getElem?.mpr hreader, ?_⟩
      exact mem_dataEdges_iff.mpr ⟨hother, token, hwritten, hread, rfl⟩

/-- A dependency leads to every other node that it means. -/
lemma mem_dependencyEdges_iff {nodes : List (Node × Nat)} {sourcing : Node × Nat} {token : Text}
    {edge : Edge} :
    edge ∈ dependencyEdges nodes sourcing token ↔
      ∃ sourced ∈ nodes, sourced.2 ≠ sourcing.2 ∧
        sourced.1.provides sourcing.1.fileType token = true ∧
        edge = ⟨sourced.2, sourcing.2, token, .dependency⟩ := by
  simp only [dependencyEdges, List.mem_map, List.mem_filter, Bool.and_eq_true, bne_iff_ne]
  constructor
  · rintro ⟨sourced, ⟨hmem, hother, hprovides⟩, rfl⟩
    exact ⟨sourced, hmem, hother, hprovides, rfl⟩
  · rintro ⟨sourced, hmem, hother, hprovides, rfl⟩
    exact ⟨sourced, ⟨hmem, hother, hprovides⟩, rfl⟩

/-- There is a connection along a dependency where one node is what a token of another one
means. -/
theorem mem_edges_dependency_iff {nodes : List Node} {i j : Nat} {token : Text} :
    (⟨i, j, token, .dependency⟩ : Edge) ∈ (ofNodes nodes).edges ↔
      i ≠ j ∧ ∃ sourced sourcing, nodes[i]? = some sourced ∧ nodes[j]? = some sourcing ∧
        token ∈ Node.tokens sourcing.dependencies ∧
        sourced.provides sourcing.fileType token = true := by
  constructor
  · intro h
    rcases List.mem_append.mp h with h | h
    · obtain ⟨writer, -, h⟩ := List.mem_flatMap.mp h
      obtain ⟨reader, -, h⟩ := List.mem_flatMap.mp h
      obtain ⟨-, written, -, -, heq⟩ := mem_dataEdges_iff.mp h
      cases heq
    · obtain ⟨sourcing, hsourcing, h⟩ := List.mem_flatMap.mp h
      obtain ⟨dependency, hdependency, h⟩ := List.mem_flatMap.mp h
      obtain ⟨sourced, hsourced, hother, hprovides, heq⟩ := mem_dependencyEdges_iff.mp h
      cases heq
      exact ⟨hother, sourced.1, sourcing.1, List.mem_zipIdx_iff_getElem?.mp hsourced,
        List.mem_zipIdx_iff_getElem?.mp hsourcing, hdependency, hprovides⟩
  · rintro ⟨hother, sourced, sourcing, hsourced, hsourcing, htoken, hprovides⟩
    refine List.mem_append_right _ (List.mem_flatMap.mpr ⟨(sourcing, j), ?_, ?_⟩)
    · exact List.mem_zipIdx_iff_getElem?.mpr hsourcing
    · refine List.mem_flatMap.mpr ⟨token, htoken, mem_dependencyEdges_iff.mpr ?_⟩
      exact ⟨(sourced, i), List.mem_zipIdx_iff_getElem?.mpr hsourced, hother, hprovides, rfl⟩

end Graph

end ScriptFlow
