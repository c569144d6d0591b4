import ScriptFlow.Proofs.Enumerated
import ScriptFlow.Proofs.Graph

/-!
# The order of connections

The connections of a graph stand in a fixed order, each as often as there is a reason for
it.  `DataReason` and `DependencyReason` say what the reasons are: an output of a node that
another node reads, and a dependency of a node that another node is what it means.  The
connections along data enumerate the first by writer, reader and output; those along
dependencies follow and enumerate the second by sourcing node, dependency and sourced node
(`infers_ofNodes`).

The blank tokens and the nodes themselves are left out inside the loops, so the position of
a token among those that are kept says nothing about its position in the list.  The loops are
therefore brought into a form that goes over the whole list (`Node.map_filter_tokens`,
`flatMap_tokens`) before their rounds are looked at.
-/

namespace ScriptFlow

open Text

namespace Node

/-- The tokens that pass a test are those of the entries of the list that are not blank. -/
lemma map_filter_tokens {β : Type} (list : List Text) (p : Text → Bool) (f : Text → β) :
    ((tokens list).filter p).map f = list.filterMap fun written =>
      if trim written ≠ [] ∧ p (trim written) then some (f (trim written)) else none := by
  rw [tokens, List.filter_filter, List.filter_map, List.map_map, ← List.filterMap_eq_map,
    List.filterMap_filter]
  refine List.filterMap_congr fun written _ => ?_
  simp [and_comm]

/-- A loop over the tokens of a list, as a loop over the list. -/
lemma flatMap_tokens {β : Type} (list : List Text) (f : Text → List β) :
    (tokens list).flatMap f =
      list.flatMap fun written => if trim written = [] then [] else f (trim written) := by
  rw [tokens]
  induction list with
  | nil => rfl
  | cons first rest ih =>
    rw [List.map_cons, List.flatMap_cons, ← ih]
    by_cases hfirst : trim first = [] <;> simp [hfirst]

end Node

namespace Graph

/-- Reasons for connections are compared by their first, second and third position. -/
def Earlier : Nat × Nat × Nat → Nat × Nat × Nat → Prop :=
  Prod.Lex (· < ·) (Prod.Lex (· < ·) (· < ·))

/-- A node writes at a position of its outputs what another node reads. -/
inductive DataReason (nodes : List Node) : Nat × Nat × Nat → Edge → Prop
  | mk {i j k : Nat} {writer reader : Node} {output input : Text}
      (hwriter : nodes[i]? = some writer) (hreader : nodes[j]? = some reader) (hother : i ≠ j)
      (houtput : writer.outputs[k]? = some output) (hne : trim output ≠ [])
      (hinput : input ∈ reader.inputs) (hsame : trim input = trim output) :
      DataReason nodes (i, j, k) ⟨i, j, trim output, .data⟩

/-- A node has at a position of its dependencies what another node writes, or the name of
its file. -/
inductive DependencyReason (nodes : List Node) : Nat × Nat × Nat → Edge → Prop
  | mk {i j k : Nat} {sourcing sourced : Node} {dependency : Text}
      (hsourcing : nodes[j]? = some sourcing)
      (hdependency : sourcing.dependencies[k]? = some dependency) (hne : trim dependency ≠ [])
      (hsourced : nodes[i]? = some sourced) (hother : i ≠ j)
      (hmeant : (∃ output ∈ sourced.outputs, trim output = trim dependency) ∨
        namesFile (trim dependency) sourcing.fileType sourced.fileName = true) :
      DependencyReason nodes (j, k, i) ⟨i, j, trim dependency, .dependency⟩

/-- The connections that some nodes have, in their order, and the nodes without any. -/
structure Infers (nodes : List Node) (graph : Graph) : Prop where
  nodeCount : graph.nodeCount = nodes.length
  /-- One connection for each reason, those along data before those along dependencies. -/
  edges : ∃ data dependencies, graph.edges = data ++ dependencies ∧
    Enumerates Earlier (DataReason nodes) data ∧
    Enumerates Earlier (DependencyReason nodes) dependencies
  /-- The ends of a connection are positions of nodes. -/
  bounded : ∀ edge ∈ graph.edges, edge.source < graph.nodeCount ∧ edge.target < graph.nodeCount
  isolated_increasing : graph.isolated.Pairwise (· < ·)
  /-- The isolated positions are those that no connection leads to or from. -/
  isolated : ∀ i, i ∈ graph.isolated ↔
    i < graph.nodeCount ∧ graph.incoming i = [] ∧ graph.outgoing i = []

variable {nodes : List Node} {i j k : Nat}

/-! ## Connections along data -/

/-- The reason for a connection along data, with the nodes and the output at its position. -/
lemma dataReason_iff {writer reader : Node} {output : Text} {edge : Edge}
    (hwriter : nodes[i]? = some writer) (hreader : nodes[j]? = some reader)
    (houtput : writer.outputs[k]? = some output) :
    DataReason nodes (i, j, k) edge ↔
      i ≠ j ∧ (trim output ≠ [] ∧ reader.reads (trim output) = true) ∧
        edge = ⟨i, j, trim output, .data⟩ := by
  have hreads : reader.reads (trim output) = true ↔
      ∃ input ∈ reader.inputs, trim input = trim output := by
    rw [Node.reads, List.any_eq_true]
    simp only [beq_iff_eq]
  rw [hreads]
  constructor
  · intro h
    cases h with
    | mk hwriter' hreader' hother houtput' hne hinput hsame =>
      obtain rfl := Option.some.inj (hwriter.symm.trans hwriter')
      obtain rfl := Option.some.inj (hreader.symm.trans hreader')
      obtain rfl := Option.some.inj (houtput.symm.trans houtput')
      exact ⟨hother, ⟨hne, _, hinput, hsame⟩, rfl⟩
  · rintro ⟨hother, ⟨hne, input, hinput, hsame⟩, rfl⟩
    exact .mk hwriter hreader hother houtput hne hinput hsame

/-- The connections from one node to another enumerate the outputs that are read. -/
lemma enumerates_dataEdges {writer reader : Node} (hwriter : nodes[i]? = some writer)
    (hreader : nodes[j]? = some reader) :
    Enumerates (· < ·) (fun k edge => DataReason nodes (i, j, k) edge)
      (dataEdges (writer, i) (reader, j)) := by
  unfold dataEdges
  by_cases hsame : i = j
  · rw [if_pos hsame]
    refine .nil fun k edge h => ?_
    cases h with
    | mk _ _ hother => exact hother hsame
  · rw [if_neg hsame, Node.map_filter_tokens]
    refine enumerates_filterMap (fun k output houtput edge => ?_) fun k edge h => ?_
    · rw [dataReason_iff hwriter hreader houtput, Option.ite_none_right_eq_some, Option.some_inj,
        eq_comm (b := edge)]
      exact ⟨fun h => ⟨hsame, h⟩, And.right⟩
    · cases h with
      | mk hwriter' _ _ houtput =>
        obtain rfl := Option.some.inj (hwriter.symm.trans hwriter')
        exact (List.getElem?_eq_some_iff.mp houtput).1

/-- The connections along data enumerate their reasons. -/
lemma enumerates_data (nodes : List Node) :
    Enumerates Earlier (DataReason nodes)
      (nodes.zipIdx.flatMap fun writer => nodes.zipIdx.flatMap (dataEdges writer)) := by
  refine enumerates_lex_flatMap_zipIdx (fun i writer hwriter => ?_) fun i place edge h => ?_
  · refine enumerates_lex_flatMap_zipIdx (fun j reader hreader => ?_) fun j k edge h => ?_
    · exact enumerates_dataEdges hwriter hreader
    · cases h with
      | mk _ hreader => exact (List.getElem?_eq_some_iff.mp hreader).1
  · cases h with
    | mk hwriter => exact (List.getElem?_eq_some_iff.mp hwriter).1

/-! ## Connections along dependencies -/

/-- The reason for a connection along a dependency, with the nodes and the dependency at its
position. -/
lemma dependencyReason_iff {sourcing sourced : Node} {dependency : Text} {edge : Edge}
    (hsourcing : nodes[j]? = some sourcing)
    (hdependency : sourcing.dependencies[k]? = some dependency)
    (hsourced : nodes[i]? = some sourced) :
    DependencyReason nodes (j, k, i) edge ↔
      trim dependency ≠ [] ∧
        (i ≠ j ∧ sourced.provides sourcing.fileType (trim dependency) = true) ∧
          edge = ⟨i, j, trim dependency, .dependency⟩ := by
  have hprovides : sourced.provides sourcing.fileType (trim dependency) = true ↔
      (∃ output ∈ sourced.outputs, trim output = trim dependency) ∨
        namesFile (trim dependency) sourcing.fileType sourced.fileName = true := by
    rw [Node.provides, Bool.or_eq_true, Node.writes, List.any_eq_true]
    simp only [beq_iff_eq]
  rw [hprovides]
  constructor
  · intro h
    cases h with
    | mk hsourcing' hdependency' hne hsourced' hother hmeant =>
      obtain rfl := Option.some.inj (hsourcing.symm.trans hsourcing')
      obtain rfl := Option.some.inj (hdependency.symm.trans hdependency')
      obtain rfl := Option.some.inj (hsourced.symm.trans hsourced')
      exact ⟨hne, ⟨hother, hmeant⟩, rfl⟩
  · rintro ⟨hne, ⟨hother, hmeant⟩, rfl⟩
    exact .mk hsourcing hdependency hne hsourced hother hmeant

/-- The connections along one dependency enumerate the nodes that it means. -/
lemma enumerates_dependencyEdges {sourcing : Node} {dependency : Text}
    (hsourcing : nodes[j]? = some sourcing)
    (hdependency : sourcing.dependencies[k]? = some dependency) (hne : trim dependency ≠ []) :
    Enumerates (· < ·) (fun i edge => DependencyReason nodes (j, k, i) edge)
      (dependencyEdges nodes.zipIdx (sourcing, j) (trim dependency)) := by
  rw [dependencyEdges, ← List.filterMap_eq_map, List.filterMap_filter]
  refine enumerates_filterMap_zipIdx (fun i sourced hsourced edge => ?_) fun i edge h => ?_
  · rw [dependencyReason_iff hsourcing hdependency hsourced, Option.ite_none_right_eq_some,
      Function.comp_apply, Option.some_inj, eq_comm (b := edge), Bool.and_eq_true, bne_iff_ne]
    exact ⟨fun h => ⟨hne, h⟩, And.right⟩
  · cases h with
    | mk _ _ _ hsourced => exact (List.getElem?_eq_some_iff.mp hsourced).1

/-- The connections along dependencies enumerate their reasons. -/
lemma enumerates_dependencies (nodes : List Node) :
    Enumerates Earlier (DependencyReason nodes)
      (nodes.zipIdx.flatMap fun sourcing =>
        (Node.tokens sourcing.1.dependencies).flatMap (dependencyEdges nodes.zipIdx sourcing)) := by
  refine enumerates_lex_flatMap_zipIdx (fun j sourcing hsourcing => ?_) fun j place edge h => ?_
  · rw [Node.flatMap_tokens]
    refine enumerates_lex_flatMap (fun k dependency hdependency => ?_) fun k i edge h => ?_
    · by_cases hne : trim dependency = []
      · rw [if_pos hne]
        refine .nil fun i edge h => ?_
        cases h with
        | mk hsourcing' hdependency' hne' =>
          obtain rfl := Option.some.inj (hsourcing.symm.trans hsourcing')
          obtain rfl := Option.some.inj (hdependency.symm.trans hdependency')
          exact hne' hne
      · rw [if_neg hne]
        exact enumerates_dependencyEdges hsourcing hdependency hne
    · cases h with
      | mk hsourcing' hdependency =>
        obtain rfl := Option.some.inj (hsourcing.symm.trans hsourcing')
        exact (List.getElem?_eq_some_iff.mp hdependency).1
  · cases h with
    | mk hsourcing => exact (List.getElem?_eq_some_iff.mp hsourcing).1

/-! ## The whole graph -/

/-- The isolated positions stand in increasing order. -/
lemma pairwise_isolated (graph : Graph) : graph.isolated.Pairwise (· < ·) :=
  List.pairwise_lt_range.filter _

/-- The connections of some nodes are exactly those for which there is a reason, each once:
those along data in the order of writer, reader and output, then those along dependencies in
the order of sourcing node, dependency and sourced node.  The isolated positions are those
without connections, in increasing order. -/
theorem infers_ofNodes (nodes : List Node) : Infers nodes (ofNodes nodes) where
  nodeCount := rfl
  edges := ⟨_, _, rfl, enumerates_data nodes, enumerates_dependencies nodes⟩
  bounded := fun _ hedge => lt_of_mem_edges hedge
  isolated_increasing := pairwise_isolated _
  isolated := fun _ => mem_isolated

end Graph

end ScriptFlow
