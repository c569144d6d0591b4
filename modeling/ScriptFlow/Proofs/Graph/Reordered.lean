import Mathlib.Data.List.FinRange
import Mathlib.Data.List.Nodup
import Mathlib.Data.List.Perm.Basic
import Mathlib.Data.List.Sigma
import Mathlib.Logic.Equiv.Fin.Basic
import ScriptFlow.Proofs.Graph

/-!
# Graphs and the order of tables

A graph has the same connections whatever the order of the table is, up to the positions of
the nodes (`edges_reordered`).  The connections are a function of the nodes with their
positions (`edgesAmong`), and this function neither depends on the order in which they come
(`edgesAmong_perm`) nor on the numbers that the positions are given as long as these differ
(`edgesAmong_map`).  A reordered table has the nodes of the table in another order, each
with another number.

Nor do the connections depend on anything but the files of a node: its own name and type,
what it reads and writes and what it sources (`Node.SameFiles`).
-/

namespace ScriptFlow

open Text
open scoped List

namespace Node

/-- Nodes that agree in their files. -/
structure SameFiles (node other : Node) : Prop where
  fileName : node.fileName = other.fileName
  fileType : node.fileType = other.fileType
  inputs : node.inputs = other.inputs
  outputs : node.outputs = other.outputs
  dependencies : node.dependencies = other.dependencies

/-- A node with everything but its files taken from another one. -/
def describedAs (node other : Node) : Node :=
  { node with
    id := other.id
    label := other.label
    kind := other.kind
    extra := other.extra
    line := other.line
    origin := other.origin
    filePath := other.filePath }

lemma sameFiles_describedAs (node other : Node) : (node.describedAs other).SameFiles node :=
  ⟨rfl, rfl, rfl, rfl, rfl⟩

end Node

/-- A connection between the nodes at other positions. -/
def Edge.moved (place : Nat → Nat) (edge : Edge) : Edge :=
  { edge with source := place edge.source, target := place edge.target }

namespace Graph

/-- The connections of nodes with the numbers that they have. -/
def edgesAmong (numbered : List (Node × Nat)) : List Edge :=
  (numbered.flatMap fun writer => numbered.flatMap (dataEdges writer)) ++
    numbered.flatMap fun sourcing =>
      (Node.tokens sourcing.1.dependencies).flatMap (dependencyEdges numbered sourcing)

lemma edges_ofNodes (nodes : List Node) : (ofNodes nodes).edges = edgesAmong nodes.zipIdx := rfl

/-! ## Another order -/

/-- The connections among nodes do not depend on the order in which the nodes come. -/
lemma edgesAmong_perm {numbered others : List (Node × Nat)} (h : numbered ~ others) :
    edgesAmong numbered ~ edgesAmong others := by
  have hdata : ∀ writer, numbered.flatMap (dataEdges writer) ~ others.flatMap (dataEdges writer) :=
    fun writer => h.flatMap_right _
  have hsources : ∀ sourcing token,
      dependencyEdges numbered sourcing token ~ dependencyEdges others sourcing token :=
    fun sourcing token => (h.filter _).map _
  have hdependencies : ∀ sourcing : Node × Nat,
      (Node.tokens sourcing.1.dependencies).flatMap (dependencyEdges numbered sourcing) ~
        (Node.tokens sourcing.1.dependencies).flatMap (dependencyEdges others sourcing) :=
    fun sourcing => List.Perm.flatMap_left _ fun token _ => hsources sourcing token
  exact (h.flatMap fun writer _ => hdata writer).append
    (h.flatMap fun sourcing _ => hdependencies sourcing)

/-! ## Other numbers -/

section Renumbered

variable {change : Node × Nat → Node × Nat} {place : Nat → Nat}
  (hnode : ∀ entry, (change entry).1.SameFiles entry.1)
  (hplace : ∀ entry, (change entry).2 = place entry.2) (hinjective : Function.Injective place)

include hnode hplace hinjective

/-- The connections along data from one node to another move with the numbers. -/
lemma dataEdges_change (writer reader : Node × Nat) :
    dataEdges (change writer) (change reader) =
      (dataEdges writer reader).map (Edge.moved place) := by
  have hreads : (change reader).1.reads = reader.1.reads := by
    unfold Node.reads
    rw [(hnode reader).inputs]
  unfold dataEdges
  rw [hplace, hplace, hreads, (hnode writer).outputs]
  by_cases hsame : writer.2 = reader.2
  · rw [if_pos hsame, if_pos (congrArg place hsame), List.map_nil]
  · rw [if_neg hsame, if_neg (fun heq => hsame (hinjective heq)), List.map_map]
    rfl

/-- The connections along a dependency move with the numbers. -/
lemma dependencyEdges_change (numbered : List (Node × Nat)) (sourcing : Node × Nat) (token : Text) :
    dependencyEdges (numbered.map change) (change sourcing) token =
      (dependencyEdges numbered sourcing token).map (Edge.moved place) := by
  have hprovides : ∀ entry, (change entry).1.provides (change sourcing).1.fileType token =
      entry.1.provides sourcing.1.fileType token := by
    intro entry
    unfold Node.provides Node.writes
    rw [(hnode entry).outputs, (hnode entry).fileName, (hnode sourcing).fileType]
  have hother : ∀ entry : Node × Nat,
      (place entry.2 != place sourcing.2) = (entry.2 != sourcing.2) := by
    intro entry
    rw [Bool.eq_iff_iff, bne_iff_ne, bne_iff_ne, hinjective.ne_iff]
  unfold dependencyEdges
  rw [List.filter_map, List.map_map, List.map_map]
  simp only [Function.comp_def, hprovides, hplace, hother, Edge.moved]

variable (change place) in
/-- The connections among nodes move with the numbers that the nodes have. -/
lemma edgesAmong_map (numbered : List (Node × Nat)) :
    edgesAmong (numbered.map change) = (edgesAmong numbered).map (Edge.moved place) := by
  have hdata : ∀ writer, (numbered.map change).flatMap (dataEdges (change writer)) =
      (numbered.flatMap (dataEdges writer)).map (Edge.moved place) := by
    intro writer
    rw [List.flatMap_map, List.map_flatMap]
    exact List.flatMap_congr fun reader _ => dataEdges_change hnode hplace hinjective writer reader
  have hdependencies : ∀ sourcing, (Node.tokens (change sourcing).1.dependencies).flatMap
        (dependencyEdges (numbered.map change) (change sourcing)) =
      ((Node.tokens sourcing.1.dependencies).flatMap (dependencyEdges numbered sourcing)).map
        (Edge.moved place) := by
    intro sourcing
    rw [(hnode sourcing).dependencies, List.map_flatMap]
    exact List.flatMap_congr fun token _ =>
      dependencyEdges_change hnode hplace hinjective numbered sourcing token
  unfold edgesAmong
  rw [List.map_append, List.flatMap_map, List.flatMap_map, List.map_flatMap, List.map_flatMap]
  simp only [hdata, hdependencies]

end Renumbered

/-! ## Reordered tables -/

variable (nodes : List Node) (order : Equiv.Perm (Fin nodes.length))

/-- The nodes in another order, in which each one comes to the position that a permutation
gives it. -/
def reordered : List Node :=
  List.ofFn fun i => nodes.get (order.symm i)

/-- The position of a node in the other order. -/
def newPlace : Equiv.Perm Nat :=
  order.extendDomain Fin.equivSubtype

/-- A position of a node becomes the one that the permutation gives it. -/
lemma newPlace_val (i : Fin nodes.length) : newPlace nodes order i = order i :=
  order.extendDomain_apply_image Fin.equivSubtype i

/-- A node stands at its new position in the reordered table. -/
lemma getElem?_reordered (i : Nat) :
    (reordered nodes order)[newPlace nodes order i]? = nodes[i]? := by
  by_cases hi : i < nodes.length
  · have hplace : newPlace nodes order i = order ⟨i, hi⟩ := newPlace_val nodes order ⟨i, hi⟩
    rw [hplace, reordered, List.getElem?_ofFn, dif_pos (order ⟨i, hi⟩).isLt, Fin.eta,
      Equiv.symm_apply_apply, List.getElem?_eq_getElem hi]
    rfl
  · have hplace : newPlace nodes order i = i :=
      order.extendDomain_apply_not_subtype Fin.equivSubtype hi
    have hlength : (reordered nodes order).length ≤ i := by
      rw [reordered, List.length_ofFn]
      exact Nat.le_of_not_lt hi
    rw [hplace, List.getElem?_eq_none hlength, List.getElem?_eq_none (Nat.le_of_not_lt hi)]

/-- No position occurs twice in a table. -/
lemma nodup_zipIdx (nodes : List Node) : nodes.zipIdx.Nodup :=
  List.Nodup.of_map Prod.snd nodes.nodup_zipIdx_map_snd

/-- The nodes of the reordered table with their positions are those of the table with the
new ones. -/
lemma zipIdx_reordered :
    (reordered nodes order).zipIdx ~ nodes.zipIdx.map (Prod.map id (newPlace nodes order)) := by
  have hinjective : Function.Injective (Prod.map (id : Node → Node) (newPlace nodes order)) :=
    Function.injective_id.prodMap (newPlace nodes order).injective
  rw [List.perm_ext_iff_of_nodup (nodup_zipIdx _) ((nodup_zipIdx nodes).map hinjective)]
  rintro ⟨node, place⟩
  obtain ⟨i, rfl⟩ := (newPlace nodes order).surjective place
  have hmem : (node, newPlace nodes order i) ∈ nodes.zipIdx.map
      (Prod.map id (newPlace nodes order)) ↔ (node, i) ∈ nodes.zipIdx :=
    List.mem_map_of_injective hinjective (a := (node, i))
  rw [hmem, List.mem_zipIdx_iff_getElem?, List.mem_zipIdx_iff_getElem?, getElem?_reordered]

/-- The connections of the reordered table are those of the table at the new positions. -/
lemma edges_reordered_perm :
    (ofNodes (reordered nodes order)).edges ~
      (ofNodes nodes).edges.map (Edge.moved (newPlace nodes order)) := by
  have hmoved := edgesAmong_map (Prod.map id (newPlace nodes order)) (newPlace nodes order)
    (fun _ => ⟨rfl, rfl, rfl, rfl, rfl⟩) (fun _ => rfl) (newPlace nodes order).injective
    nodes.zipIdx
  rw [edges_ofNodes, edges_ofNodes, ← hmoved]
  exact edgesAmong_perm (zipIdx_reordered nodes order)

/-- A new position is one of a node exactly if the old one is. -/
lemma newPlace_lt_iff (i : Nat) : newPlace nodes order i < nodes.length ↔ i < nodes.length := by
  have hlength : (reordered nodes order).length = nodes.length := List.length_ofFn
  have hsame := getElem?_reordered nodes order i
  have hout := congrArg Option.isNone hsame
  rw [Bool.eq_iff_iff, Option.isNone_iff_eq_none, Option.isNone_iff_eq_none,
    List.getElem?_eq_none_iff, List.getElem?_eq_none_iff, hlength] at hout
  omega

/-- A position is isolated exactly if no connection has it as an end. -/
lemma mem_isolated_iff {graph : Graph} {i : Nat} :
    i ∈ graph.isolated ↔
      i < graph.nodeCount ∧ ∀ edge ∈ graph.edges, edge.source ≠ i ∧ edge.target ≠ i := by
  rw [isolated, List.mem_filter, List.mem_range]
  simp

/-- The isolated positions of the reordered table are the new ones of those of the table. -/
lemma isolated_reordered_perm :
    (ofNodes (reordered nodes order)).isolated ~
      (ofNodes nodes).isolated.map (newPlace nodes order) := by
  have hnodup : ∀ graph : Graph, graph.isolated.Nodup := fun graph => List.nodup_range.filter _
  have hinjective := (newPlace nodes order).injective
  rw [List.perm_ext_iff_of_nodup (hnodup _) ((hnodup _).map hinjective)]
  intro place
  obtain ⟨i, rfl⟩ := (newPlace nodes order).surjective place
  have hcount : (ofNodes (reordered nodes order)).nodeCount = (ofNodes nodes).nodeCount :=
    List.length_ofFn
  rw [List.mem_map_of_injective hinjective, mem_isolated_iff, mem_isolated_iff, hcount]
  refine and_congr (newPlace_lt_iff nodes order i) ?_
  simp only [(edges_reordered_perm nodes order).mem_iff, List.forall_mem_map, Edge.moved,
    hinjective.ne_iff]

/-! ## Other descriptions -/

/-- The graph does not change with what is no file of a node. -/
lemma ofNodes_describedAs (others : Nat → Node) :
    ofNodes (nodes.mapIdx fun i node => node.describedAs (others i)) = ofNodes nodes := by
  set described := nodes.mapIdx fun i node => node.describedAs (others i) with hdescribed
  have hlength : described.length = nodes.length := List.length_mapIdx
  have hzip : described.zipIdx =
      nodes.zipIdx.map fun entry => (entry.1.describedAs (others entry.2), entry.2) := by
    refine List.ext_getElem? fun i => ?_
    rw [List.getElem?_zipIdx, List.getElem?_map, List.getElem?_zipIdx, hdescribed,
      List.getElem?_mapIdx]
    cases nodes[i]? <;> simp
  have hedges : edgesAmong described.zipIdx = edgesAmong nodes.zipIdx := by
    have hmoved := edgesAmong_map (fun entry => (entry.1.describedAs (others entry.2), entry.2)) id
      (fun entry => Node.sameFiles_describedAs entry.1 (others entry.2)) (fun _ => rfl)
      Function.injective_id nodes.zipIdx
    rw [hzip, hmoved]
    exact List.map_id _
  exact congrArg₂ Graph.mk hlength hedges

/-- The graph of a table does not depend on its order, and on nothing but the files of its
nodes.  In another order there are the same connections, each as often, between the nodes at
their new positions, and the same nodes are isolated; with other identifiers, labels, kinds,
lines, origins, paths and further properties the graph is the same. -/
theorem edges_reordered (nodes : List Node) (order : Equiv.Perm (Fin nodes.length))
    (others : Nat → Node) :
    (ofNodes (reordered nodes order)).edges ~
        (ofNodes nodes).edges.map (Edge.moved (newPlace nodes order)) ∧
      (ofNodes (reordered nodes order)).isolated ~
        (ofNodes nodes).isolated.map (newPlace nodes order) ∧
      ofNodes (nodes.mapIdx fun i node => node.describedAs (others i)) = ofNodes nodes :=
  ⟨edges_reordered_perm nodes order, isolated_reordered_perm nodes order,
    ofNodes_describedAs nodes others⟩

end Graph

end ScriptFlow
