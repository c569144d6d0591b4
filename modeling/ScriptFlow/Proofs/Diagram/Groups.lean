import Mathlib.Data.List.Induction
import Mathlib.Data.List.Perm.Basic
import ScriptFlow.Diagram.Basic
import ScriptFlow.Proofs.Distinct

/-!
# Groups of nodes

Grouping puts every node into exactly one group (`flatMap_members_ofNodes`), and the
groups stand for the distinct places of the nodes, in the order of first mention
(`map_place_ofNodes`).  Each group has the nodes of its place, in their order
(`members_of_mem_ofNodes`).
-/

namespace ScriptFlow

namespace NodeGroup

/-- The place that a group stands for. -/
def place (group : NodeGroup) : List (Path.Component UInt8) :=
  Path.components group.path

/-- The place of a node. -/
def placeOf (drawn : DrawnNode) : List (Path.Component UInt8) :=
  Path.components drawn.node.filePath

/-- A node goes into the group of its place, and there is a new group only if that one
is missing. -/
lemma map_place_insert (drawn : DrawnNode) (groups : List NodeGroup) :
    (insert drawn groups).map place =
      if placeOf drawn ∈ groups.map place then groups.map place
      else groups.map place ++ [placeOf drawn] := by
  induction groups with
  | nil => rfl
  | cons group rest ih =>
    rw [insert]
    by_cases hplace : Path.samePlace group.path drawn.node.filePath = true
    · have hmem : placeOf drawn ∈ (group :: rest).map place := by
        rw [List.map_cons, show placeOf drawn = group.place from (beq_iff_eq.mp hplace).symm]
        exact List.mem_cons_self
      rw [if_pos hplace, if_pos hmem]
      rfl
    · have hne : placeOf drawn ≠ group.place := fun heq => hplace (beq_iff_eq.mpr heq.symm)
      rw [if_neg hplace, List.map_cons, ih, List.map_cons]
      by_cases hmem : placeOf drawn ∈ rest.map place
      · rw [if_pos hmem, if_pos (List.mem_cons_of_mem _ hmem)]
      · rw [if_neg hmem, if_neg (List.not_mem_cons_of_ne_of_not_mem hne hmem), List.cons_append]

/-- The groups stand for the distinct places of the nodes, in the order of first
mention. -/
theorem map_place_ofNodes (drawn : List DrawnNode) :
    (ofNodes drawn).map place = (drawn.map placeOf).eraseDups := by
  have hfold : ∀ groups : List NodeGroup, (groups.map place).eraseDups = groups.map place →
      (drawn.foldl (fun groups d => insert d groups) groups).map place =
        (groups.map place ++ drawn.map placeOf).eraseDups := by
    induction drawn with
    | nil =>
      intro groups hgroups
      rw [List.foldl_nil, List.map_nil, List.append_nil, hgroups]
    | cons first rest ih =>
      intro groups hgroups
      have hinsert := map_place_insert first groups
      rw [List.foldl_cons, List.map_cons]
      split at hinsert
      next hmem =>
        rw [ih _ (by rw [hinsert, hgroups]), hinsert, List.eraseDups_append,
          List.eraseDups_append, List.cons_removeAll, if_neg (by simpa using hmem)]
      next hmem =>
        have hnew : (groups.map place ++ [placeOf first]).eraseDups =
            groups.map place ++ [placeOf first] := by
          rw [List.eraseDups_append, hgroups, List.cons_removeAll, if_pos (by simpa using hmem)]
          rfl
        rw [ih _ (by rw [hinsert, hnew]), hinsert, List.append_assoc, List.singleton_append]
  exact hfold [] rfl

/-- Putting a node into its group adds it to the nodes in groups. -/
lemma flatMap_members_insert (drawn : DrawnNode) (groups : List NodeGroup) :
    ((insert drawn groups).flatMap members).Perm (drawn :: groups.flatMap members) := by
  induction groups with
  | nil => exact .refl _
  | cons group rest ih =>
    rw [insert]
    split
    · rw [List.flatMap_cons, List.flatMap_cons, List.append_assoc, List.singleton_append]
      exact List.perm_middle
    · rw [List.flatMap_cons, List.flatMap_cons]
      exact (ih.append_left group.members).trans List.perm_middle

/-- Every node is in exactly one group, as often as it occurs. -/
theorem flatMap_members_ofNodes (drawn : List DrawnNode) :
    ((ofNodes drawn).flatMap members).Perm drawn := by
  have hfold : ∀ groups : List NodeGroup,
      ((drawn.foldl (fun groups d => insert d groups) groups).flatMap members).Perm
        (drawn ++ groups.flatMap members) := by
    induction drawn with
    | nil => exact fun groups => .refl _
    | cons first rest ih =>
      intro groups
      have hmembers := (flatMap_members_insert first groups).append_left rest
      exact (ih (insert first groups)).trans (hmembers.trans List.perm_middle)
  exact (hfold []).trans (.of_eq (List.append_nil drawn))

/-- A node in a group is one of the nodes that were grouped. -/
lemma mem_of_mem_ofNodes {drawn : List DrawnNode} {group : NodeGroup} {d : DrawnNode}
    (hgroup : group ∈ ofNodes drawn) (hd : d ∈ group.members) : d ∈ drawn :=
  (flatMap_members_ofNodes drawn).subset (List.mem_flatMap.mpr ⟨group, hgroup, hd⟩)

/-! ## The nodes of a group -/

/-- A group after a node was put in: one of another place that was there before, the one of
the place of the node with the node at its end, or a new one. -/
lemma mem_insert {drawn : DrawnNode} {groups : List NodeGroup} {group : NodeGroup}
    (hnodup : (groups.map place).Nodup) (h : group ∈ insert drawn groups) :
    (group ∈ groups ∧ placeOf drawn ≠ group.place) ∨
      placeOf drawn = group.place ∧
        ((∃ old ∈ groups, old.place = group.place ∧ group.members = old.members ++ [drawn]) ∨
          (group.place ∉ groups.map place ∧ group.members = [drawn])) := by
  induction groups with
  | nil =>
    obtain rfl := List.mem_singleton.mp h
    exact .inr ⟨rfl, .inr ⟨List.not_mem_nil, rfl⟩⟩
  | cons first rest ih =>
    obtain ⟨hfirst, hrest⟩ := List.nodup_cons.mp hnodup
    rw [insert] at h
    by_cases hplace : Path.samePlace first.path drawn.node.filePath = true
    · have hsame : placeOf drawn = first.place := (beq_iff_eq.mp hplace).symm
      rw [if_pos hplace] at h
      rcases List.mem_cons.mp h with rfl | h
      · exact .inr ⟨hsame, .inl ⟨first, List.mem_cons_self, rfl, rfl⟩⟩
      · refine .inl ⟨List.mem_cons_of_mem first h, fun heq => hfirst ?_⟩
        rw [← hsame, heq]
        exact List.mem_map_of_mem h
    · have hother : placeOf drawn ≠ first.place := fun heq => hplace (beq_iff_eq.mpr heq.symm)
      rw [if_neg hplace] at h
      rcases List.mem_cons.mp h with rfl | h
      · exact .inl ⟨List.mem_cons_self, hother⟩
      · rcases ih hrest h with ⟨hmem, hne⟩ |
          ⟨heq, ⟨old, hold, hsame, hmembers⟩ | ⟨hnew, hmembers⟩⟩
        · exact .inl ⟨List.mem_cons_of_mem first hmem, hne⟩
        · exact .inr ⟨heq, .inl ⟨old, List.mem_cons_of_mem first hold, hsame, hmembers⟩⟩
        · refine .inr ⟨heq, .inr ⟨?_, hmembers⟩⟩
          rw [List.map_cons]
          exact List.not_mem_cons_of_ne_of_not_mem (heq ▸ hother) hnew

/-- A group has the nodes of its place, in the order in which they come. -/
theorem members_of_mem_ofNodes {drawn : List DrawnNode} {group : NodeGroup}
    (h : group ∈ ofNodes drawn) :
    group.members = drawn.filter fun d => placeOf d = group.place := by
  -- the last node is put in last, into the groups of those before it
  induction drawn using List.reverseRecOn generalizing group with
  | nil => exact absurd h List.not_mem_nil
  | append_singleton drawn last ih =>
    have hplaces := map_place_ofNodes drawn
    have hnodup : ((ofNodes drawn).map place).Nodup := by
      rw [hplaces]
      exact nodup_eraseDups _
    have hinsert : ofNodes (drawn ++ [last]) = insert last (ofNodes drawn) := by
      rw [ofNodes, List.foldl_append]
      rfl
    rw [hinsert] at h
    rw [List.filter_append]
    rcases mem_insert hnodup h with ⟨hmem, hne⟩ |
      ⟨heq, ⟨old, hold, hsame, hmembers⟩ | ⟨hnew, hmembers⟩⟩
    · rw [ih hmem, List.filter_cons_of_neg (by simpa using hne), List.filter_nil, List.append_nil]
    · rw [hmembers, ih hold, hsame, List.filter_cons_of_pos (by simpa using heq), List.filter_nil]
    · have hnone : (drawn.filter fun d => placeOf d = group.place) = [] := by
        rw [List.filter_eq_nil_iff]
        intro d hd hplace
        rw [hplaces, List.mem_eraseDups] at hnew
        exact hnew (List.mem_map.mpr ⟨d, hd, by simpa using hplace⟩)
      rw [hnone, hmembers, List.filter_cons_of_pos (by simpa using heq), List.filter_nil,
        List.nil_append]

end NodeGroup

end ScriptFlow
