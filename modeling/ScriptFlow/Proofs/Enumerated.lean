import Mathlib.Data.List.Forall2
import Mathlib.Data.List.Induction
import Mathlib.Data.Prod.Lex
import Mathlib.Tactic.Lemma

/-!
# Enumerations

A list enumerates the entries of a relation if it has exactly one for each index that the
relation knows, in the order of the indices (`Enumerates`).  So both the order and the
number of the entries are fixed by the relation, whatever loops the list came from.

A loop over the positions of a list enumerates if each of its rounds does
(`enumerates_flatMap_zipIdx`): the indices of a round have its position as their rank, and
ranks decide before anything else.  Loops inside of each other thus enumerate in
lexicographic order.
-/

namespace ScriptFlow

variable {α β ι : Type}

/-- A list of the entries for all indices that have one, in the order of the indices. -/
def Enumerates (before : ι → ι → Prop) (entry : ι → β → Prop) (list : List β) : Prop :=
  ∃ indices : List ι, indices.Pairwise before ∧ (∀ i, i ∈ indices ↔ ∃ b, entry i b) ∧
    List.Forall₂ entry indices list

namespace Enumerates

variable {before : ι → ι → Prop} {entry other : ι → β → Prop} {list others : List β}

/-- Relations with the same entries have the same enumerations. -/
lemma congr (h : Enumerates before entry list) (hsame : ∀ i b, entry i b ↔ other i b) :
    Enumerates before other list := by
  have heq : entry = other := funext fun i => funext fun b => propext (hsame i b)
  rw [← heq]
  exact h

/-- Without entries there is nothing to enumerate. -/
lemma nil (hnone : ∀ i b, ¬entry i b) : Enumerates before entry [] := by
  refine ⟨[], .nil, fun i => ?_, .nil⟩
  constructor
  · exact fun h => absurd h List.not_mem_nil
  · rintro ⟨b, hb⟩
    exact absurd hb (hnone i b)

/-- A single index is enumerated by its entry. -/
lemma singleton {i : ι} {b : β} (hentry : entry i b) (honly : ∀ j c, entry j c → j = i) :
    Enumerates before entry [b] := by
  refine ⟨[i], List.pairwise_singleton _ _, fun j => ?_, .cons hentry .nil⟩
  rw [List.mem_singleton]
  constructor
  · rintro rfl
    exact ⟨b, hentry⟩
  · rintro ⟨c, hc⟩
    exact honly j c hc

/-- Enumerations follow each other if all indices of the first come before those of the
second. -/
lemma append (h : Enumerates before entry list) (hothers : Enumerates before other others)
    (hbefore : ∀ i b j c, entry i b → other j c → before i j) :
    Enumerates before (fun i b => entry i b ∨ other i b) (list ++ others) := by
  obtain ⟨first, hsorted, hmem, hentries⟩ := h
  obtain ⟨second, hsorted', hmem', hentries'⟩ := hothers
  refine ⟨first ++ second, ?_, fun i => ?_, ?_⟩
  · refine List.pairwise_append.mpr ⟨hsorted, hsorted', fun i hi j hj => ?_⟩
    obtain ⟨b, hb⟩ := (hmem i).mp hi
    obtain ⟨c, hc⟩ := (hmem' j).mp hj
    exact hbefore i b j c hb hc
  · rw [List.mem_append, hmem, hmem', exists_or]
  · exact List.rel_append (hentries.imp fun _ _ => .inl) (hentries'.imp fun _ _ => .inr)

end Enumerates

/-- A loop over the positions of a list enumerates what its rounds enumerate, if the position
of a round decides which indices come first. -/
lemma enumerates_flatMap_zipIdx {before : ι → ι → Prop} {entry : ι → β → Prop} (rank : ι → Nat)
    (hrank : ∀ i j, rank i < rank j → before i j) {list : List α} {round : α × Nat → List β}
    (hround : ∀ n a, list[n]? = some a →
      Enumerates before (fun i b => rank i = n ∧ entry i b) (round (a, n)))
    (hbound : ∀ i b, entry i b → rank i < list.length) :
    Enumerates before entry (list.zipIdx.flatMap round) := by
  have hall : Enumerates before (fun i b => rank i < list.length ∧ entry i b)
      (list.zipIdx.flatMap round) := by
    clear hbound
    induction list using List.reverseRecOn with
    | nil => exact .nil fun i b h => Nat.not_lt_zero _ h.1
    | append_singleton list last ih =>
      have hrounds := ih fun n a ha => by
        have hn : n < list.length := (List.getElem?_eq_some_iff.mp ha).1
        refine hround n a ?_
        rw [List.getElem?_append_left hn, ha]
      have hlast := hround list.length last (by simp)
      have hzip : (list ++ [last]).zipIdx = list.zipIdx ++ [(last, list.length)] := by
        rw [List.zipIdx_append, Nat.zero_add]
        rfl
      rw [hzip, List.flatMap_append, List.flatMap_singleton, List.length_append,
        List.length_singleton]
      have hboth := hrounds.append hlast fun i b j c hi hj => hrank i j (hj.1 ▸ hi.1)
      refine hboth.congr fun i b => ?_
      rw [← or_and_right, Nat.lt_succ_iff_lt_or_eq]
  exact hall.congr fun i b => and_iff_right_of_imp (hbound i b)

/-- A loop in whose rounds another enumeration runs enumerates pairs in lexicographic order. -/
lemma enumerates_lex_flatMap_zipIdx {before : ι → ι → Prop} {entry : Nat × ι → β → Prop}
    {list : List α} {round : α × Nat → List β}
    (hround : ∀ n a, list[n]? = some a →
      Enumerates before (fun i b => entry (n, i) b) (round (a, n)))
    (hbound : ∀ n i b, entry (n, i) b → n < list.length) :
    Enumerates (Prod.Lex (· < ·) before) entry (list.zipIdx.flatMap round) := by
  refine enumerates_flatMap_zipIdx Prod.fst (fun _ _ => .left _ _) (fun n a ha => ?_)
    fun i b => hbound i.1 i.2 b
  obtain ⟨indices, hsorted, hmem, hentries⟩ := hround n a ha
  refine ⟨indices.map (Prod.mk n), ?_, fun i => ?_, ?_⟩
  · rw [List.pairwise_map]
    exact hsorted.imp fun h => .right _ h
  · obtain ⟨m, i⟩ := i
    rw [List.mem_map]
    constructor
    · rintro ⟨j, hj, heq⟩
      obtain ⟨rfl, rfl⟩ := Prod.mk.inj heq
      obtain ⟨b, hb⟩ := (hmem j).mp hj
      exact ⟨b, rfl, hb⟩
    · rintro ⟨b, rfl, hb⟩
      exact ⟨i, (hmem i).mpr ⟨b, hb⟩, rfl⟩
  · rw [List.forall₂_map_left_iff]
    exact hentries.imp fun _ _ h => ⟨rfl, h⟩

/-- A loop whose rounds give one entry or none enumerates positions. -/
lemma enumerates_filterMap_zipIdx {entry : Nat → β → Prop} {list : List α}
    {round : α × Nat → Option β}
    (hround : ∀ n a, list[n]? = some a → ∀ b, round (a, n) = some b ↔ entry n b)
    (hbound : ∀ n b, entry n b → n < list.length) :
    Enumerates (· < ·) entry (list.zipIdx.filterMap round) := by
  rw [List.filterMap_eq_flatMap_toList]
  refine enumerates_flatMap_zipIdx id (fun _ _ h => h) (fun n a ha => ?_) hbound
  cases hb : round (a, n) with
  | none =>
    refine .nil fun i b h => ?_
    have hi : i = n := h.1
    have hsome : round (a, n) = some b := (hround n a ha b).mpr (hi ▸ h.2)
    rw [hb] at hsome
    cases hsome
  | some b => exact .singleton ⟨rfl, (hround n a ha b).mp hb⟩ fun _ _ h => h.1

/-- A loop over a list in whose rounds another enumeration runs, with its rounds numbered. -/
lemma enumerates_lex_flatMap {before : ι → ι → Prop} {entry : Nat × ι → β → Prop}
    {list : List α} {round : α → List β}
    (hround : ∀ n a, list[n]? = some a → Enumerates before (fun i b => entry (n, i) b) (round a))
    (hbound : ∀ n i b, entry (n, i) b → n < list.length) :
    Enumerates (Prod.Lex (· < ·) before) entry (list.flatMap round) := by
  have hnumbered : list.flatMap round = list.zipIdx.flatMap fun numbered => round numbered.1 := by
    conv_lhs => rw [← List.zipIdx_map_fst 0 list, List.flatMap_map]
  rw [hnumbered]
  exact enumerates_lex_flatMap_zipIdx hround hbound

/-- A loop over a list whose rounds give one entry or none, with its rounds numbered. -/
lemma enumerates_filterMap {entry : Nat → β → Prop} {list : List α} {round : α → Option β}
    (hround : ∀ n a, list[n]? = some a → ∀ b, round a = some b ↔ entry n b)
    (hbound : ∀ n b, entry n b → n < list.length) :
    Enumerates (· < ·) entry (list.filterMap round) := by
  have hnumbered : list.filterMap round =
      list.zipIdx.filterMap fun numbered => round numbered.1 := by
    conv_lhs => rw [← List.zipIdx_map_fst 0 list, List.filterMap_map]
    rfl
  rw [hnumbered]
  exact enumerates_filterMap_zipIdx hround hbound

end ScriptFlow
