import Mathlib.Data.List.Induction
import Mathlib.Data.List.Perm.Basic

/-!
# Lists without repetitions

`List.eraseDupsBy` keeps the first of several entries that count as the same, and
`List.eraseDups` does so for equal entries.  Nothing new comes in, no two entries
that are kept count as the same, and what is dropped counts as the same as
something that is kept.  What is kept stands in the order of first occurrences
(`listsOnce_eraseDups`).

The entries of a list fall into parts by key (`flatMap_filter_perm`).  Those whose key an
earlier entry has are the later uses of their keys (`laterUses`): there are as many of them
as the list has more entries than keys.
-/

namespace ScriptFlow

variable {α : Type}

/-- An induction that follows the removal of repetitions: one step for each entry that is
kept. -/
lemma eraseDupsBy_induction {r : α → α → Bool} {motive : List α → Prop} (nil : motive [])
    (cons : ∀ first rest, motive (rest.filter fun b => r b first = false) →
      motive (first :: rest)) : ∀ list, motive list
  | [] => nil
  | first :: rest => cons first rest (eraseDupsBy_induction nil cons _)
termination_by list => list.length
decreasing_by exact Nat.lt_succ_of_le (List.length_filter_le _ rest)

/-- What is left without repetitions was there before. -/
lemma mem_of_mem_eraseDupsBy {same : α → α → Bool} {list : List α} {a : α}
    (h : a ∈ list.eraseDupsBy same) : a ∈ list := by
  induction list using eraseDupsBy_induction (r := same) with
  | nil => exact h
  | cons first rest ih =>
    rw [List.eraseDupsBy_cons] at h
    rcases List.mem_cons.mp h with rfl | h
    · exact List.mem_cons_self
    · exact List.mem_cons_of_mem _ (List.mem_filter.mp (ih h)).1

/-- Every entry is kept or counts as the same as one that is kept. -/
lemma exists_mem_eraseDupsBy {same : α → α → Bool} {list : List α} {a : α} (h : a ∈ list) :
    ∃ b ∈ list.eraseDupsBy same, a = b ∨ same a b = true := by
  induction list using eraseDupsBy_induction (r := same) with
  | nil => exact absurd h List.not_mem_nil
  | cons first rest ih =>
    rw [List.eraseDupsBy_cons]
    rcases List.mem_cons.mp h with rfl | h
    · exact ⟨a, List.mem_cons_self, .inl rfl⟩
    · cases hsame : same a first with
      | true => exact ⟨first, List.mem_cons_self, .inr hsame⟩
      | false =>
        obtain ⟨b, hb, hab⟩ := ih (List.mem_filter.mpr ⟨h, by rw [hsame]; rfl⟩)
        exact ⟨b, List.mem_cons_of_mem _ hb, hab⟩

/-- Of two entries that are kept the later does not count as the same as the earlier. -/
lemma pairwise_eraseDupsBy (same : α → α → Bool) (list : List α) :
    (list.eraseDupsBy same).Pairwise fun a b => same b a = false := by
  induction list using eraseDupsBy_induction (r := same) with
  | nil => exact .nil
  | cons first rest ih =>
    rw [List.eraseDupsBy_cons]
    refine List.pairwise_cons.mpr ⟨fun b hb => ?_, ih⟩
    simpa using (List.mem_filter.mp (mem_of_mem_eraseDupsBy hb)).2

/-- Without repetitions no entry occurs twice. -/
lemma nodup_eraseDups [BEq α] [LawfulBEq α] (list : List α) : list.eraseDups.Nodup := by
  refine (pairwise_eraseDupsBy (· == ·) list).imp fun {a b} hab heq => ?_
  subst heq
  rw [beq_self_eq_true] at hab
  exact Bool.noConfusion hab

/-! ## First occurrences -/

/-- The entries of a list, each once, in the order of their first occurrences. -/
structure ListsOnce [BEq α] (list once : List α) : Prop where
  nodup : once.Nodup
  mem_iff : ∀ a, a ∈ once ↔ a ∈ list
  ordered : once.Pairwise fun a b => list.idxOf a < list.idxOf b

/-- Without repetitions the entries of a list stand in the order of their first occurrences. -/
lemma listsOnce_eraseDups [BEq α] [LawfulBEq α] (list : List α) :
    ListsOnce list list.eraseDups where
  nodup := nodup_eraseDups list
  mem_iff a := List.mem_eraseDups
  ordered := by
    -- an entry at the end comes after all that are kept, unless it is one of them
    induction list using List.reverseRecOn with
    | nil => exact .nil
    | append_singleton list last ih =>
      have hbefore : list.eraseDups.Pairwise fun a b =>
          (list ++ [last]).idxOf a < (list ++ [last]).idxOf b := by
        refine ih.imp_of_mem fun {a b} ha hb hab => ?_
        rw [List.idxOf_append_of_mem (List.mem_eraseDups.mp ha),
          List.idxOf_append_of_mem (List.mem_eraseDups.mp hb)]
        exact hab
      rw [List.eraseDups_append, List.cons_removeAll]
      by_cases hlast : last ∈ list
      · rw [if_neg (by simpa using hlast)]
        simpa using hbefore
      · rw [if_pos (by simpa using hlast)]
        refine List.pairwise_append.mpr ⟨hbefore, List.pairwise_singleton _ _, fun a ha b hb => ?_⟩
        obtain rfl := List.mem_singleton.mp hb
        have ha := List.mem_eraseDups.mp ha
        rw [List.idxOf_append_of_mem ha, List.idxOf_append_of_notMem hlast]
        exact Nat.lt_add_right _ (List.idxOf_lt_length_of_mem ha)

/-! ## Parts by key -/

/-- The parts of a list by key are the list in another order, if every entry has one of the
keys and no key is there twice. -/
lemma flatMap_filter_perm {κ : Type} [DecidableEq κ] (key : α → κ) {keys : List κ}
    (hnodup : keys.Nodup) {list : List α} (hkeys : ∀ a ∈ list, key a ∈ keys) :
    (keys.flatMap fun k => list.filter fun a => key a == k).Perm list := by
  induction keys generalizing list with
  | nil =>
    have hnil : list = [] :=
      List.eq_nil_iff_forall_not_mem.mpr fun a ha => List.not_mem_nil (hkeys a ha)
    rw [hnil]
    exact .nil
  | cons first rest ih =>
    obtain ⟨hfirst, hrest⟩ := List.nodup_cons.mp hnodup
    set others := list.filter fun a => !(key a == first) with hothers
    -- the parts of other keys are parts of what has not the first key
    have hparts : (rest.flatMap fun k => list.filter fun a => key a == k) =
        rest.flatMap fun k => others.filter fun a => key a == k := by
      refine List.flatMap_congr fun k hk => ?_
      rw [hothers, List.filter_filter]
      refine List.filter_congr fun a _ => ?_
      by_cases heq : key a = k
      · have hne : key a ≠ first := fun h => hfirst (h ▸ heq ▸ hk)
        simp [heq, heq ▸ hne]
      · simp [heq]
    have hmem : ∀ a ∈ others, key a ∈ rest := by
      intro a ha
      obtain ⟨ha, hne⟩ := List.mem_filter.mp ha
      exact (List.mem_cons.mp (hkeys a ha)).resolve_left (by simpa using hne)
    rw [List.flatMap_cons, hparts]
    exact ((ih hrest hmem).append_left _).trans (List.filter_append_perm _ list)

/-! ## Later uses of a key -/

section LaterUses

variable {κ : Type} [DecidableEq κ] (key : α → κ)

/-- The entries whose key is a key from before the list or that of an earlier entry. -/
def laterUses (before : List κ) (list : List α) : List α :=
  (list.zipIdx.filter fun use => key use.1 ∈ before ++ (list.take use.2).map key).map Prod.fst

/-- A key that is there twice counts once. -/
lemma laterUses_of_mem {before : List κ} {k : κ} (h : k ∈ before) (list : List α) :
    laterUses key (k :: before) list = laterUses key before list := by
  unfold laterUses
  refine congrArg _ (List.filter_congr fun use _ => ?_)
  simp only [List.cons_append, List.mem_cons, List.mem_append, decide_eq_decide]
  exact or_iff_right_of_imp fun heq => .inl (heq ▸ h)

/-- The first entry is a later use if its key is from before; otherwise its key counts as
one from before for the rest. -/
lemma laterUses_cons (before : List κ) (first : α) (rest : List α) :
    laterUses key before (first :: rest) =
      if key first ∈ before then first :: laterUses key before rest
      else laterUses key (key first :: before) rest := by
  have hshift : (rest.zipIdx 1).filter (fun use =>
        key use.1 ∈ before ++ ((first :: rest).take use.2).map key) =
      (rest.zipIdx.filter fun use =>
        key use.1 ∈ key first :: before ++ (rest.take use.2).map key).map
          fun use => (use.1, use.2 + 1) := by
    rw [List.zipIdx_succ, List.filter_map]
    refine congrArg _ (List.filter_congr fun use _ => ?_)
    simp only [Function.comp_apply, List.take_succ_cons, List.map_cons, List.mem_append,
      List.mem_cons, decide_eq_decide]
    exact or_left_comm.trans (or_assoc.symm)
  have hrest : ((rest.zipIdx 1).filter (fun use =>
        key use.1 ∈ before ++ ((first :: rest).take use.2).map key)).map Prod.fst =
      laterUses key (key first :: before) rest := by
    rw [hshift, List.map_map, laterUses]
    rfl
  rw [laterUses, List.zipIdx_cons, List.filter_cons]
  split
  next hmem =>
    have hbefore : key first ∈ before := by simpa using hmem
    rw [List.map_cons, hrest, laterUses_of_mem key hbefore, if_pos hbefore]
  next hmem =>
    have hbefore : key first ∉ before := by simpa using hmem
    rw [hrest, if_neg hbefore]

/-- There is a later use for every entry but one for each key. -/
theorem length_laterUses_add [BEq κ] [LawfulBEq κ] (before : List κ) (list : List α) :
    (laterUses key before list).length +
        ((list.map key).filter fun k => k ∉ before).eraseDups.length = list.length := by
  induction list generalizing before with
  | nil => rfl
  | cons first rest ih =>
    rw [laterUses_cons, List.map_cons]
    split
    next hmem =>
      have hih := ih before
      rw [List.filter_cons_of_neg (by simpa using hmem), List.length_cons, List.length_cons]
      omega
    next hmem =>
      have hih := ih (key first :: before)
      have hothers : ((rest.map key).filter fun k => k ∉ before).filter (fun k => !k == key first) =
          (rest.map key).filter fun k => k ∉ key first :: before := by
        rw [List.filter_filter]
        refine List.filter_congr fun k _ => ?_
        by_cases heq : k = key first <;> simp [heq]
      rw [List.filter_cons_of_pos (by simpa using hmem), List.eraseDups_cons, List.length_cons,
        List.length_cons, hothers]
      omega

lemma mem_of_mem_laterUses {before : List κ} {list : List α} {a : α}
    (h : a ∈ laterUses key before list) : a ∈ list := by
  obtain ⟨use, huse, rfl⟩ := List.mem_map.mp h
  exact List.fst_mem_of_mem_zipIdx (List.mem_filter.mp huse).1

/-- The later uses among images are the images of later uses. -/
lemma laterUses_map {β : Type} (f : β → α) (before : List κ) (list : List β) :
    laterUses key before (list.map f) = (laterUses (key ∘ f) before list).map f := by
  induction list generalizing before with
  | nil => rfl
  | cons first rest ih =>
    rw [List.map_cons, laterUses_cons, laterUses_cons, ih, ih, Function.comp_apply]
    split <;> rfl

end LaterUses

end ScriptFlow
