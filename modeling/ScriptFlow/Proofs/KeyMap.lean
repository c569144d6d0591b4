import Mathlib.Data.List.Basic
import Mathlib.Data.List.Sort
import ScriptFlow.KeyMap

/-!
# Entries of key maps

The entries of a map are those of the pairs it was made of.  Since they are kept in
order, a map made of the entries of a map is this map.

A map is known by its values (`ext_get?`).  The value of a key in a map made of pairs is that
of its last pair (`get?_ofList`, `mem_toList_ofList_iff`), so it does not matter whether the
pairs of some keys are left out before or after (`ofList_filter`).
-/

namespace ScriptFlow

namespace KeyMap

variable {α : Type}

/-- Two maps with the same entries are equal. -/
lemma eq_of_entries_eq {map other : KeyMap α} (h : map.entries = other.entries) :
    map = other := by
  cases map
  cases other
  congr

/-- A key after all others is put at the end. -/
lemma insertEntry_of_forall_lt {key : Text} (value : α) {entries : List (Text × α)}
    (h : ∀ e ∈ entries, e.1 < key) :
    insertEntry key value entries = entries ++ [(key, value)] := by
  induction entries with
  | nil => rfl
  | cons head rest ih =>
    obtain ⟨k, v⟩ := head
    obtain ⟨hhead, hrest⟩ := List.forall_mem_cons.mp h
    have hnot : ¬key < k := List.lt_asymm hhead
    have hne : key ≠ k := by
      rintro rfl
      exact List.lt_irrefl _ hhead
    rw [insertEntry, if_neg hnot, if_neg hne, ih hrest, List.cons_append]

/-- Entries after those of a map are put at the end of them. -/
lemma entries_foldl_insert {map : KeyMap α} {entries : List (Text × α)}
    (h : (map.entries ++ entries).Pairwise fun a b => a.1 < b.1) :
    (entries.foldl (fun map pair => map.insert pair.1 pair.2) map).entries =
      map.entries ++ entries := by
  induction entries generalizing map with
  | nil => rw [List.foldl_nil, List.append_nil]
  | cons e rest ih =>
    have hlast : ∀ a ∈ map.entries, a.1 < e.1 :=
      fun a ha => (List.pairwise_append.mp h).2.2 a ha e List.mem_cons_self
    have hinsert : (map.insert e.1 e.2).entries = map.entries ++ [e] :=
      insertEntry_of_forall_lt e.2 hlast
    have hsplit : map.entries ++ e :: rest = map.entries ++ [e] ++ rest :=
      List.append_cons _ _ _
    rw [hsplit, ← hinsert] at h
    rw [List.foldl_cons, ih h, hinsert, hsplit]

/-- The map made of the entries of a map is this map. -/
theorem ofList_toList (map : KeyMap α) : ofList map.toList = map := by
  have hsorted : (([] : List (Text × α)) ++ map.entries).Pairwise fun a b => a.1 < b.1 :=
    map.sorted
  exact eq_of_entries_eq (entries_foldl_insert hsorted)

/-- Every entry of a map that grew is an old or a new one. -/
lemma mem_foldl_insert {map : KeyMap α} {pairs : List (Text × α)} {e : Text × α}
    (h : e ∈ (pairs.foldl (fun map pair => map.insert pair.1 pair.2) map).entries) :
    e ∈ map.entries ∨ e ∈ pairs := by
  induction pairs generalizing map with
  | nil => exact .inl h
  | cons pair rest ih =>
    rcases ih h with h | h
    · rcases mem_insertEntry h with rfl | h
      · exact .inr List.mem_cons_self
      · exact .inl h
    · exact .inr (List.mem_cons_of_mem _ h)

/-- Every entry of a map is one of the pairs that it was made of. -/
theorem mem_of_mem_toList_ofList {pairs : List (Text × α)} {e : Text × α}
    (h : e ∈ (ofList pairs).toList) : e ∈ pairs :=
  (mem_foldl_insert h).resolve_left (List.not_mem_nil)

/-! ## Values -/

/-- The entries are the keys with their values. -/
theorem mem_toList_iff {map : KeyMap α} {key : Text} {value : α} :
    (key, value) ∈ map.toList ↔ map.get? key = some value := by
  obtain ⟨entries, sorted⟩ := map
  simp only [toList, get?]
  induction entries with
  | nil => simp
  | cons head rest ih =>
    obtain ⟨hhead, hrest⟩ := List.pairwise_cons.mp sorted
    rw [List.mem_cons, ih hrest, List.find?_cons]
    by_cases hkey : head.1 = key
    · have hnone : rest.find? (fun e => e.1 == key) = none := by
        rw [List.find?_eq_none]
        intro e he heq
        exact List.lt_irrefl _ ((beq_iff_eq.mp heq).symm ▸ hkey ▸ hhead e he)
      have hfound : (head.1 == key) = true := beq_iff_eq.mpr hkey
      rw [hfound, hnone, Option.map_none, Option.map_some, Option.some_inj, ← hkey]
      simp [Prod.ext_iff, eq_comm]
    · have hother : (head.1 == key) = false := beq_eq_false_iff_ne.mpr hkey
      have hne : (key, value) ≠ head := fun heq => hkey (congrArg Prod.fst heq.symm)
      rw [hother, or_iff_right hne]

/-- Two maps with the same values are equal. -/
theorem ext_get? {map other : KeyMap α} (h : ∀ key, map.get? key = other.get? key) :
    map = other := by
  have hirrefl : Std.Irrefl fun a b : Text × α => a.1 < b.1 := ⟨fun a => List.lt_irrefl a.1⟩
  have hasymm : Std.Antisymm fun a b : Text × α => a.1 < b.1 :=
    ⟨fun a b hlt hgt => absurd hgt (List.lt_asymm hlt)⟩
  refine eq_of_entries_eq (map.sorted.eq_of_mem_iff other.sorted fun e => ?_)
  have hmem : e ∈ map.toList ↔ e ∈ other.toList := by
    rw [mem_toList_iff, mem_toList_iff, h]
  exact hmem

/-- A key that is set several times has the last value, or else its old one. -/
lemma get?_foldl_insert (map : KeyMap α) (pairs : List (Text × α)) (key : Text) :
    (pairs.foldl (fun map pair => map.insert pair.1 pair.2) map).get? key =
      ((pairs.reverse.find? fun pair => pair.1 == key).map Prod.snd).or (map.get? key) := by
  induction pairs generalizing map with
  | nil => rfl
  | cons pair rest ih =>
    rw [List.foldl_cons, ih, get?_insert, List.reverse_cons, List.find?_append, Option.map_or,
      Option.or_assoc]
    congr 1
    by_cases hkey : pair.1 = key <;> simp [hkey]

/-- The value of a key is that of the last pair with this key. -/
theorem get?_ofList (pairs : List (Text × α)) (key : Text) :
    (ofList pairs).get? key = (pairs.reverse.find? fun pair => pair.1 == key).map Prod.snd := by
  rw [ofList, get?_foldl_insert, get?_empty, Option.or_none]

/-- The pairs behind which their key does not come again. -/
def IsLastOfKey (pairs : List (Text × α)) (pair : Text × α) : Prop :=
  ∃ before after, pairs = before ++ pair :: after ∧ ∀ later ∈ after, later.1 ≠ pair.1

/-- The entries of a map made of pairs are the last pairs of their keys. -/
theorem mem_toList_ofList_iff {pairs : List (Text × α)} {pair : Text × α} :
    pair ∈ (ofList pairs).toList ↔ IsLastOfKey pairs pair := by
  obtain ⟨key, value⟩ := pair
  rw [mem_toList_iff, get?_ofList, Option.map_eq_some_iff]
  constructor
  · rintro ⟨⟨key', value'⟩, hfind, rfl⟩
    obtain ⟨hkey, after, before, hpairs, hafter⟩ := List.find?_eq_some_iff_append.mp hfind
    obtain rfl : key' = key := beq_iff_eq.mp hkey
    refine ⟨before.reverse, after.reverse, ?_, fun later hlater => ?_⟩
    · rw [← List.reverse_reverse pairs, hpairs]
      simp
    · simpa using hafter later (List.mem_reverse.mp hlater)
  · rintro ⟨before, after, rfl, hafter⟩
    refine ⟨(key, value), List.find?_eq_some_iff_append.mpr ⟨beq_self_eq_true key,
      after.reverse, before.reverse, by simp, fun later hlater => ?_⟩, rfl⟩
    simpa using hafter later (List.mem_reverse.mp hlater)

/-- Each key has a last pair. -/
lemma exists_isLastOfKey {pairs : List (Text × α)} {pair : Text × α} (h : pair ∈ pairs) :
    ∃ last, IsLastOfKey pairs last ∧ last.1 = pair.1 := by
  have hfound : ((pairs.reverse.find? fun other => other.1 == pair.1).map Prod.snd).isSome := by
    rw [Option.isSome_map, List.find?_isSome]
    exact ⟨pair, List.mem_reverse.mpr h, beq_self_eq_true pair.1⟩
  obtain ⟨value, hvalue⟩ := Option.isSome_iff_exists.mp hfound
  rw [← get?_ofList, ← mem_toList_iff, mem_toList_ofList_iff] at hvalue
  exact ⟨(pair.1, value), hvalue, rfl⟩

/-- The map without the entries of some keys. -/
def filterKeys (map : KeyMap α) (keep : Text → Bool) : KeyMap α where
  entries := map.entries.filter fun e => keep e.1
  sorted := map.sorted.filter _

/-- A pair is found under its key among those that are kept, or none is if the key is not. -/
lemma find?_filter_key (pairs : List (Text × α)) (keep : Text → Bool) (key : Text) :
    (pairs.filter fun pair => keep pair.1).find? (fun pair => pair.1 == key) =
      if keep key = true then pairs.find? fun pair => pair.1 == key else none := by
  rw [List.find?_filter]
  split
  next hkeep =>
    refine congrArg (List.find? · pairs) (funext fun pair => ?_)
    by_cases hkey : pair.1 = key <;> simp [hkey, hkeep]
  next hkeep =>
    rw [List.find?_eq_none]
    intro pair _ hfound
    rw [decide_eq_true_eq, beq_iff_eq] at hfound
    exact hkeep (hfound.2 ▸ hfound.1)

/-- A key that is kept has its value, and any other has none. -/
lemma get?_filterKeys (map : KeyMap α) (keep : Text → Bool) (key : Text) :
    (map.filterKeys keep).get? key = if keep key = true then map.get? key else none := by
  rw [get?, filterKeys, find?_filter_key, apply_ite (Option.map Prod.snd), Option.map_none, get?]

/-- Leaving out pairs by their keys leaves out the entries of these keys. -/
theorem ofList_filter (pairs : List (Text × α)) (keep : Text → Bool) :
    ofList (pairs.filter fun pair => keep pair.1) = (ofList pairs).filterKeys keep := by
  refine ext_get? fun key => ?_
  rw [get?_filterKeys, get?_ofList, get?_ofList, ← List.filter_reverse, find?_filter_key,
    apply_ite (Option.map Prod.snd), Option.map_none]

end KeyMap

end ScriptFlow
