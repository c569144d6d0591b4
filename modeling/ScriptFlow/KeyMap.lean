import ScriptFlow.Text.Basic

/-!
# Key maps

A finite map from texts to values, kept as its entries in strictly increasing
order of their keys.  Keys are compared character by character, so the order is
that of the code points.  Each map has exactly one list of entries, and equal
maps are equal as values.

The view of a map is `KeyMap.get?`; the main statement is `get?_insert`.
-/

namespace ScriptFlow

/-- A finite map with texts as keys. -/
structure KeyMap (α : Type) where
  entries : List (Text × α)
  sorted : entries.Pairwise fun a b => a.1 < b.1
  deriving DecidableEq, Repr

namespace KeyMap

variable {α : Type}

section Entries

variable {κ : Type} [LT κ] [DecidableLT κ] [DecidableEq κ]

/-- The entries with the value of a key set. -/
def insertEntry (key : κ) (value : α) : List (κ × α) → List (κ × α)
  | [] => [(key, value)]
  | (k, v) :: rest =>
    if key < k then (key, value) :: (k, v) :: rest
    else if key = k then (key, value) :: rest
    else (k, v) :: insertEntry key value rest

theorem mem_insertEntry {key : κ} {value : α} {entries : List (κ × α)} {e : κ × α}
    (h : e ∈ insertEntry key value entries) : e = (key, value) ∨ e ∈ entries := by
  induction entries with
  | nil => simpa [insertEntry] using h
  | cons head rest ih =>
    simp only [insertEntry] at h
    split at h
    · simpa using h
    · split at h
      · rcases List.mem_cons.1 h with h | h
        · exact .inl h
        · exact .inr (List.mem_cons_of_mem _ h)
      · rcases List.mem_cons.1 h with h | h
        · exact .inr (h ▸ List.mem_cons_self)
        · exact (ih h).imp_right (List.mem_cons_of_mem _)

variable [LE κ] [Std.IsLinearOrder κ] [Std.LawfulOrderLT κ]

omit [DecidableLT κ] [DecidableEq κ] in
/-- Of two keys, one is smaller or they are equal. -/
theorem lt_of_not_lt_of_ne {s t : κ} (h : ¬ s < t) (hne : s ≠ t) : t < s :=
  Std.lt_of_le_of_ne (Std.not_lt.1 h) hne.symm

theorem sorted_insertEntry (key : κ) (value : α) {entries : List (κ × α)}
    (h : entries.Pairwise fun a b => a.1 < b.1) :
    (insertEntry key value entries).Pairwise fun a b => a.1 < b.1 := by
  induction entries with
  | nil => simp [insertEntry]
  | cons head rest ih =>
    obtain ⟨hhead, hrest⟩ := List.pairwise_cons.1 h
    simp only [insertEntry]
    split
    next hlt =>
      refine List.pairwise_cons.2 ⟨fun e he => ?_, h⟩
      rcases List.mem_cons.1 he with rfl | he
      · exact hlt
      · exact Std.lt_trans hlt (hhead e he)
    next hlt =>
      split
      next heq =>
        subst heq
        exact List.pairwise_cons.2 ⟨hhead, hrest⟩
      next hne =>
        refine List.pairwise_cons.2 ⟨fun e he => ?_, ih hrest⟩
        rcases mem_insertEntry he with rfl | he
        · exact lt_of_not_lt_of_ne hlt hne
        · exact hhead e he

end Entries

/-- The map without entries. -/
def empty : KeyMap α where
  entries := []
  sorted := .nil

instance : Inhabited (KeyMap α) where
  default := empty

/-- The map with the value of a key set. -/
def insert (map : KeyMap α) (key : Text) (value : α) : KeyMap α where
  entries := insertEntry key value map.entries
  sorted := sorted_insertEntry key value map.sorted

/-- The map of some pairs; of several values for one key, the last counts. -/
def ofList (pairs : List (Text × α)) : KeyMap α :=
  pairs.foldl (fun map pair => map.insert pair.1 pair.2) empty

/-- The entries in increasing order of the keys. -/
def toList (map : KeyMap α) : List (Text × α) :=
  map.entries

/-- The value of a key. -/
def get? (map : KeyMap α) (key : Text) : Option α :=
  (map.entries.find? fun e => e.1 == key).map Prod.snd

/-! ### The view of a map -/

@[simp] theorem get?_empty (key : Text) : (empty : KeyMap α).get? key = none := rfl

/-- Setting the value of a key changes the value of that key only. -/
theorem get?_insert (map : KeyMap α) (key : Text) (value : α) (other : Text) :
    (map.insert key value).get? other = if key = other then some value else map.get? other := by
  obtain ⟨entries, sorted⟩ := map
  simp only [get?, insert]
  clear sorted
  induction entries with
  | nil => by_cases h : key = other <;> simp [insertEntry, h]
  | cons head rest ih =>
    simp only [insertEntry]
    split
    next => by_cases h : key = other <;> simp [h]
    next =>
      split
      next heq =>
        subst heq
        by_cases h : head.1 = other
        · simp [h]
        · simp [h]
      next hne =>
        by_cases h : head.1 = other
        · subst h
          simp [hne]
        · simpa [h] using ih

end KeyMap

end ScriptFlow
