import Mathlib.Data.List.Lex
import Mathlib.Tactic.MkIffOfInductiveProp
import ScriptFlow.FilePath
import ScriptFlow.Proofs.Text.Lines
import ScriptFlow.Proofs.Text.Utf8

/-!
# File names and components

The file name of a path is one of the pieces between its slashes, so it holds no
slash and is its own file name.  Its stem is what it starts with, and it is not empty.

The path of an entry of a folder has one component more than that of the folder
(`components_child`), whether or not the path of the folder ends in a slash.  Paths are
compared component by component (`Precedes`).  All this holds of characters and of bytes.
-/

namespace ScriptFlow

namespace Path

open Letter Text

variable {α : Type} [DecidableEq α] [Letter α]

/-- A piece that stands for a name is that name, and it is not empty. -/
lemma eq_of_componentOf? {piece name : List α} (h : componentOf? piece = some (.name name)) :
    piece = name ∧ piece ≠ [] := by
  unfold componentOf? at h
  split at h
  · cases h
  next hpiece =>
    rw [Bool.or_eq_true, not_or, List.isEmpty_iff] at hpiece
    split at h
    · cases h
    · cases h
      exact ⟨rfl, hpiece.1⟩

/-- A name among the components of a path is a piece between slashes, and a name there. -/
lemma componentOf?_of_mem_components {path name : List α}
    (h : .name name ∈ components path) :
    name ∈ path.splitOn slash ∧ componentOf? name = some (.name name) := by
  have hrest : .name name ∈ (path.splitOn slash).filterMap componentOf? := by
    refine (List.mem_append.mp h).resolve_left fun hstart => ?_
    unfold start at hstart
    split at hstart
    · simp at hstart
    · split at hstart <;> simp at hstart
    · exact List.not_mem_nil hstart
  obtain ⟨piece, hpiece, hname⟩ := List.mem_filterMap.mp hrest
  obtain ⟨rfl, -⟩ := eq_of_componentOf? hname
  exact ⟨hpiece, hname⟩

/-- A name among the components of a path is a piece between slashes. -/
lemma mem_splitOn_of_mem_components {path name : List α}
    (h : .name name ∈ components path) : name ∈ path.splitOn slash ∧ name ≠ [] := by
  obtain ⟨hpiece, hname⟩ := componentOf?_of_mem_components h
  exact ⟨hpiece, (eq_of_componentOf? hname).2⟩

/-- The last component, when it is a name, is a piece between slashes. -/
lemma mem_splitOn_of_fileName? {path name : List α} (h : fileName? path = some name) :
    name ∈ path.splitOn slash ∧ name ≠ [] := by
  unfold fileName? at h
  split at h
  next text hlast =>
    obtain rfl := Option.some.inj h
    exact mem_splitOn_of_mem_components (List.mem_of_getLast? hlast)
  next => cases h

/-- A path without slashes is its own file name, if it has one. -/
lemma fileName?_eq_self {path name : List α} (hslash : slash ∉ path)
    (h : fileName? path = some name) : name = path := by
  have hpieces : path.splitOn slash = [path] := List.splitOn_eq_singleton hslash
  have hmem := (mem_splitOn_of_fileName? h).1
  rw [hpieces] at hmem
  exact List.mem_singleton.mp hmem

/-- A name is cut into a part that is not empty and an extension without points. -/
lemma cutExtension?_eq_some_iff {name front extension : List α} :
    cutExtension? name = some (front, extension) ↔
      name = front ++ point :: extension ∧ front ≠ [] ∧ point ∉ extension := by
  have hcut : cutExtension? name = some (front, extension) ↔
      cutLast? point name = some (front, extension) ∧ front ≠ [] := by
    unfold cutExtension?
    split
    next after hlast =>
      rw [hlast]
      constructor
      · intro h
        cases h
      · rintro ⟨heq, hne⟩
        exact absurd (Prod.mk.inj (Option.some.inj heq)).1.symm hne
    next hnot =>
      refine ⟨fun h => ⟨h, ?_⟩, And.left⟩
      rintro rfl
      exact hnot _ h
  rw [hcut, cutLast?_eq_some_iff, and_assoc]
  exact and_congr_right fun _ => and_comm

/-- A name has no extension if it has no point but possibly as its first letter. -/
lemma cutExtension?_eq_none_iff {name : List α} :
    cutExtension? name = none ↔ point ∉ name.tail := by
  rw [Option.eq_none_iff_forall_ne_some]
  constructor
  · intro hnone hmem
    cases name with
    | nil => exact List.not_mem_nil hmem
    | cons c rest =>
      -- the point behind the first letter that comes last
      cases hcut : cutLast? point rest with
      | none =>
        rw [cutLast?, Option.map_eq_none_iff, cut?_eq_none_iff] at hcut
        have hmem : point ∈ rest.reverse := List.mem_reverse.mpr hmem
        obtain ⟨before, after, hrest⟩ := List.append_of_mem hmem
        exact hcut ⟨before, after, by rw [hrest, List.append_assoc, List.singleton_append]⟩
      | some parts =>
        obtain ⟨front, extension⟩ := parts
        obtain ⟨rfl, hextension⟩ := cutLast?_eq_some_iff.mp hcut
        exact hnone (c :: front, extension)
          (cutExtension?_eq_some_iff.mpr ⟨rfl, List.cons_ne_nil c front, hextension⟩)
  · rintro hnot ⟨front, extension⟩ hsome
    obtain ⟨rfl, hne, -⟩ := cutExtension?_eq_some_iff.mp hsome
    obtain ⟨c, rest, rfl⟩ := List.exists_cons_of_ne_nil hne
    exact hnot (List.mem_append_right rest List.mem_cons_self)

/-- What stands before the extension is the start of a file name. -/
lemma exists_append_of_cutExtension? {name front extension : List α}
    (h : cutExtension? name = some (front, extension)) : ∃ rest, name = front ++ rest :=
  ⟨point :: extension, (cutExtension?_eq_some_iff.mp h).1⟩

/-- A file name starts with its stem. -/
theorem exists_append_of_stem? {name stem : List α} (hslash : slash ∉ name)
    (h : stem? name = some stem) : ∃ rest, name = stem ++ rest := by
  rw [stem?, Option.map_eq_some_iff] at h
  obtain ⟨text, htext, rfl⟩ := h
  obtain rfl := fileName?_eq_self hslash htext
  cases hcut : cutExtension? text with
  | none => exact ⟨[], (List.append_nil text).symm⟩
  | some parts => exact exists_append_of_cutExtension? hcut

/-- What stands before an extension is not empty. -/
lemma ne_nil_of_cutExtension? {name front extension : List α}
    (h : cutExtension? name = some (front, extension)) : front ≠ [] :=
  (cutExtension?_eq_some_iff.mp h).2.1

/-- A stem is not empty. -/
theorem ne_nil_of_stem? {path stem : List α} (h : stem? path = some stem) : stem ≠ [] := by
  rw [stem?, Option.map_eq_some_iff] at h
  obtain ⟨name, hname, rfl⟩ := h
  cases hcut : cutExtension? name with
  | none => exact (mem_splitOn_of_fileName? hname).2
  | some parts => exact ne_nil_of_cutExtension? hcut

/-! ## Entries of folders -/

/-- A first piece that is not empty stands for more than itself only if it is a point. -/
lemma start_cons {first : List α} (hne : first ≠ []) (rest : List (List α)) :
    start (first :: rest) = if first == [point] then [.current] else [] := by
  unfold start
  split
  next hnil => exact absurd (List.cons.inj hnil).1 hne
  next hfirst => rw [(List.cons.inj hfirst).1]
  next hnil => cases hnil

/-- What a path starts with does not depend on a last piece among others. -/
lemma start_concat {pieces : List (List α)} (hne : pieces ≠ []) (piece other : List α) :
    start (pieces ++ [piece]) = start (pieces ++ [other]) := by
  obtain ⟨first, rest, rfl⟩ := List.exists_cons_of_ne_nil hne
  by_cases hfirst : first = []
  · rw [hfirst]
    cases rest <;> rfl
  · rw [List.cons_append, List.cons_append, start_cons hfirst, start_cons hfirst]

/-- A further piece leaves what a path starts with, unless the path is empty. -/
lemma start_append_singleton {pieces : List (List α)} (hne : pieces ≠ [])
    (hnot : pieces ≠ [[]]) (piece : List α) : start (pieces ++ [piece]) = start pieces := by
  obtain ⟨first, rest, rfl⟩ := List.exists_cons_of_ne_nil hne
  by_cases hfirst : first = []
  · rw [hfirst] at hnot ⊢
    cases rest with
    | nil => exact absurd rfl hnot
    | cons next rest => rfl
  · rw [List.cons_append, start_cons hfirst, start_cons hfirst]

/-- A slash divides the pieces of a path. -/
lemma splitOn_slash (front rest : List α) :
    (front ++ [slash] ++ rest).splitOn slash = front.splitOn slash ++ rest.splitOn slash := by
  rw [List.append_assoc]
  exact List.splitOn_append_cons_self front rest

/-- A slash at the end of a path has an empty piece behind it. -/
lemma splitOn_append_slash (path : List α) :
    (path ++ [slash]).splitOn slash = path.splitOn slash ++ [[]] := by
  have hsplit := splitOn_slash path []
  rwa [List.append_nil, List.splitOn_nil] at hsplit

/-- A slash at the end of a path carries nothing. -/
lemma components_slash {path : List α} (hne : path ≠ []) :
    components (path ++ [slash]) = components path := by
  have hnot : path.splitOn slash ≠ [[]] := by
    intro hsingle
    have hjoin : List.intercalate [slash] (path.splitOn slash) = path :=
      List.intercalate_splitOn slash
    rw [hsingle, List.intercalate_singleton] at hjoin
    exact hne hjoin.symm
  have hlast : [([] : List α)].filterMap componentOf? = [] := rfl
  simp only [components]
  rw [splitOn_append_slash, start_append_singleton (List.splitOn_ne_nil _ _) hnot, List.filterMap_append, hlast,
    List.append_nil]

/-- A piece behind a slash adds what it stands for. -/
lemma components_slash_piece {piece : List α} (hslash : slash ∉ piece) (front : List α) :
    components (front ++ [slash] ++ piece) =
      components (front ++ [slash]) ++ (componentOf? piece).toList := by
  have hlast : [piece].filterMap componentOf? = (componentOf? piece).toList := by
    cases h : componentOf? piece <;> simp [h]
  have hnone : [([] : List α)].filterMap componentOf? = [] := rfl
  simp only [components]
  rw [splitOn_slash, splitOn_append_slash, List.splitOn_eq_singleton hslash,
    List.filterMap_append, List.filterMap_append, hlast, hnone, List.append_nil,
    start_concat (List.splitOn_ne_nil _ _) piece [], List.append_assoc]

/-- The name of a file or a folder, as it stands between slashes. -/
@[mk_iff]
structure IsFileName (name : List α) : Prop where
  ne_nil : name ≠ []
  noSlash : slash ∉ name
  ne_current : name ≠ [point]
  ne_parent : name ≠ [point, point]

instance (name : List α) : Decidable (IsFileName name) :=
  decidable_of_iff _ (isFileName_iff name).symm

/-- A piece is a name unless it is empty or made of points. -/
lemma componentOf?_eq_name_iff {piece name : List α} (hslash : slash ∉ piece) :
    componentOf? piece = some (.name name) ↔ piece = name ∧ IsFileName piece := by
  unfold componentOf?
  split
  next hnothing =>
    rw [Bool.or_eq_true, List.isEmpty_iff, beq_iff_eq] at hnothing
    constructor
    · intro h
      cases h
    · rintro ⟨-, hname⟩
      exact absurd hnothing (not_or.mpr ⟨hname.ne_nil, hname.ne_current⟩)
  next hsomething =>
    rw [Bool.or_eq_true, List.isEmpty_iff, beq_iff_eq, not_or] at hsomething
    split
    next hparent =>
      constructor
      · intro h
        cases h
      · rintro ⟨-, hname⟩
        exact absurd (beq_iff_eq.mp hparent) hname.ne_parent
    next hother =>
      rw [Option.some_inj, Component.name.injEq]
      refine ⟨fun h => ⟨h, hsomething.1, hslash, hsomething.2, ?_⟩, And.left⟩
      exact fun hparent => hother (beq_iff_eq.mpr hparent)

/-- A name is the component that it stands for. -/
lemma IsFileName.componentOf?_eq {name : List α} (h : IsFileName name) :
    componentOf? name = some (.name name) :=
  (componentOf?_eq_name_iff h.noSlash).mpr ⟨rfl, h⟩

section Child

variable {name : List α} (hname : IsFileName name)

include hname

/-- A name alone is the only component of its path. -/
lemma components_name : components name = [.name name] := by
  have hpoint : (name == [point]) = false := beq_eq_false_iff_ne.mpr hname.ne_current
  simp only [components]
  rw [List.splitOn_eq_singleton hname.noSlash, start_cons hname.ne_nil, hpoint,
    if_neg Bool.false_ne_true, List.filterMap_cons, hname.componentOf?_eq, List.filterMap_nil,
    List.nil_append]

/-- A name behind a slash is one more component. -/
lemma components_slash_name (front : List α) :
    components (front ++ [slash] ++ name) = components (front ++ [slash]) ++ [.name name] := by
  rw [components_slash_piece hname.noSlash, hname.componentOf?_eq, Option.toList_some]

/-- The name of an entry is the last component of its path. -/
theorem components_child (folder : List α) :
    components (child folder name) = components folder ++ [.name name] := by
  unfold child
  split
  next hend =>
    rw [Bool.or_eq_true, List.isEmpty_iff, beq_iff_eq, List.getLast?_eq_some_iff] at hend
    rcases hend with rfl | ⟨front, rfl⟩
    · exact components_name hname
    · rw [List.append_assoc, ← List.append_assoc]
      exact components_slash_name hname front
  next hend =>
    have hne : folder ≠ [] := by
      rintro rfl
      exact hend rfl
    rw [components_slash_name hname, components_slash hne]

end Child

section Children

variable {steps : List (List α)} (hnames : ∀ step ∈ steps, IsFileName step)

include hnames

/-- The names of the entries that lead to a path are its last components. -/
lemma components_foldl_child (root : List α) :
    components (steps.foldl child root) = components root ++ steps.map .name := by
  induction steps generalizing root with
  | nil => rw [List.foldl_nil, List.map_nil, List.append_nil]
  | cons name rest ih =>
    obtain ⟨hname, hrest⟩ := List.forall_mem_cons.mp hnames
    rw [List.foldl_cons, ih hrest, components_child hname, List.map_cons, List.append_assoc,
      List.singleton_append]

/-- The last of these names is the file name. -/
lemma fileName?_foldl_child (root : List α) (hne : steps ≠ []) :
    fileName? (steps.foldl child root) = steps.getLast? := by
  have hlast : (components (steps.foldl child root)).getLast? =
      ((steps.map .name).getLast? : Option (Component α)) := by
    rw [components_foldl_child hnames, List.getLast?_append_of_ne_nil]
    simpa using hne
  rw [fileName?, hlast, List.getLast?_map]
  cases steps.getLast? <;> rfl

end Children

/-! ## The order of paths -/

namespace Component

/-- The place of a component before all names, or that of the names. -/
def rank : Component α → Nat
  | root => 0
  | current => 1
  | parent => 2
  | name _ => 3

variable [LT α]

/-- Names come last and are compared letter by letter. -/
def Before (a b : Component α) : Prop :=
  a.rank < b.rank ∨ ∃ s t, a = name s ∧ b = name t ∧ s < t

instance [Std.Asymm fun a b : α => a < b] : Std.Asymm (Before (α := α)) where
  asymm a b := by
    rintro (hlt | ⟨s, t, rfl, rfl, hlt⟩) (hgt | ⟨s', t', hb, ha, hgt⟩)
    · omega
    · rw [ha, hb] at hlt
      exact Nat.lt_irrefl _ hlt
    · exact Nat.lt_irrefl _ hgt
    · obtain rfl := Component.name.inj hb
      obtain rfl := Component.name.inj ha
      exact List.lt_asymm hlt hgt

end Component

section Order

variable [LT α]

/-- A path comes before another at the first component that differs. -/
def Precedes (p q : List α) : Prop :=
  List.Lex Component.Before (components p) (components q)

omit [DecidableEq α] [Letter α] in
/-- Names that come before others do so as components, behind the same ones. -/
lemma lex_before_of_lex {names others : List (List α)} (h : List.Lex (· < ·) names others)
    (front : List (Component α)) :
    List.Lex Component.Before (front ++ names.map .name) (front ++ others.map .name) := by
  refine List.Lex.append_left _ ?_ front
  induction h with
  | nil => exact .nil
  | cons _ ih => exact .cons ih
  | rel hlt => exact .rel (.inr ⟨_, _, rfl, rfl, hlt⟩)

variable [Std.Asymm fun a b : α => a < b]

/-- Of two paths at most one comes before the other. -/
lemma Precedes.asymm {p q : List α} (h : Precedes p q) : ¬Precedes q p :=
  Std.Asymm.asymm (r := List.Lex Component.Before) _ _ h

lemma Precedes.ne {p q : List α} (h : Precedes p q) : p ≠ q := by
  rintro rfl
  exact h.asymm h

end Order

end Path

namespace FilePath

open Text

/-- A file name that is shown holds no slash. -/
theorem not_mem_fileName (path : FilePath) : '/' ∉ fileName path := by
  unfold fileName
  cases h : Path.fileName? path with
  | none => exact List.not_mem_nil
  | some name =>
    intro hmem
    have hslash := utf8EncodeChar_subset_of_mem_shown (by decide) hmem List.mem_cons_self
    exact not_mem_of_mem_splitOn (Path.mem_splitOn_of_fileName? h).1 hslash

end FilePath

end ScriptFlow
