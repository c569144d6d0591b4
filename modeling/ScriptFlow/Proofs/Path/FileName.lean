import Mathlib.Data.List.Induction
import ScriptFlow.Proofs.Path

/-!
# The last step of a path

A path ends in a name if the name stands at its end, alone or behind a slash, or if only
slashes and points between slashes follow it.  The file name of a path is the name that the
path ends in (`fileName?_eq_some_iff`), so a path that is empty, has nothing but slashes and
points, or ends in two points has none.

Nothing that stands before the last step makes a difference, and that is what the rules of
`EndsIn` say: they take a path apart from its end, slash by slash, as an induction on its
pieces does.
-/

namespace ScriptFlow

namespace Path

open Letter Text

/-- A path ends in a name that stands alone or behind a slash.  Slashes at the end change
nothing, and neither do points behind slashes. -/
inductive EndsIn (name : Text) : Path → Prop
  | alone (hname : IsFileName name) : EndsIn name name
  | inFolder (folder : Path) (hname : IsFileName name) : EndsIn name (folder ++ [slash] ++ name)
  | slash {path : Path} (h : EndsIn name path) : EndsIn name (path ++ [slash])
  | point {path : Path} (h : EndsIn name path) : EndsIn name (path ++ [slash] ++ [point])

/-- The last component is found among the components. -/
lemma fileName?_eq_some_iff_getLast? {path : Path} {name : Text} :
    fileName? path = some name ↔ (components path).getLast? = some (.name name) := by
  unfold fileName?
  split
  next text hlast => rw [hlast, Option.some_inj, Option.some_inj, Component.name.injEq]
  next hnot =>
    constructor
    · intro h
      cases h
    · exact fun h => absurd h (hnot name)

/-- Behind a slash a piece that stands for something is the last component. -/
lemma fileName?_slash_piece {piece : Text} (hslash : slash ∉ piece) {c : Component Char}
    (hpiece : componentOf? piece = some c) (front : Text) {name : Text} :
    fileName? (front ++ [slash] ++ piece) = some name ↔ c = .name name := by
  rw [fileName?_eq_some_iff_getLast?, components_slash_piece hslash, hpiece, Option.toList_some,
    List.getLast?_concat, Option.some_inj]

/-- Behind a slash a piece that stands for nothing does not change the last component. -/
lemma fileName?_slash_nothing {piece : Text} (hslash : slash ∉ piece)
    (hpiece : componentOf? piece = none) {front : Text} (hne : front ≠ []) :
    fileName? (front ++ [slash] ++ piece) = fileName? front := by
  unfold fileName?
  rw [components_slash_piece hslash, hpiece, Option.toList_none, List.append_nil,
    components_slash hne]

lemma EndsIn.ne_nil {path : Path} {name : Text} (h : EndsIn name path) : path ≠ [] := by
  cases h with
  | alone hname => exact hname.ne_nil
  | inFolder folder hname => simp
  | slash h => simp
  | point h => simp

lemma EndsIn.isFileName {path : Path} {name : Text} (h : EndsIn name path) : IsFileName name := by
  induction h with
  | alone hname => exact hname
  | inFolder folder hname => exact hname
  | slash _ ih => exact ih
  | point _ ih => exact ih

/-- The file name of a path is the name that it ends in. -/
lemma EndsIn.fileName?_eq {path : Path} {name : Text} (h : EndsIn name path) :
    fileName? path = some name := by
  induction h with
  | alone hname =>
    rw [fileName?_eq_some_iff_getLast?, components_name hname]
    rfl
  | inFolder folder hname =>
    exact (fileName?_slash_piece hname.noSlash hname.componentOf?_eq folder).mpr rfl
  | @slash path h ih =>
    have hnothing : fileName? (path ++ [Letter.slash] ++ []) = fileName? path :=
      fileName?_slash_nothing List.not_mem_nil rfl h.ne_nil
    rw [List.append_nil] at hnothing
    rw [hnothing, ih]
  | @point path h ih =>
    rw [fileName?_slash_nothing (by decide) rfl h.ne_nil, ih]

/-- Slashes and points alone have no file name. -/
lemma fileName?_slash_nothing_nil {piece : Text} (hslash : slash ∉ piece)
    (hpiece : componentOf? piece = none) : fileName? ([slash] ++ piece) = none := by
  have hcomponents := components_slash_piece hslash []
  rw [List.nil_append, hpiece, Option.toList_none, List.append_nil] at hcomponents
  unfold fileName?
  rw [hcomponents]
  rfl

/-- A file name is a name. -/
lemma isFileName_of_fileName? {path : Path} {name : Text} (h : fileName? path = some name) :
    IsFileName name := by
  have hmem := List.mem_of_getLast? (fileName?_eq_some_iff_getLast?.mp h)
  obtain ⟨hpiece, hname⟩ := componentOf?_of_mem_components hmem
  exact ((componentOf?_eq_name_iff (not_mem_of_mem_splitOn hpiece)).mp hname).2

/-- A piece that stands for nothing is empty or a point. -/
lemma eq_of_componentOf?_eq_none {piece : Text} (h : componentOf? piece = none) :
    piece = [] ∨ piece = [point] := by
  unfold componentOf? at h
  split at h
  next hnothing =>
    rw [Bool.or_eq_true, List.isEmpty_iff, beq_iff_eq] at hnothing
    exact hnothing
  next =>
    split at h <;> cases h

/-- A path ends in its file name, by what its last piece stands for. -/
lemma endsIn_slash_piece {front piece name : Text} (hslash : slash ∉ piece)
    (ih : fileName? front = some name → EndsIn name front)
    (h : fileName? (front ++ [slash] ++ piece) = some name) :
    EndsIn name (front ++ [slash] ++ piece) := by
  cases hpiece : componentOf? piece with
  | some c =>
    have hc : c = .name name := (fileName?_slash_piece hslash hpiece front).mp h
    rw [hc, componentOf?_eq_name_iff hslash] at hpiece
    obtain ⟨rfl, hname⟩ := hpiece
    exact .inFolder front hname
  | none =>
    by_cases hnil : front = []
    · rw [hnil, List.nil_append, fileName?_slash_nothing_nil hslash hpiece] at h
      cases h
    · rw [fileName?_slash_nothing hslash hpiece hnil] at h
      rcases eq_of_componentOf?_eq_none hpiece with rfl | rfl
      · rw [List.append_nil]
        exact .slash (ih h)
      · exact .point (ih h)

/-- A path ends in its file name. -/
lemma endsIn_of_fileName? {path : Path} {name : Text} (h : fileName? path = some name) :
    EndsIn name path := by
  -- by induction on the pieces of the path, of which the last comes off
  have hjoin : ∀ pieces : List Text, (∀ piece ∈ pieces, slash ∉ piece) →
      fileName? (join [slash] pieces) = some name → EndsIn name (join [slash] pieces) := by
    intro pieces
    induction pieces using List.reverseRecOn with
    | nil =>
      intro _ h
      cases h
    | append_singleton pieces last ih =>
      intro hslash h
      have hlast : slash ∉ last := hslash last (by simp)
      by_cases hnil : pieces = []
      · rw [hnil, List.nil_append, join, List.intercalate_singleton] at h ⊢
        obtain rfl := fileName?_eq_self hlast h
        exact .alone (isFileName_of_fileName? h)
      · have hone : join [slash] [last] = last := List.intercalate_singleton
        rw [join_append _ hnil (List.cons_ne_nil last []), hone] at h ⊢
        have hothers := ih fun piece hpiece => hslash piece (List.mem_append_left _ hpiece)
        exact endsIn_slash_piece hlast hothers h
  have hpath : join [slash] (path.splitOn slash) = path := List.intercalate_splitOn slash
  have hends := hjoin (path.splitOn slash) fun piece hpiece => not_mem_of_mem_splitOn hpiece
  rw [hpath] at hends
  exact hends h

/-- The file name of a path is the name that the path ends in. -/
theorem fileName?_eq_some_iff {path : Path} {name : Text} :
    fileName? path = some name ↔ EndsIn name path :=
  ⟨endsIn_of_fileName?, EndsIn.fileName?_eq⟩

/-- A path ends in at most one name. -/
theorem EndsIn.unique {path : Path} {first second : Text} (hfirst : EndsIn first path)
    (hsecond : EndsIn second path) : first = second :=
  Option.some.inj (hfirst.fileName?_eq.symm.trans hsecond.fileName?_eq)

end Path

end ScriptFlow
