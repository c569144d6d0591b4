import ScriptFlow.Annotation.Draft
import ScriptFlow.Proofs.KeyMap

/-!
# Shadowed properties

Of several properties with one key the last decides, wherever the others stand.  Looking up a
key, asking whether it occurs and collecting the extra properties all agree on this with the
map of the properties, so nothing but this map and the line of an annotation decides which
draft it becomes (`build_eq_of_toMap_eq`).
-/

namespace ScriptFlow

namespace Property

/-- Looking up a key finds its value in the map. -/
lemma lookup?_eq_get?_toMap (key : Text) (properties : List Property) :
    lookup? key properties = (toMap properties).get? key := by
  rw [toMap, KeyMap.get?_ofList, ← List.map_reverse, List.find?_map, Option.map_map, lookup?]
  rfl

/-- A key occurs if it has a value in the map. -/
lemma hasKey_eq_isSome_get?_toMap (key : Text) (properties : List Property) :
    hasKey key properties = ((toMap properties).get? key).isSome := by
  rw [← lookup?_eq_get?_toMap, lookup?, Option.isSome_map, List.isSome_find?, List.any_reverse,
    hasKey]

end Property

namespace Draft

open Property

/-- The extra properties are the entries of the map that are kept. -/
lemma extra_eq_filterKeys (properties : List Property) :
    extra properties = (toMap properties).filterKeys isExtraKey := by
  rw [toMap, ← KeyMap.ofList_filter, List.filter_map]
  rfl

/-- A key is kept if it fills no column. -/
lemma isExtraKey_iff {key : Text} :
    isExtraKey key = true ↔ key ∉ canonicalKeys ∧ key ∉ reservedKeys := by
  simp [isExtraKey]

/-- The map of the properties of an annotation decides its draft, together with its line. -/
theorem build_eq_of_toMap_eq (script : ScriptRef) {a b : Annotation} (hline : a.line = b.line)
    (hmap : toMap a.properties = toMap b.properties) :
    build script a = build script b ∧
      (∀ key, lookup? key a.properties = (toMap a.properties).get? key ∧
        hasKey key a.properties = ((toMap a.properties).get? key).isSome) ∧
      (build script a).node.extra.toList = (toMap a.properties).toList.filter fun e =>
        e.1 ∉ canonicalKeys ∧ e.1 ∉ reservedKeys := by
  refine ⟨?_, fun key => ⟨lookup?_eq_get?_toMap key _, hasKey_eq_isSome_get?_toMap key _⟩, ?_⟩
  · simp only [build, id?, label, kind, files, lookup?_eq_get?_toMap, extra_eq_filterKeys, hmap,
      hline]
  · have hextra : (build script a).node.extra = (toMap a.properties).filterKeys isExtraKey :=
      extra_eq_filterKeys a.properties
    rw [hextra, KeyMap.toList, KeyMap.filterKeys]
    refine List.filter_congr fun e _ => ?_
    rw [Bool.eq_iff_iff, isExtraKey_iff, decide_eq_true_iff]

/-- An annotation with a reserved key, in which two properties are shadowed. -/
def shadowingAnnotation : Annotation where
  line := 3
  properties := [⟨"label", "Draft"⟩, ⟨"note", "1"⟩, ⟨"id", "load"⟩, ⟨"origin", "mine"⟩,
    ⟨"label", "Load"⟩, ⟨"output", "x.csv"⟩, ⟨"note", "2"⟩]

/-- The properties that decide, in another order. -/
def decidingAnnotation : Annotation where
  line := 3
  properties := [⟨"origin", "mine"⟩, ⟨"output", "x.csv"⟩, ⟨"note", "2"⟩, ⟨"label", "Load"⟩,
    ⟨"id", "load"⟩]

/-- Shadowed properties make no difference to a draft, whatever its script is called. -/
theorem build_eq_of_toMap_eq_shadowing :
    shadowingAnnotation.line = decidingAnnotation.line ∧
      toMap shadowingAnnotation.properties = toMap decidingAnnotation.properties ∧
      build ⟨"load", "src/load.R", .r⟩ shadowingAnnotation =
        build ⟨"load", "src/load.R", .r⟩ decidingAnnotation ∧
      (build ⟨"load", "src/load.R", .r⟩ shadowingAnnotation).node.extra.toList =
        [("note".toList, "2".toList)] := by
  have hline : shadowingAnnotation.line = decidingAnnotation.line := rfl
  have hmap : toMap shadowingAnnotation.properties = toMap decidingAnnotation.properties := by
    decide
  obtain ⟨hsame, -, hextra⟩ := build_eq_of_toMap_eq ⟨"load", "src/load.R", .r⟩ hline hmap
  refine ⟨hline, hmap, hsame, hextra.trans ?_⟩
  decide

end Draft

end ScriptFlow
