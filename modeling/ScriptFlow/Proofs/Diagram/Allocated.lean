import ScriptFlow.Proofs.Diagram.Ident

/-!
# Identifiers handed out one by one

Texts come one after the other, and each gets its identifier from what was handed out to the
texts before it.  One step is a search that ends: it gives the identifier for the text if it was
not handed out, and otherwise the same with the least number that was not handed out
(`Ident.receives_fresh`).  An identifier with a number may be just what a later text asks for,
and then this one is told apart by a number of its own.

The identifier at a place is the result of such a step from the identifiers at the places before
it (`Ident.getElem?_allocate`), so what holds of one step holds all along a run.
-/

namespace ScriptFlow

open Text

namespace Ident

/-- How a text comes by its identifier when some were handed out before. -/
structure Receives (earlier : List Text) (t id : Text) : Prop where
  /-- The loop that looks for an identifier ends, and with this one only. -/
  search : ∀ found, Fresh.Searches earlier (ofText t) (ofText t) 2 found ↔ found = id
  own : ofText t ∉ earlier → id = ofText t
  /-- The number is the least from 2 on that is free.  It is at most one more than the count of
  what was handed out, so a counter that can hold this does not overflow. -/
  numbered : ofText t ∈ earlier → ∃ k, id = Fresh.numbered (ofText t) k ∧
    IsLeast {k | 2 ≤ k ∧ Fresh.numbered (ofText t) k ∉ earlier} k ∧ k ≤ earlier.length + 1

/-- A fresh identifier is what a text receives. -/
theorem receives_fresh (earlier : List Text) (t : Text) :
    Receives earlier t (fresh earlier t) where
  search found := by
    have hends := Fresh.searches_name earlier (ofText t)
    constructor
    · intro hfound
      exact hfound.unique hends
    · rintro rfl
      exact hends
  own hfree := by
    rcases (Fresh.isFirst_name earlier (ofText t)).least with heq | ⟨htaken, -⟩
    · exact heq
    · exact absurd htaken hfree
  numbered htaken := (Fresh.isFirst_name earlier (ofText t)).exists_isLeast htaken

/-- A fresh identifier does not depend on the order of those that are taken. -/
lemma fresh_congr {taken others : List Text} (hsame : ∀ other, other ∈ others ↔ other ∈ taken)
    (t : Text) : fresh others t = fresh taken t :=
  Fresh.name_congr fun other _ => hsame other

/-- The identifier at a place is fresh among those at the places before it. -/
lemma getElem?_allocate {taken texts : List Text} {i : Nat} {t : Text} (h : texts[i]? = some t) :
    (allocate taken texts)[i]? = some (fresh ((allocate taken texts).take i ++ taken) t) := by
  induction texts generalizing taken i with
  | nil => simp at h
  | cons first rest ih =>
    rw [allocate]
    cases i with
    | zero =>
      obtain rfl := Option.some.inj h
      rfl
    | succ i =>
      rw [List.getElem?_cons_succ] at h ⊢
      rw [ih h, List.take_succ_cons]
      exact congrArg some (fresh_congr (fun _ => List.perm_middle.mem_iff) t)

/-- The identifiers that are handed out to texts one by one. -/
structure HandsOut (texts ids : List Text) : Prop where
  length_eq : ids.length = texts.length
  /-- Each text receives its identifier from those that were handed out before. -/
  receives : ∀ i t id, texts[i]? = some t → ids[i]? = some id → Receives (ids.take i) t id
  nodup : ids.Nodup
  isIdentifier : ∀ id ∈ ids, isIdentifier id = true
  /-- No identifier is a word of the diagram language in any letter case. -/
  noWord : ∀ id ∈ ids, ∀ word ∈ reservedWords, sameLetters word id = false
  /-- An identifier that was handed out is its own identifier. -/
  fixed : ∀ id ∈ ids, ofText id = id

/-- Every text gets an identifier of its own, which is the identifier for the text unless that
was handed out before, and then has the least number that tells it apart.  Making an identifier
out of one changes nothing. -/
theorem handsOut_allocate (texts : List Text) :
    HandsOut texts (allocate [] texts) ∧ ∀ t, ofText (ofText t) = ofText t := by
  refine ⟨{
    length_eq := length_allocate [] texts
    receives := fun i t id ht hid => ?_
    nodup := (nodup_allocate [] texts).1
    isIdentifier := fun id hid => isIdentifier_of_mem_allocate hid
    noWord := fun id hid word hword => ?_
    fixed := fun id hid => ?_ }, fun t => ?_⟩
  · rw [getElem?_allocate ht, List.append_nil] at hid
    obtain rfl := Option.some.inj hid
    exact receives_fresh _ t
  · rw [Bool.eq_false_iff]
    intro hsame
    have hreserved := isReserved_eq_true_iff.mpr ⟨word, hword, hsame⟩
    rw [isReserved_of_mem_allocate hid] at hreserved
    exact Bool.noConfusion hreserved
  · exact ofText_eq_self (isIdentifier_of_mem_allocate hid) (isReserved_of_mem_allocate hid)
  · exact ofText_eq_self (isIdentifier_ofText t) (isReserved_ofText t)

/-- A text that asks for an identifier with a number finds it taken. -/
example : allocate [] ["a-b", "a.b", "a_b_2", "End", "a b"] =
    ["a_b", "a_b_2", "a_b_2_2", "n_End", "a_b_3"].map String.toList := by
  decide

end Ident

end ScriptFlow
