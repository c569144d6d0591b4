import Mathlib.Data.List.Basic
import ScriptFlow.Pattern.Matcher

/-!
# What groups capture

The text of a group is a part of the text that is searched, and it holds no character
that the pattern inside the group cannot pass (`groupText?_of_mem_matchesIn`).  Which
characters these are is read off the pattern (`avoids`, `groupsAvoid`), so that it can
be decided for a given one.

Both facts are about the positions that a pattern leads to (`Reaches`).  They relate two
positions in a way that is reflexive and transitive, so repetitions keep them.
-/

namespace ScriptFlow

namespace Pattern

/-- Whether a pattern never passes a character. -/
def avoids (c : Char) : Pattern → Bool
  | empty => true
  | chars set => !set.has c
  | assert _ => true
  | seq p q => p.avoids c && q.avoids c
  | alt p q => p.avoids c && q.avoids c
  | repeated p _ _ _ => p.avoids c
  | group _ _ p => p.avoids c

/-- Whether no group of a pattern ever holds a character. -/
def groupsAvoid (c : Char) : Pattern → Bool
  | empty => true
  | chars _ => true
  | assert _ => true
  | seq p q => p.groupsAvoid c && q.groupsAvoid c
  | alt p q => p.groupsAvoid c && q.groupsAvoid c
  | repeated p _ _ _ => p.groupsAvoid c
  | group _ _ p => p.avoids c && p.groupsAvoid c

/-! ## Repetitions -/

section Repetitions

variable {R : Cursor → Cursor → Prop} (hrefl : ∀ here, R here here)
  (htrans : ∀ {a b c}, R a b → R b c → R a c) {step : Cursor → List Cursor}
  (hstep : ∀ here, ∀ next ∈ step here, R here next)

include hrefl htrans hstep

/-- A number of copies lead where a chain of steps leads. -/
lemma rel_of_mem_copies {n : Nat} {here stop : Cursor} (h : stop ∈ copies step n here) :
    R here stop := by
  induction n generalizing here with
  | zero =>
    rw [List.mem_singleton.mp h]
    exact hrefl here
  | succ n ih =>
    obtain ⟨next, hnext, hstop⟩ := List.mem_flatMap.mp h
    exact htrans (hstep here next hnext) (ih hstop)

/-- At most a number of copies lead where a chain of steps leads. -/
lemma rel_of_mem_upTo {greedy : Bool} {n : Nat} {here stop : Cursor}
    (h : stop ∈ upTo step greedy n here) : R here stop := by
  induction n generalizing here with
  | zero =>
    rw [List.mem_singleton.mp h]
    exact hrefl here
  | succ n ih =>
    have hcases : stop = here ∨
        stop ∈ ((step here).filter fun next => here.passed < next.passed).flatMap
          (upTo step greedy n) := by
      rw [upTo] at h
      split at h
      · exact (List.mem_append.mp h).symm.imp_left List.mem_singleton.mp
      · exact List.mem_cons.mp h
    rcases hcases with rfl | h
    · exact hrefl stop
    · obtain ⟨next, hnext, hstop⟩ := List.mem_flatMap.mp h
      exact htrans (hstep here next (List.mem_filter.mp hnext).1) (ih hstop)

end Repetitions

/-! ## What is passed and captured -/

/-- A position lies behind another one, and the groups that are captured on the way are
parts of the text behind the first.  The text between the two lacks a character, and so do
the groups, if that is asked for. -/
structure Reaches (c : Char) (avoiding groupsAvoiding : Bool) (here stop : Cursor) : Prop where
  passed : ∃ t, here.rest = t ++ stop.rest ∧ stop.passed = here.passed + t.length ∧
    (avoiding = true → c ∉ t)
  captured : ∀ e ∈ stop.captured, e ∈ here.captured ∨
    (e.text ⊆ here.rest ∧ (groupsAvoiding = true → c ∉ e.text))

namespace Reaches

variable {c : Char} {avoiding groupsAvoiding : Bool}

lemma refl (here : Cursor) : Reaches c avoiding groupsAvoiding here here :=
  ⟨⟨[], rfl, rfl, fun _ => List.not_mem_nil⟩, fun _ he => .inl he⟩

/-- Passing one text and then another one is passing both. -/
lemma trans {a b d : Cursor} (hab : Reaches c avoiding groupsAvoiding a b)
    (hbd : Reaches c avoiding groupsAvoiding b d) : Reaches c avoiding groupsAvoiding a d := by
  obtain ⟨⟨s, hs, hscount, hsavoid⟩, hscaptured⟩ := hab
  obtain ⟨⟨t, ht, htcount, htavoid⟩, htcaptured⟩ := hbd
  refine ⟨⟨s ++ t, by rw [hs, ht, List.append_assoc], ?_, fun havoid => ?_⟩, fun e he => ?_⟩
  · rw [htcount, hscount, List.length_append, Nat.add_assoc]
  · rw [List.mem_append, not_or]
    exact ⟨hsavoid havoid, htavoid havoid⟩
  · rcases htcaptured e he with he | ⟨htext, havoid⟩
    · exact hscaptured e he
    · refine .inr ⟨fun _ hd => ?_, havoid⟩
      rw [hs]
      exact List.mem_append_right s (htext hd)

/-- Less can be asked for. -/
lemma mono {weaker groupsWeaker : Bool} {here stop : Cursor}
    (h : Reaches c avoiding groupsAvoiding here stop) (hweaker : weaker = true → avoiding = true)
    (hgroups : groupsWeaker = true → groupsAvoiding = true) :
    Reaches c weaker groupsWeaker here stop := by
  obtain ⟨⟨t, ht, hcount, havoid⟩, hcaptured⟩ := h
  refine ⟨⟨t, ht, hcount, fun hw => havoid (hweaker hw)⟩, fun e he => ?_⟩
  exact (hcaptured e he).imp_right fun ⟨htext, hnot⟩ => ⟨htext, fun hw => hnot (hgroups hw)⟩

/-- A way through the first of two patterns avoids what both avoid. -/
lemma and_left {other groupsOther : Bool} {here stop : Cursor}
    (h : Reaches c avoiding groupsAvoiding here stop) :
    Reaches c (avoiding && other) (groupsAvoiding && groupsOther) here stop :=
  h.mono (fun hboth => (Bool.and_eq_true_iff.mp hboth).1)
    fun hboth => (Bool.and_eq_true_iff.mp hboth).1

/-- A way through the second of two patterns avoids what both avoid. -/
lemma and_right {other groupsOther : Bool} {here stop : Cursor}
    (h : Reaches c avoiding groupsAvoiding here stop) :
    Reaches c (other && avoiding) (groupsOther && groupsAvoiding) here stop :=
  h.mono (fun hboth => (Bool.and_eq_true_iff.mp hboth).2)
    fun hboth => (Bool.and_eq_true_iff.mp hboth).2

end Reaches

/-- A match passes no character that its pattern avoids, and its groups hold none that they
avoid. -/
theorem reaches_of_mem_results (c : Char) {p : Pattern} {here stop : Cursor}
    (h : stop ∈ results p here) : Reaches c (p.avoids c) (p.groupsAvoid c) here stop := by
  induction p generalizing here stop with
  | empty =>
    rw [List.mem_singleton.mp h]
    exact .refl here
  | chars set =>
    rw [results, Cursor.pass] at h
    split at h
    · exact absurd h List.not_mem_nil
    next d rest hrest =>
      split at h
      next hhas =>
        rw [List.mem_singleton.mp h]
        refine ⟨⟨[d], hrest, rfl, fun havoid hmem => ?_⟩, fun e he => .inl he⟩
        rw [List.mem_singleton.mp hmem, avoids, hhas] at havoid
        exact Bool.noConfusion havoid
      next => exact absurd h List.not_mem_nil
  | assert condition =>
    rw [results] at h
    split at h
    · rw [List.mem_singleton.mp h]
      exact .refl here
    · exact absurd h List.not_mem_nil
  | seq p q ihp ihq =>
    obtain ⟨next, hnext, hstop⟩ := List.mem_flatMap.mp h
    exact (ihp hnext).and_left.trans (ihq hstop).and_right
  | alt p q ihp ihq =>
    rcases List.mem_append.mp h with h | h
    · exact (ihp h).and_left
    · exact (ihq h).and_right
  | repeated p min max greedy ih =>
    obtain ⟨next, hnext, hstop⟩ := List.mem_flatMap.mp h
    have hrequired := rel_of_mem_copies Reaches.refl Reaches.trans (fun here next => ih) hnext
    exact hrequired.trans
      (rel_of_mem_upTo Reaches.refl Reaches.trans (fun here next => ih) hstop)
  | group index name p ih =>
    obtain ⟨inner, hinner, rfl⟩ := List.mem_map.mp h
    obtain ⟨⟨t, ht, hcount, havoid⟩, hcaptured⟩ := ih hinner
    refine ⟨⟨t, ht, hcount, havoid⟩, fun e he => ?_⟩
    rcases List.mem_cons.mp he with rfl | he
    · -- the text of the group itself is the one that was passed
      have htake : here.rest.take (inner.passed - here.passed) = t := by
        rw [hcount, Nat.add_sub_cancel_left, ht, List.take_left]
      dsimp only
      rw [htake]
      refine .inr ⟨fun d hd => ?_, fun hboth => havoid (Bool.and_eq_true_iff.mp hboth).1⟩
      rw [ht]
      exact List.mem_append_left _ hd
    · exact (hcaptured e he).imp_right fun ⟨htext, hinside⟩ =>
        ⟨htext, fun hboth => hinside (Bool.and_eq_true_iff.mp hboth).2⟩

/-! ## The matches in a text -/

/-- A match that is found starts somewhere in the text. -/
lemma exists_mem_results_of_mem_matchesFrom {p : Pattern} {skip : Nat} {before : Option Char}
    {t : Text} {found : Cursor} (h : found ∈ matchesFrom p skip before t) :
    ∃ start rest, rest ⊆ t ∧ found ∈ results p { before := start, rest } := by
  have hhere : ∀ {before : Option Char} {t : Text}, matchAt? p before t = some found →
      found ∈ results p { before, rest := t } := fun hmatch => List.mem_of_head? hmatch
  induction t generalizing skip before with
  | nil =>
    cases skip with
    | zero =>
      rw [matchesFrom, Option.mem_toList] at h
      exact ⟨before, [], fun _ h => h, hhere h⟩
    | succ skip => exact absurd h List.not_mem_nil
  | cons c rest ih =>
    have hlater : ∀ {skip}, found ∈ matchesFrom p skip (some c) rest →
        ∃ start tail, tail ⊆ c :: rest ∧ found ∈ results p { before := start, rest := tail } := by
      intro skip h
      obtain ⟨start, tail, htail, hfound⟩ := ih h
      exact ⟨start, tail, fun _ hd => List.mem_cons_of_mem c (htail hd), hfound⟩
    cases skip with
    | succ skip => exact hlater h
    | zero =>
      rw [matchesFrom] at h
      split at h
      next first hmatch =>
        rcases List.mem_cons.mp h with rfl | h
        · exact ⟨before, c :: rest, fun _ h => h, hhere hmatch⟩
        · exact hlater h
      next => exact hlater h

/-- The text of a group is a part of the text that is searched, without the characters
that the groups of the pattern avoid. -/
theorem groupText?_of_mem_matchesIn (c : Char) {p : Pattern} {t : Text} {found : Cursor}
    (h : found ∈ matchesIn p t) {ref : GroupRef} {text : Text}
    (htext : found.groupText? ref = some text) :
    text ⊆ t ∧ (p.groupsAvoid c = true → c ∉ text) := by
  obtain ⟨start, rest, hrest, hfound⟩ := exists_mem_results_of_mem_matchesFrom h
  obtain ⟨e, he, rfl⟩ := Option.map_eq_some_iff.mp htext
  have hcaptured := (reaches_of_mem_results c hfound).captured e (List.mem_of_find?_eq_some he)
  rcases hcaptured with hnone | ⟨hpart, havoid⟩
  · exact absurd hnone List.not_mem_nil
  · exact ⟨fun _ hd => hrest (hpart hd), havoid⟩

end Pattern

end ScriptFlow
