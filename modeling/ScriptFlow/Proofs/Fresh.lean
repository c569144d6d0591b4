import Mathlib.Data.List.Nodup
import Mathlib.Data.List.Perm.Subperm
import Mathlib.Order.Bounds.Defs
import ScriptFlow.Fresh
import ScriptFlow.Proofs.Text.Identifier

/-!
# Fresh names

A fresh name is the wanted name or the wanted name with a number, so it has the
properties of the wanted name that a number at the end does not break.

It is never one of the names taken (`not_mem_name`).  Different numbers give
different names, so the names taken cannot hold all the candidates of a search
that tries one more of them than there are names taken.  For the same reason the
search needs no bound: as a loop it ends, with this name and no other
(`searches_name`, `Searches.unique`).

Names that are no candidates do not matter: taken or not, the fresh name is the same
(`name_congr`).
-/

namespace ScriptFlow

open Text

namespace Fresh

/-! ## The search -/

/-- Names with different numbers differ. -/
lemma numbered_injective (base : Text) : Function.Injective (numbered base) := by
  intro i j h
  have hdigits : ofNat i = ofNat j := List.append_cancel_left h
  have hread : ∀ n, Nat.ofDigitChars 10 (ofNat n) 0 = n := fun n => Nat.ofDigitChars_ten_toDigits
  rw [← hread i, hdigits, hread j]

/-- The search gives the name with the first number that is free, or with the last
number it tries. -/
lemma exists_search_eq (taken : List Text) (base : Text) (steps k : Nat) :
    ∃ j, k ≤ j ∧ search taken base steps k = numbered base j ∧
      (∀ i, k ≤ i → i < j → numbered base i ∈ taken) ∧
      (numbered base j ∈ taken → j = k + steps) := by
  induction steps generalizing k with
  | zero => exact ⟨k, le_rfl, rfl, fun i hlow hhigh => by omega, fun _ => rfl⟩
  | succ steps ih =>
    rw [search]
    split
    next htaken =>
      obtain ⟨j, hlow, heq, hbefore, hlast⟩ := ih (k + 1)
      refine ⟨j, by omega, heq, fun i hi hij => ?_, fun hj => ?_⟩
      · rcases Nat.eq_or_lt_of_le hi with rfl | hi
        · exact List.contains_iff_mem.mp htaken
        · exact hbefore i hi hij
      · have hlast := hlast hj
        omega
    next hfree =>
      refine ⟨k, le_rfl, rfl, fun i hlow hhigh => by omega, fun hk => ?_⟩
      exact absurd (List.contains_iff_mem.mpr hk) hfree

/-- Names with different numbers that are all taken are no more than the names taken. -/
lemma le_length_of_numbered_mem {taken : List Text} {base : Text} {k count : Nat}
    (h : ∀ i, k ≤ i → i < k + count → numbered base i ∈ taken) : count ≤ taken.length := by
  have hsubset : (List.range' k count).map (numbered base) ⊆ taken := by
    intro name hname
    obtain ⟨i, hi, rfl⟩ := List.mem_map.mp hname
    obtain ⟨hlow, hhigh⟩ := List.mem_range'_1.mp hi
    exact h i hlow hhigh
  have hnodup : ((List.range' k count).map (numbered base)).Nodup :=
    List.Nodup.map (numbered_injective base) List.nodup_range'
  have hlength := (hnodup.subperm hsubset).length_le
  rwa [List.length_map, List.length_range'] at hlength

/-- A search of as many steps as there are names taken finds a free one. -/
lemma not_mem_search {taken : List Text} {steps : Nat} (hsteps : taken.length ≤ steps)
    (base : Text) (k : Nat) : search taken base steps k ∉ taken := by
  obtain ⟨j, -, heq, hbefore, hlast⟩ := exists_search_eq taken base steps k
  rw [heq]
  intro hj
  obtain rfl := hlast hj
  -- all candidates would be taken, and there are too many of them
  have hall : ∀ i, k ≤ i → i < k + (steps + 1) → numbered base i ∈ taken := by
    intro i hlow hhigh
    rcases Nat.eq_or_lt_of_le (Nat.le_of_lt_succ hhigh) with rfl | hij
    · exact hj
    · exact hbefore i hlow hij
  have hlength := le_length_of_numbered_mem hall
  omega

/-- A fresh name is not taken. -/
theorem not_mem_name (taken : List Text) (base : Text) : name taken base ∉ taken := by
  unfold name
  split
  · exact not_mem_search le_rfl base 2
  next hfree => exact fun hmem => hfree (List.contains_iff_mem.mpr hmem)

/-! ## The first free name -/

/-- A name is the first that is free: the wanted one, or the one with the least number from
2 on if the wanted one is taken. -/
structure IsFirst (taken : List Text) (base name : Text) : Prop where
  free : name ∉ taken
  least : name = base ∨ base ∈ taken ∧ ∃ k, 2 ≤ k ∧ name = numbered base k ∧
    ∀ i, 2 ≤ i → i < k → numbered base i ∈ taken

/-- A fresh name is the first that is free. -/
theorem isFirst_name (taken : List Text) (base : Text) :
    IsFirst taken base (name taken base) where
  free := not_mem_name taken base
  least := by
    unfold name
    split
    next htaken =>
      obtain ⟨k, hlow, heq, hbefore, -⟩ := exists_search_eq taken base taken.length 2
      exact .inr ⟨List.contains_iff_mem.mp htaken, k, hlow, heq, hbefore⟩
    next => exact .inl rfl

/-- There is one first free name. -/
theorem IsFirst.unique {taken : List Text} {base first second : Text}
    (hfirst : IsFirst taken base first) (hsecond : IsFirst taken base second) :
    first = second := by
  rcases hfirst.least with rfl | ⟨hbase, j, hj, rfl, hbefore⟩
  · rcases hsecond.least with rfl | ⟨hbase, -⟩
    · rfl
    · exact absurd hbase hfirst.free
  · rcases hsecond.least with rfl | ⟨-, k, hk, rfl, hbefore'⟩
    · exact absurd hbase hsecond.free
    · rcases Nat.lt_trichotomy j k with hlt | rfl | hgt
      · exact absurd (hbefore' j hj hlt) hfirst.free
      · rfl
      · exact absurd (hbefore k hk hgt) hsecond.free

/-! ## The search as a loop -/

/-- The search as a loop over candidates: one that is free ends it, and after one that is taken
comes the wanted name with the number that is next. -/
inductive Searches (taken : List Text) (base : Text) : Text → Nat → Text → Prop
  | done {candidate : Text} {k : Nat} (hfree : candidate ∉ taken) :
      Searches taken base candidate k candidate
  | next {candidate found : Text} {k : Nat} (htaken : candidate ∈ taken)
      (hrest : Searches taken base (numbered base k) (k + 1) found) :
      Searches taken base candidate k found

/-- The loop ends with one name only. -/
lemma Searches.unique {taken : List Text} {base candidate first second : Text} {k : Nat}
    (hfirst : Searches taken base candidate k first)
    (hsecond : Searches taken base candidate k second) : first = second := by
  induction hfirst with
  | done hfree =>
    cases hsecond with
    | done => rfl
    | next htaken => exact absurd htaken hfree
  | next htaken _ ih =>
    cases hsecond with
    | done hfree => exact absurd htaken hfree
    | next _ hrest => exact ih hrest

/-- A bounded search that finds a free name is the loop. -/
lemma searches_search {taken : List Text} {base : Text} {steps k : Nat}
    (h : search taken base steps k ∉ taken) :
    Searches taken base (numbered base k) (k + 1) (search taken base steps k) := by
  induction steps generalizing k with
  | zero => exact .done h
  | succ steps ih =>
    rw [search] at h ⊢
    split
    next htaken =>
      rw [if_pos htaken] at h
      exact .next (List.contains_iff_mem.mp htaken) (ih h)
    next hfree => exact .done fun hmem => hfree (List.contains_iff_mem.mpr hmem)

/-- The loop that starts with the wanted name, with 2 as the next number, ends with the fresh
name. -/
theorem searches_name (taken : List Text) (base : Text) :
    Searches taken base base 2 (name taken base) := by
  unfold name
  split
  next htaken =>
    exact .next (List.contains_iff_mem.mp htaken) (searches_search (not_mem_search le_rfl base 2))
  next hfree => exact .done fun hmem => hfree (List.contains_iff_mem.mpr hmem)

/-- A name with a number is not the name. -/
lemma numbered_ne (base : Text) (k : Nat) : numbered base k ≠ base := by
  intro h
  have hlength := congrArg List.length h
  rw [numbered, List.length_append, List.length_append, List.length_singleton] at hlength
  omega

/-- The first free name for one that is taken has a number that is no larger than one more than
the count of the names taken. -/
lemma IsFirst.exists_isLeast {taken : List Text} {base name : Text} (h : IsFirst taken base name)
    (hbase : base ∈ taken) :
    ∃ k, name = numbered base k ∧ IsLeast {k | 2 ≤ k ∧ numbered base k ∉ taken} k ∧
      k ≤ taken.length + 1 := by
  rcases h.least with rfl | ⟨-, k, hlow, rfl, hbefore⟩
  · exact absurd hbase h.free
  refine ⟨k, rfl, ⟨⟨hlow, h.free⟩, fun i hi => ?_⟩, ?_⟩
  · by_contra hlt
    exact hi.2 (hbefore i hi.1 (Nat.lt_of_not_le hlt))
  -- the names with smaller numbers are taken beside the wanted name
  · have hothers : ∀ i, 2 ≤ i → i < 2 + (k - 2) → numbered base i ∈ taken.erase base := by
      intro i hi hlt
      exact (List.mem_erase_of_ne (numbered_ne base i)).mpr (hbefore i hi (by omega))
    have hcount := le_length_of_numbered_mem hothers
    have hpos := List.length_pos_of_mem hbase
    rw [List.length_erase_of_mem hbase] at hcount
    omega

/-! ## Candidates -/

/-- The names that are tried in place of a wanted one. -/
def IsCandidate (base name : Text) : Prop :=
  name = base ∨ ∃ k, name = numbered base k

/-- A candidate starts with the wanted name. -/
lemma IsCandidate.isPrefix {base name : Text} (h : IsCandidate base name) : base <+: name := by
  rcases h with rfl | ⟨k, rfl⟩
  · exact List.prefix_rfl
  · rw [numbered, List.append_assoc]
    exact List.prefix_append base _

/-- The first free name is a candidate. -/
lemma IsFirst.isCandidate {taken : List Text} {base name : Text} (h : IsFirst taken base name) :
    IsCandidate base name := by
  rcases h.least with rfl | ⟨-, k, -, rfl, -⟩
  · exact .inl rfl
  · exact .inr ⟨k, rfl⟩

/-- The first free name holds the wanted one, so it is not empty. -/
lemma IsFirst.ne_nil {taken : List Text} {base name : Text} (h : IsFirst taken base name)
    (hbase : base ≠ []) : name ≠ [] := by
  rintro rfl
  exact hbase (List.prefix_nil.mp h.isCandidate.isPrefix)

/-- Which name is the first depends only on which candidates are taken. -/
lemma IsFirst.of_candidates {taken others : List Text} {base name : Text}
    (h : IsFirst taken base name)
    (hsame : ∀ other, IsCandidate base other → (other ∈ others ↔ other ∈ taken)) :
    IsFirst others base name := by
  have hbase := hsame base (.inl rfl)
  have hnumbered : ∀ k, numbered base k ∈ others ↔ numbered base k ∈ taken :=
    fun k => hsame (numbered base k) (.inr ⟨k, rfl⟩)
  refine ⟨fun hmem => h.free ((hsame name h.isCandidate).mp hmem), ?_⟩
  simp only [hbase, hnumbered]
  exact h.least

/-- Which name is the first depends on which names are taken, not on their order. -/
lemma IsFirst.of_mem_iff {taken others : List Text} {base name : Text}
    (h : IsFirst taken base name) (hsame : ∀ other, other ∈ others ↔ other ∈ taken) :
    IsFirst others base name :=
  h.of_candidates fun other _ => hsame other

/-- A fresh name depends only on which candidates are taken. -/
theorem name_congr {taken others : List Text} {base : Text}
    (hsame : ∀ other, IsCandidate base other → (other ∈ others ↔ other ∈ taken)) :
    name others base = name taken base :=
  (isFirst_name others base).unique ((isFirst_name taken base).of_candidates hsame)

/-! ## The form of fresh names -/

/-- A fresh name is the name itself or has a number. -/
lemma name_eq_or_exists_numbered (taken : List Text) (base : Text) :
    name taken base = base ∨ ∃ k, name taken base = numbered base k :=
  (isFirst_name taken base).isCandidate

/-- A number after a name has only characters of identifiers. -/
lemma isIdentifierChar_of_mem_number {k : Nat} {c : Char} (h : c ∈ '_' :: ofNat k) :
    isIdentifierChar c = true := by
  rcases List.mem_cons.mp h with rfl | h
  · rfl
  · exact isIdentifierChar_of_mem_ofNat h

/-- A fresh identifier is an identifier. -/
theorem isIdentifier_name {base : Text} (h : isIdentifier base = true) (taken : List Text) :
    isIdentifier (name taken base) = true := by
  rcases name_eq_or_exists_numbered taken base with heq | ⟨k, heq⟩
  · rw [heq]
    exact h
  · rw [heq, numbered, List.append_assoc]
    exact isIdentifier_append h fun c hc => isIdentifierChar_of_mem_number hc

end Fresh

end ScriptFlow
