import Mathlib.Data.List.Basic
import Mathlib.Tactic.MkIffOfInductiveProp
import ScriptFlow.Text.Basic

/-!
# Marks, joins and lines

Cutting off a mark undoes putting it there, and dividing a text at a mark undoes
joining parts that do not hold the mark.  For line ends this says when the lines
of a text are the lines that it was joined from.
-/

namespace ScriptFlow

namespace Text

/-- A text without line feeds and carriage returns. -/
@[mk_iff]
structure IsOneLine (t : Text) : Prop where
  noLineFeed : '\n' ∉ t
  noReturn : '\r' ∉ t

instance (t : Text) : Decidable (IsOneLine t) :=
  decidable_of_iff _ (isOneLine_iff t).symm

lemma isOneLine_nil : IsOneLine [] := by
  constructor <;> simp

/-- A part of one line is one line. -/
lemma IsOneLine.mono {s t : Text} (h : IsOneLine t) (hst : s ⊆ t) : IsOneLine s :=
  ⟨fun hc => h.noLineFeed (hst hc), fun hc => h.noReturn (hst hc)⟩

/-- Two lines put together are one line. -/
lemma IsOneLine.append {s t : Text} (hs : IsOneLine s) (ht : IsOneLine t) :
    IsOneLine (s ++ t) := by
  constructor
  · simp [hs.noLineFeed, ht.noLineFeed]
  · simp [hs.noReturn, ht.noReturn]

/-! ## Marks -/

/-- What follows a mark at the start. -/
lemma isPrefixOf?_eq_some_iff {α : Type} [DecidableEq α] {mark t rest : List α} :
    mark.isPrefixOf? t = some rest ↔ t = mark ++ rest := by
  induction mark generalizing t with
  | nil => simp [List.isPrefixOf?]
  | cons m mark ih =>
    cases t with
    | nil => simp [List.isPrefixOf?]
    | cons c t =>
      by_cases h : m = c
      · subst h
        simp [List.isPrefixOf?, ih]
      · simp [List.isPrefixOf?, h, Ne.symm h]

/-- Nothing follows a mark that the text does not start with. -/
lemma isPrefixOf?_eq_none_iff {α : Type} [DecidableEq α] {mark t : List α} :
    mark.isPrefixOf? t = none ↔ ¬mark <+: t := by
  rw [Option.eq_none_iff_forall_ne_some, List.IsPrefix]
  simp only [ne_eq, isPrefixOf?_eq_some_iff, not_exists, eq_comm]

/-- What precedes a mark at the end. -/
lemma beforeSuffix?_eq_some_iff {mark t before : Text} :
    beforeSuffix? mark t = some before ↔ t = before ++ mark := by
  unfold beforeSuffix?
  rw [Option.map_eq_some_iff]
  constructor
  · rintro ⟨rest, hrest, rfl⟩
    have h := isPrefixOf?_eq_some_iff.mp hrest
    rw [← List.reverse_reverse t, h, List.reverse_append, List.reverse_reverse]
  · rintro rfl
    refine ⟨before.reverse, isPrefixOf?_eq_some_iff.mpr ?_, List.reverse_reverse before⟩
    rw [List.reverse_append]

/-- A text that ends otherwise has nothing before the mark. -/
lemma beforeSuffix?_singleton_eq_none {m : Char} {t : Text} (h : t.getLast? ≠ some m) :
    beforeSuffix? [m] t = none := by
  cases hb : beforeSuffix? [m] t with
  | none => rfl
  | some before =>
    rw [beforeSuffix?_eq_some_iff] at hb
    exact absurd (by rw [hb, List.getLast?_concat]) h

/-- A text ends with a character that is put behind it. -/
lemma endsWith_concat (t : Text) (m : Char) : endsWith [m] (t ++ [m]) = true := by
  simp [endsWith]

/-- A text is put together again from what a mark cuts it into. -/
lemma eq_append_of_cut? {mark t before after : Text} (h : cut? mark t = some (before, after)) :
    t = before ++ mark ++ after := by
  induction t generalizing before with
  | nil =>
    rw [cut?, Option.map_eq_some_iff] at h
    obtain ⟨rest, hrest, heq⟩ := h
    obtain ⟨rfl, rfl⟩ := Prod.mk.inj heq
    exact isPrefixOf?_eq_some_iff.mp hrest
  | cons c r ih =>
    rw [cut?] at h
    split at h
    next rest hrest =>
      obtain ⟨rfl, rfl⟩ := Prod.mk.inj (Option.some.inj h)
      exact isPrefixOf?_eq_some_iff.mp hrest
    next =>
      rw [Option.map_eq_some_iff] at h
      obtain ⟨⟨front, rest⟩, hcut, heq⟩ := h
      obtain ⟨rfl, rfl⟩ := Prod.mk.inj heq
      rw [ih hcut]
      rfl

/-- A mark does not start before a character that it lacks and go on behind it. -/
lemma isPrefix_of_append_cons {mark s t : Text} {c : Char} (hc : c ∉ mark)
    (h : mark <+: s ++ c :: t) : mark <+: s := by
  rcases List.prefix_or_prefix_of_prefix h (List.prefix_append s (c :: t)) with hs | ⟨rest, rfl⟩
  · exact hs
  · cases rest with
    | nil => simp
    | cons d rest =>
      rw [List.prefix_append_right_inj, List.cons_prefix_cons] at h
      exact absurd (by simp [h.1]) hc

/-- A mark is found on one side of a character that it lacks. -/
lemma isInfix_append_cons_iff {mark s t : Text} {c : Char} (hc : c ∉ mark) :
    mark <:+: s ++ c :: t ↔ mark <:+: s ∨ mark <:+: t := by
  constructor
  · intro h
    induction s with
    | nil =>
      rcases List.infix_cons_iff.mp h with hstart | hrest
      · exact .inl (isPrefix_of_append_cons (s := []) hc hstart).isInfix
      · exact .inr hrest
    | cons d s ih =>
      rcases List.infix_cons_iff.mp h with hstart | hrest
      · exact .inl (isPrefix_of_append_cons (s := d :: s) hc hstart).isInfix
      · exact (ih hrest).imp_left (·.trans (List.suffix_cons d s).isInfix)
  · rintro (h | h)
    · exact h.trans (List.prefix_append s (c :: t)).isInfix
    · exact h.trans ((List.suffix_cons c t).trans (List.suffix_append s (c :: t))).isInfix

/-- A text is not cut exactly if the mark does not occur in it. -/
lemma cut?_eq_none_iff {α : Type} [DecidableEq α] {mark t : List α} :
    cut? mark t = none ↔ ¬mark <:+: t := by
  induction t with
  | nil =>
    rw [cut?, Option.map_eq_none_iff, isPrefixOf?_eq_none_iff, List.prefix_nil, List.infix_nil]
  | cons c t ih =>
    rw [cut?, List.infix_cons_iff, not_or, ← ih, ← isPrefixOf?_eq_none_iff]
    cases mark.isPrefixOf? (c :: t) with
    | none => simp
    | some rest => simp

/-- A text that starts with the mark is cut there. -/
lemma cut?_append (mark t : Text) : cut? mark (mark ++ t) = some ([], t) := by
  have hstart : mark.isPrefixOf? (mark ++ t) = some t := isPrefixOf?_eq_some_iff.mpr rfl
  cases h : mark ++ t with
  | nil =>
    rw [h] at hstart
    rw [cut?, hstart, Option.map_some]
  | cons c r =>
    rw [h] at hstart
    rw [cut?, hstart]

/-- A text is cut at the mark behind a character that the mark lacks, if the mark does not
occur before. -/
lemma cut?_append_cons {mark front : Text} {c : Char} (hne : mark ≠ []) (hc : c ∉ mark)
    (hfront : ¬mark <:+: front) (t : Text) :
    cut? mark (front ++ c :: (mark ++ t)) = some (front ++ [c], t) := by
  induction front with
  | nil =>
    have hstart : mark.isPrefixOf? (c :: (mark ++ t)) = none :=
      isPrefixOf?_eq_none_iff.mpr fun h =>
        hne (List.prefix_nil.mp (isPrefix_of_append_cons (s := []) hc h))
    rw [List.nil_append, cut?, hstart, cut?_append]
    rfl
  | cons d front ih =>
    have hstart : mark.isPrefixOf? (d :: front ++ c :: (mark ++ t)) = none :=
      isPrefixOf?_eq_none_iff.mpr fun h => hfront (isPrefix_of_append_cons hc h).isInfix
    have hrest : ¬mark <:+: front := fun h => hfront (h.trans (List.suffix_cons d front).isInfix)
    rw [List.cons_append] at hstart ⊢
    rw [cut?, hstart, ih hrest]
    rfl

/-- A text is cut at a letter where this letter first occurs. -/
lemma cut?_singleton_eq_some_iff {α : Type} [DecidableEq α] {m : α} {t before after : List α} :
    cut? [m] t = some (before, after) ↔ t = before ++ m :: after ∧ m ∉ before := by
  induction t generalizing before with
  | nil => simp [cut?, List.isPrefixOf?]
  | cons c r ih =>
    rw [cut?]
    by_cases hc : m = c
    · subst hc
      have hstart : List.isPrefixOf? [m] (m :: r) = some r := isPrefixOf?_eq_some_iff.mpr rfl
      rw [hstart]
      constructor
      · intro h
        obtain ⟨rfl, rfl⟩ := Prod.mk.inj (Option.some.inj h)
        exact ⟨rfl, List.not_mem_nil⟩
      · rintro ⟨heq, hbefore⟩
        cases before with
        | nil => rw [(List.cons.inj heq).2]
        | cons d before =>
          have hd : m = d := (List.cons.inj heq).1
          exact absurd (hd ▸ List.mem_cons_self) hbefore
    · have hstart : List.isPrefixOf? [m] (c :: r) = none := by
        rw [isPrefixOf?_eq_none_iff, List.cons_prefix_cons]
        exact fun h => hc h.1
      rw [hstart]
      constructor
      · intro h
        obtain ⟨⟨front, rest⟩, hcut, heq⟩ := Option.map_eq_some_iff.mp h
        obtain ⟨rfl, rfl⟩ := Prod.mk.inj heq
        obtain ⟨rfl, hfront⟩ := ih.mp hcut
        exact ⟨rfl, List.not_mem_cons_of_ne_of_not_mem hc hfront⟩
      · rintro ⟨heq, hbefore⟩
        cases before with
        | nil => exact absurd (List.cons.inj heq).1.symm hc
        | cons d before =>
          obtain ⟨rfl, rfl⟩ := List.cons.inj heq
          have hcut := ih.mpr ⟨rfl, fun h => hbefore (List.mem_cons_of_mem c h)⟩
          rw [hcut, Option.map_some]

/-- A text is cut at the last occurrence of a letter. -/
lemma cutLast?_eq_some_iff {α : Type} [DecidableEq α] {m : α} {t before after : List α} :
    cutLast? m t = some (before, after) ↔ t = before ++ m :: after ∧ m ∉ after := by
  have hreverse : t.reverse = after.reverse ++ m :: before.reverse ↔ t = before ++ m :: after := by
    rw [← List.reverse_inj]
    simp
  have hmem : m ∉ after.reverse ↔ m ∉ after := by rw [List.mem_reverse]
  rw [cutLast?, Option.map_eq_some_iff, ← hreverse, ← hmem, ← cut?_singleton_eq_some_iff]
  constructor
  · rintro ⟨⟨behind, front⟩, hcut, heq⟩
    obtain ⟨rfl, rfl⟩ := Prod.mk.inj heq
    rw [List.reverse_reverse, List.reverse_reverse]
    exact hcut
  · intro hcut
    refine ⟨_, hcut, ?_⟩
    exact congrArg₂ Prod.mk before.reverse_reverse after.reverse_reverse

/-! ## Joins -/

/-- A character of joined texts comes from the separator or from one of them. -/
lemma mem_join {separator : Text} {parts : List Text} {c : Char}
    (h : c ∈ join separator parts) : c ∈ separator ∨ ∃ part ∈ parts, c ∈ part := by
  induction parts with
  | nil => simp [join, List.intercalate_nil] at h
  | cons part rest ih =>
    cases rest with
    | nil =>
      rw [join, List.intercalate_singleton] at h
      exact .inr ⟨part, by simp, h⟩
    | cons next rest =>
      rw [join, List.intercalate_cons_cons] at h
      rcases List.mem_append.mp h with h | h
      · rcases List.mem_append.mp h with h | h
        · exact .inr ⟨part, by simp, h⟩
        · exact .inl h
      · exact (ih h).imp_right fun ⟨p, hp, hc⟩ => ⟨p, List.mem_cons_of_mem _ hp, hc⟩

/-- Every joined text is a part of the whole. -/
lemma subset_join (separator : Text) {parts : List Text} {part : Text} (h : part ∈ parts) :
    part ⊆ join separator parts := by
  induction parts with
  | nil => simp at h
  | cons first rest ih =>
    cases rest with
    | nil =>
      rw [List.mem_singleton] at h
      rw [h, join, List.intercalate_singleton]
      exact fun _ hc => hc
    | cons next rest =>
      rw [join, List.intercalate_cons_cons]
      intro c hc
      rcases List.mem_cons.mp h with rfl | h
      · exact List.mem_append_left _ (List.mem_append_left _ hc)
      · exact List.mem_append_right _ (ih h hc)

/-- A character that the separator lacks is missing in joined texts when it is missing in
each of them. -/
lemma not_mem_join_iff {separator : Text} {c : Char} (hc : c ∉ separator) {parts : List Text} :
    c ∉ join separator parts ↔ ∀ part ∈ parts, c ∉ part := by
  constructor
  · intro h part hpart hmem
    exact h (subset_join separator hpart hmem)
  · intro h hmem
    rcases mem_join hmem with hmem | ⟨part, hpart, hmem⟩
    · exact hc hmem
    · exact h part hpart hmem

/-- Joins of one line each, joined without line ends, are one line. -/
lemma isOneLine_join {separator : Text} {parts : List Text} (hs : IsOneLine separator)
    (hp : ∀ part ∈ parts, IsOneLine part) : IsOneLine (join separator parts) := by
  constructor <;> intro hc <;> rcases mem_join hc with h | ⟨part, hpart, h⟩
  · exact hs.noLineFeed h
  · exact (hp part hpart).noLineFeed h
  · exact hs.noReturn h
  · exact (hp part hpart).noReturn h

/-- Joining a first text and others is joining the first with the join of the others. -/
lemma join_cons_of_ne_nil (separator part : Text) {rest : List Text} (h : rest ≠ []) :
    join separator (part :: rest) = part ++ separator ++ join separator rest :=
  List.intercalate_cons_of_ne_nil h

/-- Joining two lists of texts in a row. -/
lemma join_append (separator : Text) {parts rest : List Text} (hp : parts ≠ [])
    (hr : rest ≠ []) :
    join separator (parts ++ rest) = join separator parts ++ separator ++ join separator rest := by
  induction parts with
  | nil => exact absurd rfl hp
  | cons part parts ih =>
    cases parts with
    | nil =>
      rw [List.singleton_append, join_cons_of_ne_nil _ _ hr, join, join,
        List.intercalate_singleton]
    | cons next parts =>
      have hne : next :: parts ++ rest ≠ [] := by simp
      rw [List.cons_append, join_cons_of_ne_nil _ _ hne, ih (by simp),
        join_cons_of_ne_nil _ _ (List.cons_ne_nil next parts)]
      simp only [List.append_assoc]

/-- Joined texts end with the last of them. -/
lemma exists_join_eq_append (separator : Text) {parts : List Text} {last : Text}
    (h : parts.getLast? = some last) : ∃ front, join separator parts = front ++ last := by
  obtain ⟨others, rfl⟩ := List.getLast?_eq_some_iff.mp h
  by_cases hnil : others = []
  · exact ⟨[], by rw [hnil, List.nil_append, join, List.intercalate_singleton]; rfl⟩
  · refine ⟨join separator others ++ separator, ?_⟩
    rw [join_append _ hnil (List.cons_ne_nil last []), join, join, List.intercalate_singleton]

/-- Joins of groups, joined, are the join of all the groups' texts. -/
lemma join_map_join (separator : Text) {groups : List (List Text)}
    (h : ∀ group ∈ groups, group ≠ []) :
    join separator (groups.map (join separator)) = join separator groups.flatten := by
  induction groups with
  | nil => rfl
  | cons group rest ih =>
    have hrest : ∀ g ∈ rest, g ≠ [] := fun g hg => h g (List.mem_cons_of_mem _ hg)
    cases rest with
    | nil => simp [join, List.intercalate_singleton]
    | cons next rest =>
      have hflat : (next :: rest).flatten ≠ [] := by
        rw [List.flatten_cons]
        simp [hrest next (by simp)]
      rw [List.map_cons, join_cons_of_ne_nil _ _ (by simp), ih hrest,
        ← join_append _ (h group (by simp)) hflat]
      rfl

/-! ## Division -/

/-- No piece of a division holds the mark. -/
lemma not_mem_of_mem_splitOn {α : Type} [DecidableEq α] {mark : α} {t piece : List α}
    (h : piece ∈ t.splitOn mark) : mark ∉ piece := by
  induction t generalizing piece with
  | nil => simp_all
  | cons c t ih =>
    rw [List.splitOn_cons_eq_if_modifyHead] at h
    split at h
    · rcases List.mem_cons.mp h with rfl | h
      · simp
      · exact ih h
    next hc =>
      obtain ⟨first, rest, hsplit⟩ := List.exists_cons_of_ne_nil (List.splitOn_ne_nil mark t)
      rw [hsplit, List.modifyHead_cons] at h
      rcases List.mem_cons.mp h with rfl | h
      · intro hm
        rcases List.mem_cons.mp hm with rfl | hm
        · simp at hc
        · exact ih (by rw [hsplit]; simp) hm
      · exact ih (by rw [hsplit]; exact List.mem_cons_of_mem _ h)

/-- Dropping a carriage return changes nothing where there is none. -/
lemma dropReturn_eq_self {line : Text} (h : '\r' ∉ line) : dropReturn line = line := by
  have hnone : beforeSuffix? ['\r'] line = none :=
    beforeSuffix?_singleton_eq_none fun hlast => h (List.mem_of_getLast? hlast)
  rw [dropReturn, hnone, Option.getD_none]

/-- Dropping a carriage return leaves a part of the line. -/
lemma dropReturn_subset (line : Text) : dropReturn line ⊆ line := by
  unfold dropReturn
  cases hcut : beforeSuffix? ['\r'] line with
  | none => exact fun _ hc => hc
  | some before =>
    rw [beforeSuffix?_eq_some_iff.mp hcut]
    exact fun _ hc => List.mem_append_left _ hc

/-- No line of a text holds a line feed. -/
theorem noLineFeed_of_mem_lines {t line : Text} (h : line ∈ lines t) : '\n' ∉ line := by
  have hpiece : ∀ piece ∈ t.splitOn '\n', '\n' ∉ piece := fun _ => not_mem_of_mem_splitOn
  rcases List.mem_append.mp h with h | h
  · obtain ⟨piece, hmem, rfl⟩ := List.mem_map.mp h
    exact fun hc => hpiece piece (List.dropLast_subset _ hmem) (dropReturn_subset piece hc)
  · split at h
    · exact absurd h List.not_mem_nil
    · obtain ⟨first, rest, hsplit⟩ := List.exists_cons_of_ne_nil (List.splitOn_ne_nil '\n' t)
      have hlast : line = (t.splitOn '\n').getLastD [] := List.mem_singleton.mp h
      refine hpiece line ?_
      rw [hlast, hsplit, List.getLastD_cons]
      exact List.getLastD_mem_cons

/-- The lines of a text that was joined from lines which are not empty. -/
theorem lines_join {pieces : List Text} (h : ∀ piece ∈ pieces, IsOneLine piece)
    (hne : ∀ piece ∈ pieces, piece ≠ []) : lines (join ['\n'] pieces) = pieces := by
  cases hp : pieces.getLast? with
  | none =>
    rw [List.getLast?_eq_none_iff.mp hp]
    rfl
  | some last =>
    obtain ⟨front, hfront⟩ := List.getLast?_eq_some_iff.mp hp
    have hlast : last ∈ pieces := by rw [hfront]; simp
    have hsplit : (join ['\n'] pieces).splitOn '\n' = pieces :=
      List.splitOn_intercalate '\n' (fun piece hpiece => (h piece hpiece).noLineFeed)
        (List.ne_nil_of_mem hlast)
    have hempty : last.isEmpty = false := by
      rw [List.isEmpty_eq_false_iff]
      exact hne last hlast
    have hmap : front.map dropReturn = front := by
      refine (List.map_congr_left fun piece hpiece => ?_).trans (List.map_id front)
      have hpiece' : piece ∈ pieces := by rw [hfront]; exact List.mem_append_left _ hpiece
      exact dropReturn_eq_self (h piece hpiece').noReturn
    unfold lines
    rw [hsplit, hfront]
    simp [List.getLastD_eq_getLast?, hempty, hmap]

end Text

end ScriptFlow
