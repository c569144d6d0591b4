import Mathlib.Data.List.Forall2
import Mathlib.Data.List.SplitLengths

/-!
# Lists of steps that can fail

A step applied along a list gives a list of results when it succeeds at every
entry, and then the results stand in the order of the entries.  Steps that lead from
state to state fail when they come to an entry that no state can take.
-/

namespace ScriptFlow

variable {α β γ ε : Type}

/-! ## Entries in the same order -/

/-- Every entry on the right has one on the left. -/
lemma exists_mem_left_of_forall₂ {r : α → β → Prop} {left : List α} {right : List β}
    (h : List.Forall₂ r left right) {b : β} (hb : b ∈ right) : ∃ a ∈ left, r a b := by
  induction h with
  | nil => exact absurd hb List.not_mem_nil
  | cons hfirst _ ih =>
    rcases List.mem_cons.mp hb with rfl | hb
    · exact ⟨_, List.mem_cons_self, hfirst⟩
    · obtain ⟨a, ha, hr⟩ := ih hb
      exact ⟨a, List.mem_cons_of_mem _ ha, hr⟩

/-- Every entry on the left has one on the right. -/
lemma exists_mem_right_of_forall₂ {r : α → β → Prop} {left : List α} {right : List β}
    (h : List.Forall₂ r left right) {a : α} (ha : a ∈ left) : ∃ b ∈ right, r a b :=
  exists_mem_left_of_forall₂ (r := flip r) h.flip ha

/-- Every entry on the left has one at the same position on the right. -/
lemma exists_getElem?_of_forall₂ {r : α → β → Prop} {left : List α} {right : List β}
    (h : List.Forall₂ r left right) {i : Nat} {a : α} (ha : left[i]? = some a) :
    ∃ b, right[i]? = some b ∧ r a b := by
  induction h generalizing i with
  | nil =>
    rw [List.getElem?_nil] at ha
    cases ha
  | @cons first other rest others hfirst _ ih =>
    cases i with
    | zero =>
      obtain rfl := Option.some.inj ha
      exact ⟨other, rfl, hfirst⟩
    | succ i => exact ih ha

/-- Relations along lists are composed entry by entry. -/
lemma forall₂_comp {r : α → β → Prop} {s : β → γ → Prop} {t : α → γ → Prop}
    (hcomp : ∀ a b c, r a b → s b c → t a c) {left : List α} {middle : List β} {right : List γ}
    (hleft : List.Forall₂ r left middle) (hright : List.Forall₂ s middle right) :
    List.Forall₂ t left right := by
  induction hleft generalizing right with
  | nil =>
    cases hright
    exact .nil
  | cons hfirst _ ih =>
    cases hright with
    | cons hnext hrest => exact .cons (hcomp _ _ _ hfirst hnext) (ih hrest)

/-- What is related to lists in a row is divided by their lengths as they are. -/
lemma forall₂_splitLengths {r : α → β → Prop} {lists : List (List α)} {right : List β}
    (h : List.Forall₂ r lists.flatten right) :
    List.Forall₂ (List.Forall₂ r) lists ((lists.map List.length).splitLengths right) := by
  induction lists generalizing right with
  | nil => exact .nil
  | cons list lists ih =>
    rw [List.flatten_cons] at h
    have hfirst := List.forall₂_take_append right _ _ h.flip
    have hrest := List.forall₂_drop_append right _ _ h.flip
    rw [List.map_cons, List.splitLengths_cons]
    exact .cons hfirst.flip (ih hrest.flip)

/-- Lists in a row come back from what is divided by their lengths. -/
lemma flatten_splitLengths_of_forall₂ {r : α → β → Prop} {lists : List (List α)}
    {right : List β} (h : List.Forall₂ r lists.flatten right) :
    ((lists.map List.length).splitLengths right).flatten = right := by
  refine List.flatten_splitLengths right _ ?_
  rw [← h.length_eq, List.length_flatten]

/-- What is related to lists in a row is divided as they are. -/
lemma exists_flatten_of_forall₂ {r : α → β → Prop} {lists : List (List α)}
    {right : List β} (h : List.Forall₂ r lists.flatten right) :
    ∃ blocks, right = blocks.flatten ∧ List.Forall₂ (List.Forall₂ r) lists blocks :=
  ⟨_, (flatten_splitLengths_of_forall₂ h).symm, forall₂_splitLengths h⟩

/-! ## Steps -/

/-- One step after another succeeds when the first does and the second does on its result. -/
lemma bind_eq_ok_iff {first : Except ε α} {next : α → Except ε β} {b : β} :
    first >>= next = .ok b ↔ ∃ a, first = .ok a ∧ next a = .ok b := by
  cases first with
  | error e => simp [bind, Except.bind]
  | ok a => simp [bind, Except.bind]

/-- One step after another fails when the first does or the second does on its result. -/
lemma bind_eq_error_iff {first : Except ε α} {next : α → Except ε β} {e : ε} :
    first >>= next = .error e ↔ first = .error e ∨ ∃ a, first = .ok a ∧ next a = .error e := by
  cases first with
  | error e => simp [bind, Except.bind]
  | ok a => simp [bind, Except.bind]

/-- What is made of a result is there if the result is. -/
lemma map_eq_ok_iff {result : Except ε α} {f : α → β} {b : β} :
    result.map f = .ok b ↔ ∃ a, result = .ok a ∧ f a = b := by
  cases result with
  | error e => simp [Except.map]
  | ok a => simp [Except.map]

/-- A step fails when it does not succeed. -/
lemma exists_eq_error_iff {result : Except ε α} :
    (∃ e, result = .error e) ↔ ¬∃ a, result = .ok a := by
  cases result with
  | error e => simp
  | ok a => simp

/-- Steps along a list succeed when each succeeds, and give the results in order. -/
theorem mapM_eq_ok_iff {step : α → Except ε β} {list : List α} {results : List β} :
    list.mapM step = .ok results ↔
      List.Forall₂ (fun a b => step a = .ok b) list results := by
  induction list generalizing results with
  | nil =>
    rw [List.mapM_nil, List.forall₂_nil_left_iff]
    constructor
    · intro h
      exact (Except.ok.inj h).symm
    · rintro rfl
      rfl
  | cons a rest ih =>
    rw [List.mapM_cons, List.forall₂_cons_left_iff]
    simp only [bind_eq_ok_iff, ih]
    constructor
    · rintro ⟨b, ha, tail, htail, heq⟩
      exact ⟨b, tail, ha, htail, (Except.ok.inj heq).symm⟩
    · rintro ⟨b, tail, ha, htail, rfl⟩
      exact ⟨b, ha, tail, htail, rfl⟩

/-- Steps along a list succeed exactly when each succeeds. -/
theorem exists_mapM_eq_ok_iff {step : α → Except ε β} {list : List α} :
    (∃ results, list.mapM step = .ok results) ↔ ∀ a ∈ list, ∃ b, step a = .ok b := by
  simp only [mapM_eq_ok_iff]
  constructor
  · rintro ⟨results, h⟩ a ha
    obtain ⟨b, -, hstep⟩ := exists_mem_right_of_forall₂ h ha
    exact ⟨b, hstep⟩
  · intro h
    induction list with
    | nil => exact ⟨[], .nil⟩
    | cons a rest ih =>
      obtain ⟨hfirst, hrest⟩ := List.forall_mem_cons.mp h
      obtain ⟨b, hb⟩ := hfirst
      obtain ⟨results, hresults⟩ := ih hrest
      exact ⟨b :: results, .cons hb hresults⟩

/-- Steps that succeed at every entry give the list of what they give. -/
theorem mapM_eq_ok_map {step : α → Except ε β} {result : α → β} {list : List α}
    (h : ∀ a ∈ list, step a = .ok (result a)) : list.mapM step = .ok (list.map result) := by
  rw [mapM_eq_ok_iff, List.forall₂_map_right_iff, List.forall₂_same]
  exact h

/-- Steps along a list fail at the first entry at which one fails, and as this one does. -/
theorem mapM_eq_error_iff {step : α → Except ε β} {list : List α} {e : ε} :
    list.mapM step = .error e ↔ ∃ front a back, list = front ++ a :: back ∧
      (∀ earlier ∈ front, ∃ b, step earlier = .ok b) ∧ step a = .error e := by
  induction list with
  | nil => simp [pure, Except.pure]
  | cons first rest ih =>
    have hcons : (first :: rest).mapM step = .error e ↔
        step first = .error e ∨ (∃ b, step first = .ok b) ∧ rest.mapM step = .error e := by
      rw [List.mapM_cons]
      simp only [bind_eq_error_iff, pure, Except.pure, reduceCtorEq, and_false, exists_false,
        or_false, exists_and_right]
    rw [hcons, ih]
    constructor
    · rintro (hfirst | ⟨hfirst, front, a, back, rfl, hfront, ha⟩)
      · exact ⟨[], first, rest, rfl, by simp, hfirst⟩
      · exact ⟨first :: front, a, back, rfl, List.forall_mem_cons.mpr ⟨hfirst, hfront⟩, ha⟩
    · rintro ⟨front, a, back, hlist, hfront, ha⟩
      cases front with
      | nil =>
        obtain ⟨rfl, rfl⟩ := List.cons.inj hlist
        exact .inl ha
      | cons earlier front =>
        obtain ⟨rfl, rfl⟩ := List.cons.inj hlist
        obtain ⟨hfirst, hfront⟩ := List.forall_mem_cons.mp hfront
        exact .inr ⟨hfirst, front, a, back, rfl, hfront, ha⟩

/-- Steps along a list that may give nothing give the results in order if each gives one. -/
theorem mapM_eq_some_iff {step : α → Option β} {list : List α} {results : List β} :
    list.mapM step = some results ↔ List.Forall₂ (fun a b => step a = some b) list results := by
  induction list generalizing results with
  | nil =>
    rw [List.mapM_nil, List.forall₂_nil_left_iff, eq_comm]
    exact Option.some_inj
  | cons a rest ih =>
    rw [List.mapM_cons, List.forall₂_cons_left_iff]
    simp only [Option.bind_eq_bind, Option.bind_eq_some_iff, Option.pure_def, Option.some_inj, ih]
    constructor
    · rintro ⟨b, ha, tail, htail, rfl⟩
      exact ⟨b, tail, ha, htail, rfl⟩
    · rintro ⟨b, tail, ha, htail, rfl⟩
      exact ⟨b, ha, tail, htail, rfl⟩

/-- What is written entry by entry is read entry by entry. -/
theorem mapM_map_eq_some {write : β → α} {read : α → Option β} {list : List β}
    (h : ∀ b ∈ list, read (write b) = some b) : (list.map write).mapM read = some list := by
  rw [mapM_eq_some_iff, List.forall₂_map_left_iff, List.forall₂_same]
  exact h

/-- What is written entry by entry, by a step that can fail, is read entry by entry. -/
theorem mapM_eq_some_of_mapM_eq_ok {write : β → Except ε α} {read : α → Option β}
    {list : List β} {written : List α} (h : ∀ b ∈ list, ∀ a, write b = .ok a → read a = some b)
    (hwritten : list.mapM write = .ok written) : written.mapM read = some list := by
  rw [mapM_eq_ok_iff] at hwritten
  rw [mapM_eq_some_iff]
  refine (List.forall₂_iff_zip.mpr ⟨hwritten.length_eq, fun {b a} hzip => ?_⟩ :
    List.Forall₂ (fun b a => read a = some b) list written).flip
  exact h b (List.of_mem_zip hzip).1 a ((List.forall₂_iff_zip.mp hwritten).2 hzip)

/-- Steps that lead from state to state fail when an entry is one at which a step fails in
every state. -/
theorem exists_foldlM_eq_error_iff {step : β → α → Except ε β} {faulty : α → Prop}
    (hstep : ∀ b a, (∃ e, step b a = .error e) ↔ faulty a) (list : List α) (b : β) :
    (∃ e, list.foldlM step b = .error e) ↔ ∃ a ∈ list, faulty a := by
  induction list generalizing b with
  | nil => simp [pure, Except.pure]
  | cons a rest ih =>
    rw [List.foldlM_cons, List.exists_mem_cons_iff, ← hstep b a]
    cases ha : step b a with
    | error e => simp [bind, Except.bind]
    | ok next => simp [bind, Except.bind, ih next]

end ScriptFlow
