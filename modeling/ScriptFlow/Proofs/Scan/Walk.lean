import ScriptFlow.Proofs.KeyMap
import ScriptFlow.Proofs.Path
import ScriptFlow.Scan.Folder

/-!
# Walks through folders

A tree of folders keeps the entries of each folder in the order of their names
(`Entry.IsTree`); putting files into it leaves it one.  What is in a tree is told apart by the
names of the entries that lead to it (`Entry.Holds`).

A walk comes to the files that no hidden entry leads to, in the order of these names, and to
the folders whose paths are too long for them to be opened.  From an entry on it goes along
names (`Entry.Follows`), and from the root of a scan it reaches what it goes to from the
entries of the root (`Entry.Reaches`, `Entry.mem_reachedIn_root`).
-/

namespace ScriptFlow

open Text

namespace FilePath

/-! ## Paths below a folder -/

/-- The path below the folder at a path to which some names lead. -/
def below (root : FilePath) (steps : List FilePath) : FilePath :=
  steps.foldl Path.child root

/-- The path of an entry is as long as that of its folder and its name at least. -/
lemma length_add_length_le_length_child (path name : FilePath) :
    path.length + name.length ≤ (Path.child path name).length := by
  unfold Path.child
  split <;> simp only [List.length_append] <;> omega

/-- If the file system takes a path, it takes those of the folders that it leads through. -/
lemma fits_of_fits_below {path : FilePath} {steps : List FilePath}
    (h : fits (below path steps) = true) : fits path = true := by
  induction steps generalizing path with
  | nil => exact h
  | cons name rest ih =>
    have hchild := ih h
    rw [fits, decide_eq_true_iff] at hchild ⊢
    have hlength := length_add_length_le_length_child path name
    omega

/-- Without the last name, names lead to the folder that what they lead to is in. -/
lemma below_dropLast_cons {rest : List FilePath} (hne : rest ≠ []) (path name : FilePath) :
    below path (name :: rest).dropLast = below (Path.child path name) rest.dropLast := by
  rw [List.dropLast_cons_of_ne_nil hne, below, List.foldl_cons]
  rfl

end FilePath

namespace Entry

/-! ## Trees -/

/-- A tree of files and folders, each with its entries in the order of their names. -/
inductive IsTree : Entry → Prop
  | file (bytes : ByteArray) : IsTree (.file bytes)
  | folder {children : List (FilePath × Entry)} (hsorted : children.Pairwise fun a b => a.1 < b.1)
      (hnames : ∀ child ∈ children, Path.IsFileName child.1)
      (htrees : ∀ child ∈ children, child.2.IsTree) : IsTree (.folder children)

lemma isTree_empty : IsTree (.folder []) :=
  .folder .nil (fun _ h => absurd h List.not_mem_nil) fun _ h => absurd h List.not_mem_nil

section Put

variable {name : FilePath} {entry : Entry} {children : List (FilePath × Entry)}

/-- A tree stays one with a further tree under a name. -/
lemma IsTree.insertEntry (h : IsTree (.folder children)) (hname : Path.IsFileName name)
    (hentry : entry.IsTree) : IsTree (.folder (KeyMap.insertEntry name entry children)) := by
  cases h with
  | folder hsorted hnames htrees =>
    refine .folder (KeyMap.sorted_insertEntry name entry hsorted) (fun child hchild => ?_)
      fun child hchild => ?_
    · rcases KeyMap.mem_insertEntry hchild with rfl | hchild
      · exact hname
      · exact hnames child hchild
    · rcases KeyMap.mem_insertEntry hchild with rfl | hchild
      · exact hentry
      · exact htrees child hchild

/-- What is inside a folder of a tree is a tree. -/
lemma IsTree.inner (h : IsTree (.folder children)) (name : FilePath) :
    IsTree (.folder (((child? name children).bind children?).getD [])) := by
  cases hfound : (child? name children).bind children? with
  | none => exact isTree_empty
  | some inner =>
    obtain ⟨entry, hentry, hinner⟩ := Option.bind_eq_some_iff.mp hfound
    obtain ⟨child, hchild, rfl⟩ := Option.map_eq_some_iff.mp hentry
    cases h with
    | folder hsorted hnames htrees =>
      have htree : child.2.IsTree := htrees child (List.mem_of_find?_eq_some hchild)
      cases hkind : child.2 with
      | file bytes =>
        rw [hkind] at hinner
        cases hinner
      | folder entries =>
        rw [hkind] at hinner htree
        obtain rfl := Option.some.inj hinner
        exact htree

/-- A tree stays one when a file is put into it. -/
theorem IsTree.putFile (bytes : ByteArray) {steps : List FilePath} (h : IsTree (.folder children))
    (hsteps : ∀ step ∈ steps, Path.IsFileName step) :
    IsTree (.folder (putFile bytes steps children)) := by
  induction steps generalizing children with
  | nil => exact h
  | cons name rest ih =>
    obtain ⟨hname, hrest⟩ := List.forall_mem_cons.mp hsteps
    cases rest with
    | nil => exact h.insertEntry hname (.file bytes)
    | cons next rest => exact h.insertEntry hname (ih (h.inner name) hrest)

/-- A tree stays one when files are put into it one after the other. -/
lemma IsTree.foldl_putFile {files : List (List FilePath × ByteArray)}
    (h : IsTree (.folder children))
    (hnames : ∀ file ∈ files, ∀ step ∈ file.1, Path.IsFileName step) :
    IsTree (.folder
      (files.foldl (fun children file => Entry.putFile file.2 file.1 children) children)) := by
  induction files generalizing children with
  | nil => exact h
  | cons file rest ih =>
    obtain ⟨hfile, hrest⟩ := List.forall_mem_cons.mp hnames
    exact ih (h.putFile file.2 hfile) hrest

/-- The steps of a path are names: pieces between slashes that stay in the folder. -/
lemma isFileName_of_mem_steps (path : FilePath) : ∀ step ∈ steps path, Path.IsFileName step := by
  intro step hstep
  refine List.foldlRecOn (motive := fun taken => ∀ step ∈ taken, Path.IsFileName step) _ _
    (fun _ h => absurd h List.not_mem_nil) (fun taken htaken piece hpiece => ?_) step
    (List.mem_reverse.mp hstep)
  split
  · exact htaken
  next hsomething =>
    rw [Bool.or_eq_true, List.isEmpty_iff, beq_iff_eq, not_or] at hsomething
    split
    · exact fun step hstep => htaken step (List.mem_of_mem_tail hstep)
    next hinside =>
      refine List.forall_mem_cons.mpr ⟨⟨hsomething.1, not_mem_of_mem_splitOn hpiece,
        hsomething.2, fun hparent => hinside (beq_iff_eq.mpr hparent)⟩, htaken⟩

/-- A tree stays one when a text is written to a file in it. -/
theorem IsTree.write (h : IsTree (.folder children)) (path : FilePath) (text : Text) :
    IsTree (.folder (write path text children)) :=
  h.putFile _ (isFileName_of_mem_steps path)

end Put

/-! ## What is below a folder -/

/-- Some names lead from an entry to what is found there. -/
inductive Holds : Entry → List FilePath → Entry → Prop
  | here (entry : Entry) : Holds entry [] entry
  | inside {children : List (FilePath × Entry)} {name : FilePath} {entry : Entry}
      {steps : List FilePath} {found : Entry} (hentry : (name, entry) ∈ children)
      (hfound : entry.Holds steps found) : Holds (.folder children) (name :: steps) found

/-- What is behind a name of a folder is found from one of its entries. -/
lemma holds_cons_iff {children : List (FilePath × Entry)} {name : FilePath}
    {steps : List FilePath} {found : Entry} :
    (folder children).Holds (name :: steps) found ↔
      ∃ entry, (name, entry) ∈ children ∧ entry.Holds steps found := by
  constructor
  · intro h
    cases h with
    | inside hentry hfound => exact ⟨_, hentry, hfound⟩
  · rintro ⟨entry, hentry, hfound⟩
    exact .inside hentry hfound

/-- The names that lead through a tree are names of entries. -/
lemma Holds.isFileName {entry : Entry} {steps : List FilePath} {found : Entry}
    (h : entry.Holds steps found) (htree : entry.IsTree) :
    ∀ step ∈ steps, Path.IsFileName step := by
  induction h with
  | here => exact fun step hstep => absurd hstep List.not_mem_nil
  | inside hentry _ ih =>
    cases htree with
    | folder _ hnames htrees =>
      exact List.forall_mem_cons.mpr ⟨hnames _ hentry, ih (htrees _ hentry)⟩

/-! ## Walks -/

/-- A walk that starts at the entry at a path goes along some names. -/
structure Follows (recursive : Bool) (path : FilePath) (steps : List FilePath) : Prop where
  visible : ∀ step ∈ steps, isHidden step = false
  opened : steps = [] ∨ FilePath.fits (FilePath.below path steps.dropLast) = true
  direct : recursive = false → steps = []

/-- Where a walk does not go on: at a file, or if it would go on at a folder that it cannot
open. -/
def IsEnd (recursive : Bool) (path : FilePath) : Entry → Prop
  | file _ => True
  | folder _ => recursive = true ∧ FilePath.fits path = false

lemma follows_nil (recursive : Bool) (path : FilePath) : Follows recursive path [] where
  visible _ hstep := absurd hstep List.not_mem_nil
  opened := .inl rfl
  direct _ := rfl

/-- A walk goes from a folder to what it goes to from one of its entries, if it goes on, can
open the folder and does not skip the entry. -/
lemma follows_cons_iff {recursive : Bool} {path name : FilePath} {rest : List FilePath} :
    Follows recursive path (name :: rest) ↔ recursive = true ∧ FilePath.fits path = true ∧
      isHidden name = false ∧ Follows recursive (Path.child path name) rest := by
  constructor
  · rintro ⟨hvisible, hopened, hdirect⟩
    obtain ⟨hname, hrest⟩ := List.forall_mem_cons.mp hvisible
    have hfits := hopened.resolve_left (List.cons_ne_nil name rest)
    have hrecursive : recursive = true := by
      by_contra hnot
      exact List.cons_ne_nil name rest (hdirect (Bool.eq_false_of_not_eq_true hnot))
    refine ⟨hrecursive, FilePath.fits_of_fits_below hfits, hname, hrest, ?_, fun hnot => ?_⟩
    · by_cases hne : rest = []
      · exact .inl hne
      · exact .inr (FilePath.below_dropLast_cons hne path name ▸ hfits)
    · rw [hrecursive] at hnot
      cases hnot
  · rintro ⟨rfl, hfits, hname, hvisible, hopened, -⟩
    refine ⟨List.forall_mem_cons.mpr ⟨hname, hvisible⟩, .inr ?_, fun hnot => by cases hnot⟩
    by_cases hne : rest = []
    · rw [hne]
      exact hfits
    · rw [FilePath.below_dropLast_cons hne]
      exact hopened.resolve_left hne

/-- A walk goes from one entry of a folder to the next. -/
lemma reachedIn_eq_flatMap (recursive : Bool) (path : FilePath)
    (children : List (FilePath × Entry)) :
    reachedIn recursive path children = (children.filter fun child => !isHidden child.1).flatMap
      fun child => reached recursive (Path.child path child.1) child.2 := by
  induction children with
  | nil => rw [reachedIn, List.filter_nil, List.flatMap_nil]
  | cons child rest ih =>
    rw [reachedIn, ih, List.filter_cons]
    cases isHidden child.1 <;> rfl

/-- Among the entries of a folder a walk comes to what it comes to from one of them. -/
lemma mem_reachedIn {recursive : Bool} {path : FilePath} {children : List (FilePath × Entry)}
    {found : FilePath × Entry} :
    found ∈ reachedIn recursive path children ↔ ∃ child ∈ children, isHidden child.1 = false ∧
      found ∈ reached recursive (Path.child path child.1) child.2 := by
  simp only [reachedIn_eq_flatMap, List.mem_flatMap, List.mem_filter, Bool.not_eq_true', and_assoc]

/-- A walk comes to the files, and to the folders that it cannot open, at the ends of the ways
that it goes. -/
lemma mem_reached {recursive : Bool} {entry : Entry} (htree : entry.IsTree) {path : FilePath}
    {found : FilePath × Entry} :
    found ∈ reached recursive path entry ↔ ∃ steps, found.1 = FilePath.below path steps ∧
      entry.Holds steps found.2 ∧ Follows recursive path steps ∧
      IsEnd recursive found.1 found.2 := by
  induction htree generalizing path found with
  | file bytes =>
    rw [reached, List.mem_singleton]
    constructor
    · rintro rfl
      exact ⟨[], rfl, .here _, follows_nil recursive path, trivial⟩
    · rintro ⟨steps, hpath, hholds, -⟩
      obtain ⟨_, _⟩ := found
      cases hholds
      exact Prod.ext hpath rfl
  | @folder children _ _ _ ih =>
    constructor
    · intro h
      rw [reached] at h
      split at h
      next => exact absurd h List.not_mem_nil
      next hrecursive =>
        rw [Bool.not_eq_true', Bool.not_eq_false] at hrecursive
        split at h
        next hfits =>
          obtain ⟨child, hchild, hname, hmem⟩ := mem_reachedIn.mp h
          obtain ⟨rest, hpath, hholds, hfollows, hend⟩ := (ih child hchild).mp hmem
          exact ⟨child.1 :: rest, hpath, .inside hchild hholds,
            follows_cons_iff.mpr ⟨hrecursive, hfits, hname, hfollows⟩, hend⟩
        next hclosed =>
          obtain rfl := List.mem_singleton.mp h
          exact ⟨[], rfl, .here _, follows_nil recursive path, hrecursive,
            Bool.eq_false_of_not_eq_true hclosed⟩
    · rintro ⟨steps, hpath, hholds, hfollows, hend⟩
      obtain ⟨place, entry⟩ := found
      cases steps with
      | nil =>
        cases hholds
        obtain ⟨rfl, hclosed⟩ := hend
        obtain rfl : place = path := hpath
        rw [reached, if_neg (by decide), hclosed, if_neg Bool.false_ne_true]
        exact List.mem_singleton_self _
      | cons name rest =>
        obtain ⟨rfl, hfits, hname, hfollows⟩ := follows_cons_iff.mp hfollows
        obtain ⟨child, hchild, hholds⟩ := holds_cons_iff.mp hholds
        rw [reached, if_neg (by decide), if_pos hfits]
        exact mem_reachedIn.mpr
          ⟨_, hchild, hname, (ih _ hchild).mpr ⟨rest, hpath, hholds, hfollows, hend⟩⟩

/-- What a walk comes to from an entry of a tree has its components behind those of the path
of the entry. -/
lemma exists_components_of_mem_reached {recursive : Bool} {entry : Entry}
    (htree : entry.IsTree) {path : FilePath} {found : FilePath × Entry}
    (h : found ∈ reached recursive path entry) :
    ∃ names : List FilePath,
      Path.components found.1 = Path.components path ++ names.map .name := by
  obtain ⟨steps, hpath, hholds, -⟩ := (mem_reached htree).mp h
  exact ⟨steps, hpath ▸ Path.components_foldl_child (hholds.isFileName htree) path⟩

/-- Entries in the order of their names are walked in the order of the paths. -/
lemma pairwise_reachedIn {recursive : Bool} {path : FilePath}
    {children : List (FilePath × Entry)} (htree : (folder children).IsTree)
    (hwalks : ∀ child ∈ children,
      (reached recursive (Path.child path child.1) child.2).Pairwise
        fun found other => Path.Precedes found.1 other.1) :
    (reachedIn recursive path children).Pairwise
      fun found other => Path.Precedes found.1 other.1 := by
  cases htree with
  | folder hsorted hnames htrees =>
    rw [reachedIn_eq_flatMap, List.pairwise_flatMap]
    refine ⟨fun child hchild => hwalks child (List.mem_of_mem_filter hchild), ?_⟩
    -- what is below different entries differs in the names of these entries already
    refine (hsorted.filter _).imp_of_mem fun {a b} ha hb hlt found hfound other hother => ?_
    have hmem := List.mem_of_mem_filter ha
    have hmem' := List.mem_of_mem_filter hb
    obtain ⟨names, hcomponents⟩ := exists_components_of_mem_reached (htrees a hmem) hfound
    obtain ⟨names', hcomponents'⟩ := exists_components_of_mem_reached (htrees b hmem') hother
    rw [Path.components_child (hnames a hmem), List.append_assoc] at hcomponents
    rw [Path.components_child (hnames b hmem'), List.append_assoc] at hcomponents'
    have hnames : List.Lex (· < ·) (a.1 :: names) (b.1 :: names') := .rel hlt
    rw [Path.Precedes, hcomponents, hcomponents']
    exact Path.lex_before_of_lex hnames _

/-- A walk goes through a tree in the order of the paths. -/
lemma pairwise_reached {recursive : Bool} {entry : Entry} (htree : entry.IsTree)
    {path : FilePath} :
    (reached recursive path entry).Pairwise
      fun found other => Path.Precedes found.1 other.1 := by
  induction htree generalizing path with
  | file bytes =>
    rw [reached]
    exact List.pairwise_singleton _ _
  | folder hsorted hnames htrees ih =>
    rw [reached]
    split
    · exact .nil
    · split
      · exact pairwise_reachedIn (.folder hsorted hnames htrees) fun child hchild =>
          ih child hchild
      · exact List.pairwise_singleton _ _

/-! ## Walks from the root of a scan -/

/-- A scan of the folder at a path comes to what some names lead to: no name is a text that
starts with a point, and the folder that the last name is in can be opened.  The root of the
scan is open already. -/
structure Reaches (recursive : Bool) (root : FilePath) (steps : List FilePath) : Prop where
  visible : ∀ step ∈ steps, ∀ name : Text, step = name → name.head? ≠ some '.'
  opened : steps.length = 1 ∨ FilePath.fits (FilePath.below root steps.dropLast) = true
  direct : recursive = false → steps.length = 1

/-- An entry is skipped if its name is a text that starts with a point. -/
lemma isHidden_eq_false_iff {step : FilePath} :
    isHidden step = false ↔ ∀ name : Text, step = name → name.head? ≠ some '.' := by
  have hspelled : ∀ name : Text, step = name ↔ ofUtf8? step = some name :=
    fun _ => ofUtf8?_eq_some_iff.symm
  simp only [hspelled, isHidden]
  cases ofUtf8? step with
  | none => simp
  | some name => simp

/-- A scan reaches what a walk comes to from an entry of its root that is not skipped. -/
lemma reaches_cons_iff {recursive : Bool} {root name : FilePath} {rest : List FilePath} :
    Reaches recursive root (name :: rest) ↔
      isHidden name = false ∧ Follows recursive (Path.child root name) rest := by
  have hlength : (name :: rest).length = 1 ↔ rest = [] := by simp
  have hopened : (name :: rest).length = 1 ∨
      FilePath.fits (FilePath.below root (name :: rest).dropLast) = true ↔
      rest = [] ∨ FilePath.fits (FilePath.below (Path.child root name) rest.dropLast) = true := by
    rw [hlength]
    refine or_congr_right' fun hne => ?_
    rw [FilePath.below_dropLast_cons hne]
  constructor
  · rintro ⟨hvisible, hopen, hdirect⟩
    obtain ⟨hname, hrest⟩ := List.forall_mem_cons.mp hvisible
    exact ⟨isHidden_eq_false_iff.mpr hname,
      fun step hstep => isHidden_eq_false_iff.mpr (hrest step hstep), hopened.mp hopen, fun hnot => hlength.mp (hdirect hnot)⟩
  · rintro ⟨hname, hvisible, hopen, hdirect⟩
    exact ⟨List.forall_mem_cons.mpr ⟨isHidden_eq_false_iff.mp hname,
      fun step hstep => isHidden_eq_false_iff.mp (hvisible step hstep)⟩, hopened.mpr hopen,
      fun hnot => hlength.mpr (hdirect hnot)⟩

section Root

variable {recursive : Bool} {root : FilePath} {children : List (FilePath × Entry)}
  (htree : (folder children).IsTree)

include htree

/-- The entries of the root of a scan are walked in order, be the scan recursive or not. -/
lemma pairwise_reachedIn_root :
    (reachedIn recursive root children).Pairwise
      fun found other => Path.Precedes found.1 other.1 := by
  refine pairwise_reachedIn htree fun child hchild => ?_
  cases htree with
  | folder _ _ htrees => exact pairwise_reached (htrees child hchild)

/-- A scan comes to the files that it reaches and to the folders that it reaches but cannot
open. -/
lemma mem_reachedIn_root {found : FilePath × Entry} :
    found ∈ reachedIn recursive root children ↔ ∃ steps, found.1 = FilePath.below root steps ∧
      (folder children).Holds steps found.2 ∧ Reaches recursive root steps ∧
      IsEnd recursive found.1 found.2 := by
  cases htree with
  | folder _ _ htrees =>
    rw [mem_reachedIn]
    constructor
    · rintro ⟨child, hchild, hname, hmem⟩
      obtain ⟨rest, hpath, hholds, hfollows, hend⟩ := (mem_reached (htrees child hchild)).mp hmem
      exact ⟨child.1 :: rest, hpath, .inside hchild hholds,
        reaches_cons_iff.mpr ⟨hname, hfollows⟩, hend⟩
    · rintro ⟨steps, hpath, hholds, hreaches, hend⟩
      obtain ⟨place, entry⟩ := found
      cases steps with
      | nil =>
        -- no name leads to the root itself, which was opened
        cases hholds
        obtain rfl : place = root := hpath
        have hfits := hreaches.opened.resolve_left (by decide)
        exact absurd hfits (Bool.eq_false_iff.mp hend.2)
      | cons name rest =>
        obtain ⟨hname, hfollows⟩ := reaches_cons_iff.mp hreaches
        obtain ⟨child, hchild, hholds⟩ := holds_cons_iff.mp hholds
        exact ⟨_, hchild, hname,
          (mem_reached (htrees _ hchild)).mpr ⟨rest, hpath, hholds, hfollows, hend⟩⟩

end Root

end Entry

end ScriptFlow
