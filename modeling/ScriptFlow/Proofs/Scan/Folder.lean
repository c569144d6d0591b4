import ScriptFlow.Proofs.Scan.Walk

/-!
# Scans of folders

The scan of a folder reads the files that meet its conditions, each once and in the order of
their paths (`Scan.Visits`): a file before the files of the folder that follows it by name.
Its table is the one of the scripts that it could read, with an issue for each file that it
could not and each folder that it could not open (`Scan.exists_visits`).
-/

namespace ScriptFlow

open Text

/-- The language of a file is that of its name. -/
lemma Language.ofPath?_child {name : FilePath} (hname : Path.IsFileName name) (folder : FilePath) :
    Language.ofPath? (Path.child folder name) = Language.ofPath? name := by
  have hchild : ∀ folder : FilePath, Path.fileName? (Path.child folder name) = some name :=
    fun folder => Path.fileName?_foldl_child (List.forall_mem_singleton.mpr hname) folder
      (List.cons_ne_nil _ _)
  have hname : Path.fileName? name = some name := hchild []
  rw [Language.ofPath?, Language.ofPath?, Path.extension?, Path.extension?, hchild, hname]

namespace Scan

/-! ## What a scan reads -/

/-- A scan of the folder at a path is to read the file that some names lead to. -/
structure IsScanned (options : ScanOptions) (root : FilePath) (steps : List FilePath) : Prop
    extends Entry.Reaches options.recursive root steps where
  language : (Language.ofPath? (FilePath.below root steps)).isSome = true
  pattern : ∀ pattern ∈ options.pattern, ∃ name : Text,
    steps.getLast? = some (name : FilePath) ∧ pattern.occursIn name = true

/-- A scan of the folder at a path is to go on at the folder that some names lead to, but its
path is too long. -/
structure IsClosed (options : ScanOptions) (root : FilePath) (steps : List FilePath) : Prop
    extends Entry.Reaches options.recursive root steps where
  recursive : options.recursive = true
  tooLong : FilePath.fits (FilePath.below root steps) = false

/-- The script that is read at a path: a text in a known language, if the path is not too
long. -/
def script? : FilePath × Entry → Option Script
  | (path, .file bytes) =>
    match FilePath.fits path, Language.ofPath? path, String.fromUTF8? bytes with
    | true, some language, some text => some (Script.ofContents path language text.toList)
    | _, _, _ => none
  | (_, .folder _) => none

/-- The issue of what is at a path: a path that is too long, or a file that is no text. -/
def issue? : FilePath × Entry → Option Issue
  | (path, .file bytes) =>
    match FilePath.fits path, String.fromUTF8? bytes with
    | true, some _ => none
    | true, none => some { kind := .io, file := path, message := FileFault.notText.message }
    | false, _ => some { kind := .io, file := path, message := FileFault.tooLong.message }
  | (path, .folder _) => some (closedFolder path)

/-- The conditions on a path are those on the language and on the file name. -/
lemma includes_iff {options : ScanOptions} {path : FilePath} :
    includes options path = true ↔ (Language.ofPath? path).isSome = true ∧
      ∀ pattern ∈ options.pattern, ∃ name : Text,
        Path.fileName? path = some (name : FilePath) ∧ pattern.occursIn name = true := by
  have hspelled : ∀ name : Text, Path.fileName? path = some (name : FilePath) ↔
      (Path.fileName? path).bind ofUtf8? = some name := by
    intro name
    rw [Option.bind_eq_some_iff]
    simp only [ofUtf8?_eq_some_iff]
    constructor
    · exact fun h => ⟨_, h, rfl⟩
    · rintro ⟨_, h, rfl⟩
      exact h
  rw [includes, Bool.and_eq_true]
  refine and_congr_right fun _ => ?_
  simp only [hspelled]
  cases options.pattern with
  | none => simp
  | some pattern => simp [Option.any_eq_true]

/-- A scan makes the script or the issue of it of a file that it includes. -/
lemma visit?_file {options : ScanOptions} {path : FilePath} (bytes : ByteArray)
    (hincludes : includes options path = true) :
    (∃ script, visit? options path (.file bytes) = some (.ok script) ∧
        script? (path, .file bytes) = some script ∧ issue? (path, .file bytes) = none) ∨
      ∃ issue, visit? options path (.file bytes) = some (.error issue) ∧
        script? (path, .file bytes) = none ∧ issue? (path, .file bytes) = some issue := by
  obtain ⟨language, hlanguage⟩ := Option.isSome_iff_exists.mp (includes_iff.mp hincludes).1
  have hlanguageOf : languageOf path = .ok language := by rw [languageOf, hlanguage]
  have hread : readScript path (.file bytes) =
      (((Entry.file bytes).readAt path).map (Script.ofContents path language)).mapError
        (.unreadable path) := by
    rw [readScript, hlanguageOf]
    cases (Entry.file bytes).readAt path <;> rfl
  rw [visit?, if_pos hincludes, hread, Entry.readAt, Entry.read, script?, issue?, hlanguage]
  cases FilePath.fits path with
  | false => exact .inr ⟨_, rfl, rfl, rfl⟩
  | true =>
    cases String.fromUTF8? bytes with
    | none => exact .inr ⟨_, rfl, rfl, rfl⟩
    | some text => exact .inl ⟨_, rfl, rfl, rfl⟩

/-- At a path that is too long a scan makes an issue of a file that it includes. -/
lemma visit?_of_not_fits {options : ScanOptions} {path : FilePath} (bytes : ByteArray)
    (hincludes : includes options path = true) (hlong : FilePath.fits path = false) :
    visit? options path (.file bytes) =
      some (.error { kind := .io, file := path, message := FileFault.tooLong.message }) := by
  have hscript : script? (path, .file bytes) = none := by rw [script?, hlong]
  have hissue : issue? (path, .file bytes) =
      some { kind := .io, file := path, message := FileFault.tooLong.message } := by
    rw [issue?, hlong]
  rcases visit?_file bytes hincludes with ⟨_, -, hsome, -⟩ | ⟨issue, hvisit, -, hsome⟩
  · rw [hscript] at hsome
    cases hsome
  · rw [hvisit, Option.some.inj (hsome.symm.trans hissue)]

/-- A scan makes something of a file if it includes it. -/
lemma isSome_visit?_file {options : ScanOptions} {path : FilePath} {bytes : ByteArray} :
    (visit? options path (.file bytes)).isSome = includes options path := by
  cases hincludes : includes options path with
  | false => rw [visit?, hincludes, if_neg Bool.false_ne_true, Option.isSome_none]
  | true =>
    rcases visit?_file bytes hincludes with ⟨_, hvisit, -⟩ | ⟨_, hvisit, -⟩ <;>
      rw [hvisit, Option.isSome_some]

/-- What a scan makes of something that it comes to is the script or the issue of it. -/
lemma visit?_eq {options : ScanOptions} {found : FilePath × Entry} {visit : Except Issue Script}
    (h : visit? options found.1 found.2 = some visit) :
    (∃ script, visit = .ok script ∧ script? found = some script ∧ issue? found = none) ∨
      ∃ issue, visit = .error issue ∧ script? found = none ∧ issue? found = some issue := by
  obtain ⟨path, bytes | children⟩ := found
  · have hincludes : includes options path = true := by
      rw [← isSome_visit?_file, h, Option.isSome_some]
    rcases visit?_file bytes hincludes with ⟨script, hvisit, hresults⟩ | ⟨issue, hvisit, hresults⟩
    · exact .inl ⟨script, Option.some.inj (h.symm.trans hvisit), hresults⟩
    · exact .inr ⟨issue, Option.some.inj (h.symm.trans hvisit), hresults⟩
  · exact .inr ⟨_, (Option.some.inj h).symm, rfl, rfl⟩

/-- What a scan comes to below a folder and makes something of, each once and in the order of
the paths: the files that it is to read, and the folders that it cannot open. -/
structure Visits (options : ScanOptions) (root : FilePath) (children : List (FilePath × Entry))
    (visited : List (FilePath × Entry)) : Prop where
  mem_file_iff : ∀ path bytes, (path, .file bytes) ∈ visited ↔
    ∃ steps, path = FilePath.below root steps ∧
      (Entry.folder children).Holds steps (.file bytes) ∧ IsScanned options root steps
  mem_folder_iff : ∀ path entries, (path, .folder entries) ∈ visited ↔
    ∃ steps, path = FilePath.below root steps ∧
      (Entry.folder children).Holds steps (.folder entries) ∧ IsClosed options root steps
  ordered : (visited.map Prod.fst).Pairwise Path.Precedes
  nodup : visited.Nodup

/-- There is only one list of what a scan visits: what is in a list whose paths ascend
determines it. -/
theorem Visits.eq {options : ScanOptions} {root : FilePath} {children : List (FilePath × Entry)}
    {founds others : List (FilePath × Entry)} (hfounds : Visits options root children founds)
    (hothers : Visits options root children others) : founds = others := by
  have hperm : founds.Perm others := by
    rw [List.perm_ext_iff_of_nodup hfounds.nodup hothers.nodup]
    rintro ⟨path, bytes | entries⟩
    · exact (hfounds.mem_file_iff path bytes).trans (hothers.mem_file_iff path bytes).symm
    · exact (hfounds.mem_folder_iff path entries).trans (hothers.mem_folder_iff path entries).symm
  have hpaths := List.pairwise_map.mp hfounds.ordered
  have hpaths' := List.pairwise_map.mp hothers.ordered
  refine hperm.eq_of_pairwise (fun found other _ _ hbefore hafter => ?_) hpaths hpaths'
  exact absurd hafter (Path.Precedes.asymm hbefore)

/-- What a walk comes to and a scan makes something of. -/
def visited (options : ScanOptions) (root : FilePath) (children : List (FilePath × Entry)) :
    List (FilePath × Entry) :=
  (Entry.reachedIn options.recursive root children).filter fun found =>
    (visit? options found.1 found.2).isSome

section Folder

variable (options : ScanOptions) (root : FilePath) {children : List (FilePath × Entry)}
  (htree : (Entry.folder children).IsTree)

include htree

/-- The last of the names that lead to a file is its file name. -/
lemma fileName?_below {steps : List FilePath} {bytes : ByteArray}
    (hholds : (Entry.folder children).Holds steps (.file bytes)) :
    Path.fileName? (FilePath.below root steps) = steps.getLast? := by
  refine Path.fileName?_foldl_child (hholds.isFileName htree) root ?_
  rintro rfl
  cases hholds

/-- The files that a scan visits are those that meet its conditions. -/
lemma mem_visited_file {path : FilePath} {bytes : ByteArray} :
    (path, .file bytes) ∈ visited options root children ↔
      ∃ steps, path = FilePath.below root steps ∧
        (Entry.folder children).Holds steps (.file bytes) ∧ IsScanned options root steps := by
  rw [visited, List.mem_filter, Entry.mem_reachedIn_root htree, isSome_visit?_file, includes_iff]
  constructor
  · rintro ⟨⟨steps, rfl, hholds, hreaches, -⟩, hlanguage, hpattern⟩
    rw [fileName?_below root htree hholds] at hpattern
    exact ⟨steps, rfl, hholds, hreaches, hlanguage, hpattern⟩
  · rintro ⟨steps, rfl, hholds, hscanned⟩
    rw [fileName?_below root htree hholds]
    exact ⟨⟨steps, rfl, hholds, hscanned.toReaches, trivial⟩, hscanned.language,
      hscanned.pattern⟩

/-- The folders that a scan visits are those that it comes to but cannot open. -/
lemma mem_visited_folder {path : FilePath} {entries : List (FilePath × Entry)} :
    (path, .folder entries) ∈ visited options root children ↔
      ∃ steps, path = FilePath.below root steps ∧
        (Entry.folder children).Holds steps (.folder entries) ∧ IsClosed options root steps := by
  rw [visited, List.mem_filter, Entry.mem_reachedIn_root htree]
  constructor
  · rintro ⟨⟨steps, rfl, hholds, hreaches, hrecursive, htooLong⟩, -⟩
    exact ⟨steps, rfl, hholds, hreaches, hrecursive, htooLong⟩
  · rintro ⟨steps, rfl, hholds, hclosed⟩
    exact ⟨⟨steps, rfl, hholds, hclosed.toReaches, hclosed.recursive, hclosed.tooLong⟩, rfl⟩

/-- The paths of what a scan visits ascend. -/
lemma pairwise_visited :
    (visited options root children).Pairwise
      fun found other => Path.Precedes found.1 other.1 :=
  (Entry.pairwise_reachedIn_root htree).filter _

lemma visits_visited : Visits options root children (visited options root children) where
  mem_file_iff _ _ := mem_visited_file options root htree
  mem_folder_iff _ _ := mem_visited_folder options root htree
  ordered := List.pairwise_map.mpr (pairwise_visited options root htree)
  nodup := by
    refine (pairwise_visited options root htree).imp fun hprecedes heq => ?_
    exact hprecedes.ne (congrArg Prod.fst heq)

end Folder

/-! ## The table of a folder -/

/-- The scripts and the issues of what a scan comes to are those of what it visits. -/
lemma ofVisits_filterMap (options : ScanOptions) (founds : List (FilePath × Entry)) :
    Sources.ofVisits (founds.filterMap fun found => visit? options found.1 found.2) =
      ⟨(founds.filter fun found => (visit? options found.1 found.2).isSome).filterMap script?,
        (founds.filter fun found => (visit? options found.1 found.2).isSome).filterMap issue?⟩ := by
  induction founds with
  | nil => rfl
  | cons found rest ih =>
    rw [List.filterMap_cons, List.filter_cons]
    cases hvisit : visit? options found.1 found.2 with
    | none =>
      rw [Option.isSome_none, if_neg Bool.false_ne_true]
      exact ih
    | some visit =>
      rw [Option.isSome_some, if_pos rfl, List.filterMap_cons, List.filterMap_cons]
      rcases visit?_eq hvisit with
        ⟨script, rfl, hscript, hissue⟩ | ⟨issue, rfl, hscript, hissue⟩ <;>
        rw [hscript, hissue, Sources.ofVisits, ih]

/-- The scan of a folder reads the files below it that no hidden entry leads to, that have a
language and match the pattern, and that are right in the folder unless the scan is recursive.
Its table is that of those of them that are text, in the order of their paths, with an issue
before for each one that is not.

What the file system does not take is never reached: there is an issue as well for a file with
a path that is too long, and for a folder with one, and nothing is known of what is below it. -/
theorem exists_visits (options : ScanOptions) (root : FilePath)
    {children : List (FilePath × Entry)} (htree : (Entry.folder children).IsTree) :
    ∃ visited, Visits options root children visited ∧
      (sourcesAt options root (.ok (.folder children))).map (Sources.table options) =
        .ok (table options (visited.filterMap script?) (visited.filterMap issue?)) := by
  refine ⟨_, visits_visited options root htree, ?_⟩
  simp only [sourcesAt, sources, ofVisits_filterMap, Except.map, Sources.table, visited]

/-- A name that starts with a point but is no text: the byte behind the point starts no
character. -/
def pointedName : FilePath :=
  [0x2E, 0xFF, 0x2E, 0x52]

/-- A file that is no text, a file in a hidden folder and one in a folder called like a script,
two scripts where the file names and the paths are in different orders, and one whose name
starts with a point. -/
def mixedFiles : List (List FilePath × ByteArray) :=
  [(["a.R"], "x <- 1".toUTF8), (["a", "b.R"], "y <- 2".toUTF8), (["bad.R"], ⟨#[0xFF]⟩),
    ([".git", "c.R"], "z <- 3".toUTF8), (["d.R", "e.txt"], "text".toUTF8),
    ([pointedName], "w <- 4".toUTF8)]

/-- The folder with these files. -/
def mixedFolder : List (FilePath × Entry) :=
  mixedFiles.foldl (fun children file => Entry.putFile file.2 file.1 children) []

theorem exists_visits_mixedFolder :
    (Entry.folder mixedFolder).IsTree ∧
      (sourcesAt {} "src" (.ok (.folder mixedFolder))).map (Sources.table {}) =
        .ok (table {} [⟨Path.child "src" pointedName, .r, ["w <- 4"]⟩,
            ⟨"src/a/b.R", .r, ["y <- 2"]⟩, ⟨"src/a.R", .r, ["x <- 1"]⟩]
          [{ kind := .io, file := "src/bad.R", message := FileFault.notText.message }]) := by
  have htree : (Entry.folder mixedFolder).IsTree :=
    Entry.isTree_empty.foldl_putFile (by decide)
  obtain ⟨founds, hfounds, htable⟩ := exists_visits {} "src" htree
  obtain rfl := hfounds.eq (visits_visited {} "src" htree)
  have hscripts : (visited {} "src" mixedFolder).filterMap script? =
      [⟨Path.child "src" pointedName, .r, ["w <- 4"]⟩,
        ⟨"src/a/b.R", .r, ["y <- 2"]⟩, ⟨"src/a.R", .r, ["x <- 1"]⟩] := by
    decide +kernel
  have hissues : (visited {} "src" mixedFolder).filterMap issue? =
      [{ kind := .io, file := "src/bad.R", message := FileFault.notText.message }] := by
    decide +kernel
  rw [hscripts, hissues] at htable
  exact ⟨htree, htable⟩

/-- The contents of a file with an annotation. -/
def labelled : ByteArray :=
  "# put label:\"x\"".toUTF8

/-- A path that the file system takes, but not with a file name behind it: `./` again and
again. -/
def longPath : FilePath :=
  (List.replicate 2047 [0x2E, 0x2F]).flatten

/-- The issue of the file `a.R` at this path. -/
def longPathIssue : Issue where
  kind := .io
  file := Path.child longPath "a.R"
  message := FileFault.tooLong.message

lemma length_longPath : longPath.length = 4094 := by
  rw [longPath, List.length_flatten, List.map_replicate, List.sum_replicate_nat]
  rfl

/-- A point in front does not hide every name, and not every text that a walk comes to is read.
A file whose name starts with a point is a script if the name is no text; and below a path that
is nearly as long as it may be a file is an issue, although its contents are a text. -/
theorem exists_visits_exceptions :
    (pointedName.head? = some Path.Letter.point ∧
      (sourcesAt {} "src" (.ok (.folder [(pointedName, .file labelled)]))).map
          (Sources.table {}) =
        .ok (table {} [⟨Path.child "src" pointedName, .r, ["# put label:\"x\""]⟩] []) ∧
      table {} [⟨Path.child "src" pointedName, .r, ["# put label:\"x\""]⟩] [] ≠
        table {} [] []) ∧
    FilePath.fits longPath = true ∧
      (sourcesAt {} longPath (.ok (.folder [("a.R", .file labelled)]))).map (Sources.table {}) =
        .ok (table {} [] [longPathIssue]) ∧
      table {} [] [longPathIssue] ≠
        table {} [⟨Path.child longPath "a.R", .r, ["# put label:\"x\""]⟩] [] := by
  have hname : Path.IsFileName ("a.R" : FilePath) := by decide
  have hvisible : Entry.isHidden "a.R" = false := by decide +kernel
  have hincludes : includes {} (Path.child longPath "a.R") = true := by
    rw [includes_iff, Language.ofPath?_child hname]
    exact ⟨by decide +kernel, fun pattern h => by cases h⟩
  have hlong : FilePath.fits (Path.child longPath "a.R") = false := by
    have hlength := FilePath.length_add_length_le_length_child longPath "a.R"
    have hthree : ("a.R" : FilePath).length = 3 := by decide
    rw [length_longPath, hthree] at hlength
    rw [FilePath.fits, decide_eq_false_iff_not, FilePath.limit]
    omega
  have hreached : Entry.reachedIn ({} : ScanOptions).recursive longPath [("a.R", .file labelled)] =
      [(Path.child longPath "a.R", .file labelled)] := by
    rw [Entry.reachedIn, hvisible, if_neg Bool.false_ne_true]
    rfl
  refine ⟨⟨rfl, by decide +kernel, by decide +kernel⟩, ?_, ?_, ?_⟩
  · rw [FilePath.fits, length_longPath]
    rfl
  · rw [sourcesAt, sources, hreached, List.filterMap_cons,
      visit?_of_not_fits labelled hincludes hlong]
    rfl
  · intro heq
    have hissues := congrArg (fun table => table.issues.length) heq
    revert hissues
    decide +kernel

end Scan

end ScriptFlow
