import ScriptFlow.Graph
import ScriptFlow.Proofs.Path.FileName

/-!
# What dependencies mean

A dependency means a file by the last step of its path alone.  A file of this name is meant
by any script.  If the name has no extension, the files with this stem are meant as well,
as long as their extension belongs to the language of the script (`Means`).

The definition compares whole paths, last steps, stems and extensions one after the other;
for file names without slashes this comes to the same (`namesFile_eq_true_iff`).
-/

namespace ScriptFlow

open ScriptFlow.Path Text

/-- The files that are meant by the last step of a dependency, from a script of a type. -/
inductive Means (last fileType : Text) : Text → Prop
  | name : Means last fileType last
  | stem {language : Language} {extension : Text} (hlast : '.' ∉ last.tail)
      (htag : language.tag = fileType) (hextension : toLower extension ∈ language.extensions) :
      Means last fileType (last ++ ['.'] ++ extension)

/-- A file that is meant has a name. -/
lemma Means.ne_nil {last fileType fileName : Text} (h : Means last fileType fileName)
    (hlast : IsFileName last) : fileName ≠ [] := by
  cases h with
  | name => exact hlast.ne_nil
  | stem => simp

/-- No extension of a language has a dot. -/
lemma Language.not_mem_of_mem_extensions {language : Language} {extension : Text}
    (h : toLower extension ∈ language.extensions) : '.' ∉ extension := by
  have hall : ∀ language ∈ Language.all, ∀ known ∈ language.extensions, '.' ∉ known := by decide
  have hnone := hall language language.mem_all _ h
  exact fun hmem => hnone (List.mem_map.mpr ⟨'.', hmem, rfl⟩)

/-- A name with an extension behind it is a name. -/
lemma Path.IsFileName.append_extension {name extension : Text} (h : IsFileName name)
    (hslash : '/' ∉ name ++ ['.'] ++ extension) : IsFileName (name ++ ['.'] ++ extension) := by
  obtain ⟨c, rest, rfl⟩ := List.exists_cons_of_ne_nil h.ne_nil
  refine ⟨List.cons_ne_nil _ _, hslash, fun hpoint => ?_, fun hpoints => ?_⟩
  · simp at hpoint
  · have hlength := congrArg List.length hpoints
    simp only [List.length_append, List.length_cons, List.length_nil] at hlength
    have hrest : rest = [] := List.length_eq_zero_iff.mp (by omega)
    have hcurrent : c = '.' := (List.cons.inj hpoints).1
    rw [hrest, hcurrent] at h
    exact h.ne_current rfl

/-- The stem and the extension of a file name are what stands around its last dot. -/
lemma stem?_and_extension?_iff {fileName stem extension : Text} (hslash : '/' ∉ fileName)
    (hstem : IsFileName stem) :
    stem? fileName = some stem ∧ extension? fileName = some extension ↔
      fileName = stem ++ ['.'] ++ extension ∧ '.' ∉ extension := by
  constructor
  · rintro ⟨hs, he⟩
    obtain ⟨name, hname, hcut⟩ := Option.bind_eq_some_iff.mp he
    obtain rfl := fileName?_eq_self hslash hname
    obtain ⟨⟨front, rest⟩, hparts, rfl⟩ := Option.map_eq_some_iff.mp hcut
    rw [stem?, hname, Option.map_some, hparts, Option.map_some, Option.getD_some,
      Option.some_inj] at hs
    obtain ⟨hwhole, -, hdot⟩ := cutExtension?_eq_some_iff.mp hparts
    subst hs
    rw [List.append_assoc]
    exact ⟨hwhole, hdot⟩
  · rintro ⟨rfl, hdot⟩
    have hname := (EndsIn.alone (hstem.append_extension hslash)).fileName?_eq
    have hparts : cutExtension? (stem ++ ['.'] ++ extension) = some (stem, extension) := by
      rw [cutExtension?_eq_some_iff, List.append_assoc]
      exact ⟨rfl, hstem.ne_nil, hdot⟩
    constructor
    · rw [stem?, hname, Option.map_some, hparts, Option.map_some, Option.getD_some]
    · rw [extension?, hname, Option.bind_some, hparts, Option.map_some]

/-- The files that are meant by a stem have an extension of the language of the script. -/
lemma fits_iff {fileName fileType last : Text} (hslash : '/' ∉ fileName) (hlast : IsFileName last) :
    (stem? fileName == some last && (match Language.ofTag? fileType, extension? fileName with
        | some language, some extension => language.extensions.contains (toLower extension)
        | _, _ => false)) = true ↔
      ∃ (language : Language) (extension : Text), language.tag = fileType ∧
        toLower extension ∈ language.extensions ∧ fileName = last ++ ['.'] ++ extension := by
  rw [Bool.and_eq_true, beq_iff_eq]
  constructor
  · rintro ⟨hstem, hfits⟩
    split at hfits
    next language extension htag hextension =>
      have hknown := List.contains_iff_mem.mp hfits
      obtain ⟨hname, -⟩ := (stem?_and_extension?_iff hslash hlast).mp ⟨hstem, hextension⟩
      exact ⟨language, extension, Language.ofTag?_eq_some_iff.mp htag, hknown, hname⟩
    next => cases hfits
  · rintro ⟨language, extension, htag, hknown, hname⟩
    have hdot := Language.not_mem_of_mem_extensions hknown
    obtain ⟨hstem, hextension⟩ := (stem?_and_extension?_iff hslash hlast).mpr ⟨hname, hdot⟩
    refine ⟨hstem, ?_⟩
    rw [Language.ofTag?_eq_some_iff.mpr htag, hextension]
    exact List.contains_iff_mem.mpr hknown

/-- A dependency without a last step means no file. -/
lemma exists_endsIn_of_namesFile {token : Path} {fileType fileName : Text}
    (h : namesFile token fileType fileName = true) : ∃ last, EndsIn last token := by
  cases hlast : fileName? token with
  | none =>
    unfold namesFile at h
    rw [hlast] at h
    cases h
  | some last => exact ⟨last, endsIn_of_fileName? hlast⟩

section Resolution

variable {fileName : Text} (hslash : '/' ∉ fileName)

include hslash

/-- A dependency means what its last step means. -/
lemma namesFile_iff_means {token : Path} {last : Text} (h : EndsIn last token) (fileType : Text) :
    namesFile token fileType fileName = true ↔ Means last fileType fileName := by
  have hlast : IsFileName last := h.isFileName
  -- a dependency without slashes is its own last step
  have hwhole : token = fileName → last = fileName := by
    rintro rfl
    exact fileName?_eq_self hslash h.fileName?_eq
  have hextension : (extension? token).isNone = true ↔ '.' ∉ last.tail := by
    rw [extension?, h.fileName?_eq, Option.bind_some, Option.isNone_iff_eq_none,
      Option.map_eq_none_iff]
    exact cutExtension?_eq_none_iff
  unfold namesFile
  simp only [h.fileName?_eq, Bool.and_assoc]
  rw [Bool.and_eq_true, Bool.or_eq_true, Bool.or_eq_true, beq_iff_eq, beq_iff_eq, Bool.and_eq_true,
    hextension]
  constructor
  · rintro ⟨-, (hsame | hsame) | ⟨hdot, hfits⟩⟩
    · rw [← hwhole hsame]
      exact .name
    · rw [← hsame]
      exact .name
    · obtain ⟨language, extension, htag, hknown, rfl⟩ := (fits_iff hslash hlast).mp hfits
      exact .stem hdot htag hknown
  · intro hmeans
    cases hmeans with
    | name => exact ⟨by simp [hlast.ne_nil], .inl (.inr rfl)⟩
    | @stem language extension hdot htag hknown =>
      have hfits := (fits_iff hslash hlast).mpr ⟨language, extension, htag, hknown, rfl⟩
      exact ⟨by simp, .inr ⟨hdot, hfits⟩⟩

/-- Which files a dependency means: those that are called like its last step, and if this step
has no extension, those with this stem and an extension of the language of the script.  The
folders before the last step make no difference, and a last step with an extension means
only the file of this name. -/
theorem namesFile_eq_true_iff (token : Path) (fileType : Text) :
    (namesFile token fileType fileName = true ↔
      fileName ≠ [] ∧ ∃ last, EndsIn last token ∧ Means last fileType fileName) ∧
    (∀ last, EndsIn last token →
      namesFile token fileType fileName = namesFile last fileType fileName) ∧
    ∀ last, EndsIn last token → '.' ∈ last.tail →
      (namesFile token fileType fileName = true ↔ fileName = last) := by
  refine ⟨?_, ?_, ?_⟩
  · constructor
    · intro h
      obtain ⟨last, hlast⟩ := exists_endsIn_of_namesFile h
      have hmeans := (namesFile_iff_means hslash hlast fileType).mp h
      exact ⟨hmeans.ne_nil hlast.isFileName, last, hlast, hmeans⟩
    · rintro ⟨-, last, hlast, hmeans⟩
      exact (namesFile_iff_means hslash hlast fileType).mpr hmeans
  · intro last hlast
    have halone : EndsIn last last := .alone hlast.isFileName
    rw [Bool.eq_iff_iff, namesFile_iff_means hslash hlast, namesFile_iff_means hslash halone]
  · intro last hlast hdot
    rw [namesFile_iff_means hslash hlast]
    constructor
    · intro hmeans
      cases hmeans with
      | name => rfl
      | stem hnone => exact absurd hdot hnone
    · rintro rfl
      exact .name

end Resolution

/-- A dependency on a folder's file by its stem, from a script whose language has the extension
of the file in lower case. -/
theorem namesFile_eq_true_iff_helper :
    '/' ∉ ("helper.TSX" : Text) ∧ EndsIn "helper" "./lib//helper/./" ∧
      Means "helper" "typescript" "helper.TSX" ∧
      namesFile "./lib//helper/./" "typescript" "helper.TSX" = true ∧
      namesFile "helper" "typescript" "helper.TSX" = true := by
  have hslash : '/' ∉ ("helper.TSX" : Text) := by decide
  have hends : EndsIn "helper" "./lib//helper/./" := endsIn_of_fileName? (by decide)
  have hmeans : Means "helper" "typescript" ("helper" ++ ['.'] ++ "TSX") :=
    @Means.stem "helper" "typescript" .typeScript "TSX" (by decide) rfl (by decide)
  obtain ⟨hnames, hfolders, -⟩ :=
    namesFile_eq_true_iff hslash "./lib//helper/./" "typescript"
  have htrue := hnames.mpr ⟨by decide, "helper", hends, hmeans⟩
  exact ⟨hslash, hends, hmeans, htrue, (hfolders "helper" hends).symm.trans htrue⟩

end ScriptFlow
