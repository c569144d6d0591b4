import ScriptFlow.Annotation.Printer
import ScriptFlow.CommandLine.Sink
import ScriptFlow.Diagram.Options
import ScriptFlow.Scan.Options

/-!
# Arguments

The arguments of the command line.  An option is given by its name after two
hyphens, and some by a letter after one; letters can share a hyphen.  The value of
an option is the rest of its argument, after a sign of equality if there is one,
or else the next argument, which then must not look like an option.  After `--`
nothing is an option.

No option but the one that raises the verbosity can be given twice, and exactly
one argument is the path to scan.

Asking for the version ends the reading: nothing is scanned then, and the arguments
after it do not matter, but those before it have to be right on their own.
-/

namespace ScriptFlow

/-- What is printed. -/
inductive OutputFormat where
  | diagram
  | table
  | suggestions
  deriving DecidableEq, Repr

/-- The choices of one run. -/
structure Arguments where
  path : FilePath
  mode : ScanMode
  strategy : MergeStrategy
  recursive : Bool
  pattern : Option Text
  theme : Text
  palette : Option FilePath
  direction : Direction
  labels : LabelMode
  showFiles : Bool
  showArtifacts : Bool
  groupByFile : Bool
  boundaries : Bool
  styled : Bool
  links : Option LinkScheme
  title : Option Text
  format : OutputFormat
  layout : AnnotationLayout
  sink : Sink
  target : Option FilePath
  verbosity : Verbosity
  deriving DecidableEq, Repr

namespace Arguments

/-! ### Options -/

/-- The options that have a value. -/
inductive ValueOption where
  | mode
  | mergeStrategy
  | pattern
  | theme
  | palette
  | direction
  | nodeLabels
  | clicks
  | title
  | format
  | output
  | outputFile
  deriving DecidableEq, Repr

/-- The options that are given or not. -/
inductive Switch where
  | noRecursive
  | showFiles
  | showArtifacts
  | groupByFile
  | noBoundaries
  | noStyles
  | multiline
  | verbose
  | quiet
  deriving DecidableEq, Repr

/-- An option. -/
inductive AnyOption where
  | value (option : ValueOption)
  | switch (option : Switch)
  | version
  deriving DecidableEq, Repr

/-- The options by name. -/
def byName : List (Text × AnyOption) :=
  [("mode", .value .mode), ("merge-strategy", .value .mergeStrategy),
    ("pattern", .value .pattern), ("theme", .value .theme), ("palette", .value .palette),
    ("direction", .value .direction), ("node-labels", .value .nodeLabels),
    ("clicks", .value .clicks), ("title", .value .title), ("format", .value .format),
    ("output", .value .output), ("output-file", .value .outputFile),
    ("no-recursive", .switch .noRecursive), ("show-files", .switch .showFiles),
    ("show-artifacts", .switch .showArtifacts), ("group-by-file", .switch .groupByFile),
    ("no-boundaries", .switch .noBoundaries), ("no-styles", .switch .noStyles),
    ("multiline", .switch .multiline), ("verbose", .switch .verbose),
    ("quiet", .switch .quiet), ("version", .version)]

/-- The options by letter. -/
def byLetter : List (Char × AnyOption) :=
  [('f', .value .format), ('o', .value .output), ('v', .switch .verbose),
    ('q', .switch .quiet), ('V', .version)]

/-- The option with a name. -/
def named? (name : Text) : Option AnyOption :=
  (byName.find? fun entry => entry.1 == name).map Prod.snd

/-- The option with a letter. -/
def lettered? (letter : Char) : Option AnyOption :=
  (byLetter.find? fun entry => entry.1 == letter).map Prod.snd

/-! ### Occurrences -/

/-- What an argument turned out to be. -/
inductive Occurrence where
  | path (text : Text)
  | switch (option : Switch)
  | value (option : ValueOption) (text : Text)
  | version
  deriving DecidableEq, Repr

/-- What one argument gives: occurrences, and an option that waits for a value. -/
structure Parsed where
  found : List Occurrence
  waiting : Option ValueOption
  deriving DecidableEq, Repr

/-- Reads an argument after its two hyphens. -/
def parseName (t : Text) : Option Parsed :=
  match Text.cut? ['='] t with
  | some (name, value) =>
    match named? name with
    | some (.value option) => some ⟨[.value option value], none⟩
    | _ => none
  | none =>
    match named? t with
    | some (.value option) => some ⟨[], some option⟩
    | some (.switch option) => some ⟨[.switch option], none⟩
    | some .version => some ⟨[.version], none⟩
    | none => none

/-- Reads an argument after its one hyphen. -/
def parseLetters : Text → Option Parsed
  | [] => some ⟨[], none⟩
  | letter :: rest =>
    match lettered? letter with
    | none => none
    | some .version => some ⟨[.version], none⟩
    | some (.switch option) =>
      (parseLetters rest).map fun parsed =>
        { parsed with found := .switch option :: parsed.found }
    | some (.value option) =>
      match rest with
      | [] => some ⟨[], some option⟩
      | '=' :: value => some ⟨[.value option value], none⟩
      | value => some ⟨[.value option value], none⟩

/-- Whether the version is asked for. -/
def asksVersion (found : List Occurrence) : Bool :=
  found.contains .version

/-- Reads arguments, of which the first may be the value that an option waits
for, up to one that asks for the version. -/
def occurrencesFrom : Option ValueOption → List Text → Option (List Occurrence)
  | none, [] => some []
  | some _, [] => none
  | waiting, argument :: rest =>
    match argument with
    | '-' :: '-' :: name =>
      if waiting.isSome then none
      else if name.isEmpty then some (rest.map .path)
      else
        (parseName name).bind fun parsed =>
          if asksVersion parsed.found then some parsed.found
          else (occurrencesFrom parsed.waiting rest).map (parsed.found ++ ·)
    | '-' :: letter :: letters =>
      if waiting.isSome then none
      else
        (parseLetters (letter :: letters)).bind fun parsed =>
          if asksVersion parsed.found then some parsed.found
          else (occurrencesFrom parsed.waiting rest).map (parsed.found ++ ·)
    | text =>
      let occurrence :=
        match waiting with
        | some option => Occurrence.value option text
        | none => .path text
      (occurrencesFrom none rest).map (occurrence :: ·)

/-- Reads all arguments. -/
def occurrences (arguments : List Text) : Option (List Occurrence) :=
  occurrencesFrom none arguments

/-! ### Choices -/

/-- The number of times a switch was given. -/
def timesGiven (option : Switch) (found : List Occurrence) : Nat :=
  found.count (.switch option)

/-- Whether a switch was given, which it may be only once. -/
def isGiven? (option : Switch) (found : List Occurrence) : Option Bool :=
  if timesGiven option found ≤ 1 then some (timesGiven option found == 1) else none

/-- The values that an option was given. -/
def valuesOf (option : ValueOption) (found : List Occurrence) : List Text :=
  found.filterMap fun occurrence =>
    match occurrence with
    | .value other text => if other = option then some text else none
    | _ => none

/-- The value of an option, which may be given only once. -/
def value? (option : ValueOption) (found : List Occurrence) : Option (Option Text) :=
  match valuesOf option found with
  | [] => some none
  | [text] => some (some text)
  | _ => none

/-- Reads one of some names exactly. -/
def exactly? {α : Type} (choices : List (Text × α)) (text : Text) : Option α :=
  (choices.find? fun choice => choice.1 == text).map Prod.snd

/-- Reads a path, which is not empty. -/
def path? (text : Text) : Option FilePath :=
  if text.isEmpty then none else some text

/-- Reads the value of an option if it was given. -/
def optional? {α : Type} (option : ValueOption) (read : Text → Option α)
    (found : List Occurrence) : Option (Option α) :=
  match value? option found with
  | none => none
  | some none => some none
  | some (some text) => (read text).map some

/-- Reads the value of an option that has a standard value. -/
def withStandard? {α : Type} (option : ValueOption) (standard : α) (read : Text → Option α)
    (found : List Occurrence) : Option α :=
  (optional? option read found).map fun value => value.getD standard

/-- The paths to scan. -/
def pathsOf (found : List Occurrence) : List Text :=
  found.filterMap fun occurrence =>
    match occurrence with
    | .path text => some text
    | _ => none

/-- The one path to scan. -/
def root? (found : List Occurrence) : Option FilePath :=
  match pathsOf found with
  | [path] => path? path
  | _ => none

/-- The names of the scan modes. -/
def modes : List (Text × ScanMode) :=
  [("annotations", .annotated), ("auto", .detected), ("merge", .merged)]

/-- The names of the formats. -/
def formats : List (Text × OutputFormat) :=
  [("mermaid", .diagram), ("table", .table), ("annotations", .suggestions)]

/-- The level of logging, which cannot be both raised and silenced. -/
def verbosity? (found : List Occurrence) : Option Verbosity := do
  let quiet ← isGiven? .quiet found
  let raised := timesGiven .verbose found
  if quiet then if raised = 0 then some .quiet else none
  else some (Verbosity.normal.raised raised)

/-- The choices that some occurrences make, for a path and a verbosity. -/
def choices? (found : List Occurrence) : Option (FilePath → Verbosity → Arguments) := do
  let mode ← withStandard? .mode .annotated (exactly? modes) found
  let strategy ←
    withStandard? .mergeStrategy .manualPriority (exactly? MergeStrategy.choices) found
  let noRecursive ← isGiven? .noRecursive found
  let pattern ← optional? .pattern some found
  let theme ← withStandard? .theme Theme.standard.name some found
  let palette ← optional? .palette path? found
  let direction ←
    withStandard? .direction .topDown
      (fun text => exactly? Direction.choices (Text.toLower text)) found
  let labels ← withStandard? .nodeLabels .label (exactly? LabelMode.choices) found
  let showFiles ← isGiven? .showFiles found
  let showArtifacts ← isGiven? .showArtifacts found
  let groupByFile ← isGiven? .groupByFile found
  let noBoundaries ← isGiven? .noBoundaries found
  let noStyles ← isGiven? .noStyles found
  let links ← optional? .clicks (exactly? LinkScheme.choices) found
  let title ← optional? .title some found
  let format ← withStandard? .format .diagram (exactly? formats) found
  let multiline ← isGiven? .multiline found
  let sink ← withStandard? .output .console (exactly? Sink.choices) found
  let target ← optional? .outputFile path? found
  some fun path verbosity =>
    { path, mode, strategy, recursive := !noRecursive, pattern, theme, palette, direction,
      labels, showFiles, showArtifacts, groupByFile, boundaries := !noBoundaries,
      styled := !noStyles, links, title, format,
      layout := if multiline then .multiline else .singleLine, sink, target, verbosity }

/-- All choices that some occurrences make. -/
def ofOccurrences? (found : List Occurrence) : Option Arguments := do
  let choices ← choices? found
  some (choices (← root? found) (← verbosity? found))

/-- Whether occurrences before one that asks for the version are right: a path may
still be missing, and what contradicts each other is not looked at. -/
def areRight (found : List Occurrence) : Bool :=
  let paths := pathsOf found
  (choices? found).isSome && (isGiven? .quiet found).isSome && paths.length ≤ 1 &&
    paths.all fun path => !path.isEmpty

end Arguments

/-- What the arguments ask for. -/
inductive Demand where
  | run (arguments : Arguments)
  | version
  deriving DecidableEq, Repr

/-- What the arguments ask for; `none` if they cannot be understood. -/
def Demand.parse? (arguments : List Text) : Option Demand :=
  match Arguments.occurrences arguments with
  | none => none
  | some found =>
    if Arguments.asksVersion found then
      if Arguments.areRight found then some version else none
    else (Arguments.ofOccurrences? found).map run

end ScriptFlow
