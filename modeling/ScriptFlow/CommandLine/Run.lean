import ScriptFlow.CommandLine.Arguments
import ScriptFlow.Diagram.Basic
import ScriptFlow.Json.Printer
import ScriptFlow.Scan.Folder
import ScriptFlow.Table.Json

/-!
# Runs

What a run of the program prints and writes, given its arguments and the files
there are.  A run ends at the first thing that fails, and then nothing is
printed but the error.
-/

namespace ScriptFlow

/-- The files that a run can ask for. -/
structure Files where
  find : FilePath → Except FileFault Entry

namespace Files

open Path.Letter

/-- The files in a folder, with paths from there. -/
def ofFolder (children : List (FilePath × Entry)) : Files where
  find := Entry.find children

/-- The text of a file. -/
def read (files : Files) (path : FilePath) : Except FileFault Text :=
  (files.find path).bind Entry.read

/-- The files at some paths, each with what is found there; at any other path
there is none. -/
def ofList (found : List (FilePath × Except FileFault Entry)) : Files where
  find := fun path =>
    match found.find? fun entry => entry.1 == path with
    | some (_, result) => result
    | none => .error .missing

/-- The path of the folder that a file is in or would be in. -/
def folderOf (path : FilePath) : FilePath :=
  match Text.cutLast? slash (path.reverse.dropWhile (· == slash)).reverse with
  | some ([], _) => [slash]
  | some (folder, _) => folder
  | none => [point]

/-- Why no file can be written at a path, if so.  Where there is none yet, the
folder must be there, and the path must not end like that of a folder. -/
def writeFault? (files : Files) (path : FilePath) : Option FileFault :=
  match files.find path with
  | .ok (.folder _) => some .isFolder
  | .ok (.file _) => none
  | .error .notFolder => some .notFolder
  | .error .tooLong => some .tooLong
  | .error _ =>
    match files.find (folderOf path) with
    | .ok (.folder _) => if path.getLast? == some slash then some .isFolder else none
    | .ok (.file _) => some .notFolder
    | .error fault => some fault

end Files

/-- Why a run failed. -/
inductive RunError where
  | missingTarget
  | setting (error : SettingError)
  | scan (error : ScanError)
  | palette (path : FilePath) (fault : FileFault)
  | table (error : TableError)
  | suggestion (error : SpellingError)
  | write (path : FilePath) (fault : FileFault)
  deriving DecidableEq, Repr

namespace RunError

/-- The wording of an error. -/
def message : RunError → Text
  | missingTarget => "--output file requires --output-file <PATH>"
  | setting error => error.message
  | scan error => error.message
  | palette path fault =>
    "Failed to read palette '" ++ Text.shown path ++ "': " ++ fault.message
  | table error => "Failed to serialize table: " ++ error.message
  | suggestion error => "Failed to generate annotations: " ++ error.message
  | write path fault => "Failed to write '" ++ Text.shown path ++ "': " ++ fault.message

end RunError

/-- A text for a file. -/
structure FileWrite where
  path : FilePath
  text : Text
  deriving DecidableEq, Repr

/-- What a run comes to. -/
structure Outcome where
  exitCode : Nat := 0
  stdout : Text := []
  stderr : Text := []
  write : Option FileWrite := none
  deriving DecidableEq, Repr

namespace Run

/-- The paths at which a run may look. -/
def paths (arguments : Arguments) : List FilePath :=
  arguments.path :: arguments.palette.toList ++
    arguments.target.toList.flatMap fun target => [target, Files.folderOf target]

/-- The options of the scan. -/
def scanOptions (wording : Wording) (arguments : Arguments) : Except RunError ScanOptions := do
  let pattern ←
    match arguments.pattern with
    | none => pure none
    | some text => ((ScanOptions.parsePattern wording text).map some).mapError .setting
  let options : ScanOptions :=
    { recursive := arguments.recursive
      pattern
      mode := arguments.mode
      strategy := arguments.strategy
      verbosity := arguments.verbosity }
  return options

/-- The table of the scan. -/
def table (wording : Wording) (files : Files) (arguments : Arguments) :
    Except RunError Table := do
  let options ← scanOptions wording arguments
  let sources ←
    (Scan.sourcesAt options arguments.path (files.find arguments.path)).mapError .scan
  return sources.table options

/-- The palette of the diagram, on top of the theme if there is one of that name. -/
def palette (wording : Wording) (files : Files) (arguments : Arguments) :
    Except RunError (Option Palette) :=
  match arguments.palette with
  | none => .ok none
  | some path => do
    let base := (Theme.ofName? arguments.theme).getD Theme.standard
    let json ← (files.read path).mapError (.palette path)
    let palette ← (Palette.ofJson wording base json).mapError .setting
    return some palette

/-- The diagram of a table. -/
def diagramText (wording : Wording) (files : Files) (arguments : Arguments) (table : Table) :
    Except RunError Text := do
  let palette ← palette wording files arguments
  let options : DiagramOptions :=
    { theme := arguments.theme
      palette
      direction := arguments.direction
      labels := arguments.labels
      showFiles := arguments.showFiles
      showArtifacts := arguments.showArtifacts
      groupByFile := arguments.groupByFile
      boundaries := arguments.boundaries
      styled := arguments.styled
      links := arguments.links
      title := arguments.title
      verbosity := arguments.verbosity }
  return (Diagram.ofNodes options table.nodes).text

/-- The annotations suggested for a table, each below its file and node. -/
def suggestionText (arguments : Arguments) (table : Table) : Except RunError Text := do
  let found ← (Node.suggestions arguments.layout table.nodes).mapError .suggestion
  return Text.join "\n\n"
    (found.map fun s => Text.shown s.file ++ " (" ++ s.nodeId ++ "):\n" ++ s.text)

/-- The text that was asked for. -/
def formatted (wording : Wording) (files : Files) (arguments : Arguments) (table : Table) :
    Except RunError Text :=
  match arguments.format with
  | .diagram => diagramText wording files arguments table
  | .table => (table.rowsJson.map Json.pretty).mapError .table
  | .suggestions => suggestionText arguments table

/-- The summary of the issues, if there are any to tell of. -/
def issueSummary (arguments : Arguments) (table : Table) : Text :=
  if table.issues.isEmpty || !arguments.verbosity.logsWarnings then []
  else
    "\n" ++ Text.ofNat table.issues.length ++ " issue(s): " ++
      Text.ofNat (table.issueCount .syntaxError) ++ " syntax, " ++
      Text.ofNat (table.issueCount .validation) ++ " validation, " ++
      Text.ofNat (table.issueCount .io) ++ " io\n"

/-- The header above what is printed on a console. -/
def consoleHeader (table : Table) : Text :=
  let graph := Graph.ofNodes table.nodes
  "--- " ++ Text.ofNat table.nodes.length ++ " nodes, " ++
    Text.ofNat graph.edges.length ++ " connections ---\n\n"

/-- Sends the text that was asked for where it goes. -/
def deliver (files : Files) (arguments : Arguments) (table : Table) (text : Text) :
    Except RunError Outcome :=
  let summary := issueSummary arguments table
  match arguments.sink, arguments.target with
  | .raw, _ => .ok { stdout := text ++ "\n", stderr := summary }
  | .console, _ => .ok { stdout := consoleHeader table ++ text ++ "\n", stderr := summary }
  | .file, none => .error .missingTarget
  | .file, some target =>
    match files.writeFault? target with
    | some fault => .error (.write target fault)
    | none =>
      let note : Text :=
        if arguments.verbosity.logsWarnings then "Wrote " ++ Text.shown target ++ "\n" else []
      .ok { stderr := note ++ summary, write := some ⟨target, text⟩ }

/-- Carries out a run. -/
def perform (wording : Wording) (files : Files) (arguments : Arguments) :
    Except RunError Outcome := do
  if arguments.sink = .file && arguments.target.isNone then throw .missingTarget
  let table ← table wording files arguments
  let text ← formatted wording files arguments table
  deliver files arguments table text

/-- What a run comes to, errors included. -/
def outcome (wording : Wording) (files : Files) (arguments : Arguments) : Outcome :=
  match perform wording files arguments with
  | .ok outcome => outcome
  | .error error => { exitCode := 1, stderr := "\nError: " ++ error.message ++ "\n" }

/-- What a program of a name comes to when its version is asked for. -/
def versionOutcome (program : Text) : Outcome :=
  { stdout := program ++ " 0.1.0\n" }

end Run

end ScriptFlow
