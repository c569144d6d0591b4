import ScriptFlow.Graph
import ScriptFlow.Scan.Event
import ScriptFlow.Scan.Ident
import ScriptFlow.Scan.Merge
import ScriptFlow.Table.Basic

/-!
# Scans

`Scan.table` turns scripts into a table.  Each script is read on its own; then
scripts without a node that others source get one, so that the reference has
somewhere to lead; then the identifiers are made.

Issues keep the order of the scripts and of the lines, after those passed in; the
ones about identifiers come last.
-/

namespace ScriptFlow

/-- A script with its lines. -/
structure Script where
  path : FilePath
  language : Language
  lines : List Text
  deriving DecidableEq, Repr

namespace Script

/-- The script with these contents. -/
def ofContents (path : FilePath) (language : Language) (contents : Text) : Script where
  path
  language
  lines := Text.lines contents

/-- A script as its nodes refer to it. -/
def ref (script : Script) : ScriptRef :=
  .ofPath script.path script.language

end Script

/-- What one script gives. -/
structure ScriptScan where
  ref : ScriptRef
  drafts : List Draft
  files : References
  issues : List Issue
  events : List Event
  deriving DecidableEq, Repr

namespace Scan

/-! ### One script -/

/-- The annotations that a scan reads in a script. -/
def readings (options : ScanOptions) (script : Script) :
    List (Except FaultyAnnotation Annotation) :=
  if options.mode = .detected then []
  else Annotations.ofLines (CommentMarks.ofLanguage script.language) script.lines

/-- The files that a scan finds a script to refer to. -/
def references (options : ScanOptions) (script : Script) : References :=
  if options.mode = .annotated then {}
  else References.ofLines (ReferenceRule.ofLanguage script.language) script.lines

/-- The drafts of the annotations of a script. -/
def annotatedDrafts (ref : ScriptRef)
    (readings : List (Except FaultyAnnotation Annotation)) : List Draft :=
  readings.filterMap fun reading =>
    match reading with
    | .ok found => some (Draft.build ref found)
    | .error _ => none

/-- The issues about one annotation. -/
def readingIssues (path : FilePath) : Except FaultyAnnotation Annotation → List Issue
  | .ok found =>
    (Draft.warnings found).map fun warning =>
      { kind := .validation, file := path, line := some found.line, message := warning.message }
  | .error fault =>
    [{ kind := .syntaxError, file := path, line := some fault.line,
       message := fault.error.message }]

/-- The events of reading the annotations of a script. -/
def readingEvents (path : FilePath) (readings : List (Except FaultyAnnotation Annotation)) :
    List Event :=
  readings.filterMap fun reading =>
    match reading with
    | .ok found => some (.annotationRead path found.line found.properties.length)
    | .error _ => none

/-- The drafts of a script. -/
def drafts (options : ScanOptions) (ref : ScriptRef)
    (readings : List (Except FaultyAnnotation Annotation)) (files : References) :
    List Draft :=
  match options.mode with
  | .annotated => annotatedDrafts ref readings
  | .detected => (Draft.detected? ref files).toList
  | .merged =>
    Draft.merge options.strategy (annotatedDrafts ref readings) (Draft.detected? ref files)

/-- Scans one script. -/
def ofScript (options : ScanOptions) (script : Script) : ScriptScan :=
  let path := script.path
  let readings := readings options script
  let files := references options script
  let drafts := drafts options script.ref readings files
  let details :=
    if options.verbosity.logsDetails then
      readingEvents path readings ++
        (if options.mode = .annotated then [] else [.referencesFound path files])
    else []
  let progress :=
    if options.verbosity.logsProgress then
      [.scriptScanned path script.language drafts.length]
    else []
  { ref := script.ref
    drafts
    files
    issues := readings.flatMap (readingIssues path)
    events := details ++ progress }

/-! ### Sourced scripts -/

/-- The dependencies of all drafts, each with the type of its script. -/
def sourcedTokens (scans : List ScriptScan) : List (Text × Text) :=
  scans.flatMap fun scan =>
    scan.drafts.flatMap fun draft =>
      draft.node.dependencies.map fun token => (Text.trim token, draft.node.fileType)

/-- Whether some dependency means a script. -/
def isSourced (tokens : List (Text × Text)) (ref : ScriptRef) : Bool :=
  tokens.any fun (token, fileType) => namesFile token fileType ref.fileName

/-- Gives a node to every script that has none and that another one sources. -/
def addSourced (scans : List ScriptScan) : List ScriptScan :=
  let tokens := sourcedTokens scans
  scans.map fun scan =>
    if scan.drafts.isEmpty && isSourced tokens scan.ref then
      { scan with drafts := [Draft.ofReferences scan.ref scan.files] }
    else scan

/-! ### All scripts -/

/-- What each script gives, sourced scripts included. -/
def ofScripts (options : ScanOptions) (scripts : List Script) : List ScriptScan :=
  let scans := scripts.map (ofScript options)
  if options.mode = .annotated then scans else addSourced scans

/-- The table of what the scripts give, with issues that came up before. -/
def collect (prior : List Issue) (scans : List ScriptScan) : Table :=
  let drafts := scans.flatMap ScriptScan.drafts
  { nodes := Draft.toNodes drafts
    issues := prior ++ scans.flatMap ScriptScan.issues ++ Draft.duplicateIssues drafts }

/-- The table of some scripts, with issues that came up before. -/
def table (options : ScanOptions) (scripts : List Script) (prior : List Issue) : Table :=
  collect prior (ofScripts options scripts)

/-- The log of a scan. -/
def events (options : ScanOptions) (scripts : List Script) (prior : List Issue) :
    List Event :=
  let scans := ofScripts options scripts
  scans.flatMap ScriptScan.events ++
    Event.warnings options.verbosity ((collect prior scans).issues.map Issue.describe)

end Scan

end ScriptFlow
