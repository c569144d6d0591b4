import ScriptFlow.CommandLine.Run

/-!
# The program

`scriptflow [OPTIONS] PATH` shows the workflow of the scripts at a path.  A script
is read from its path.  For a folder the paths of the files in it come on the
standard input, one on a line and each starting with the path of the folder:

    find proj | scriptflow proj

What is printed and written is the `Outcome` of the run.
-/

namespace ScriptFlow

namespace Program

/-- The fault that an error of the system stands for. -/
def faultOf : IO.Error → FileFault
  | .inappropriateType _ code _ => if code = 21 then .isFolder else .notFolder
  | .invalidArgument _ code _ => if code = 36 then .tooLong else .missing
  | _ => .missing

/-- What is at a path that is a text, a folder without its entries. -/
def look (path : FilePath) : IO (Except FileFault Entry) := do
  let some text := Text.ofUtf8? path | return .error .missing
  match ← (IO.FS.readBinFile (String.ofList text)).toBaseIO with
  | .ok bytes => return .ok (.file bytes)
  | .error error =>
    match faultOf error with
    | .isFolder => return .ok (.folder [])
    | fault => return .error fault

/-- The lines of the standard input. -/
def inputLines : IO (List Text) := do
  let lines ← (← IO.getStdin).lines
  return lines.toList.map String.toList

/-- The entries of a folder, given the paths of the files in it. -/
def children (folder : FilePath) (paths : List FilePath) : IO (List (FilePath × Entry)) :=
  paths.foldlM (fun children path => do
    match (Path.child folder []).isPrefixOf? path with
    | none => return children
    | some inner =>
      match ← look path with
      | .ok (.file bytes) => return Entry.putFile bytes (Entry.steps inner) children
      | _ => return children) []

/-- The files at the paths at which a run may look. -/
def files (arguments : Arguments) : IO Files := do
  let found ← (Run.paths arguments).mapM fun path => return (path, ← look path)
  match found with
  | (root, .ok (.folder _)) :: others =>
    let entries ← children root ((← inputLines).map Text.utf8)
    return Files.ofList ((root, .ok (.folder entries)) :: others)
  | _ => return Files.ofList found

/-- How the program words what is wrong with a pattern or a palette. -/
def wording : Wording where
  pattern _ := "not a pattern"
  palette _ := "not an object of styles"

/-- Prints and writes what a run came to, and tells its exit code. -/
def finish (outcome : Outcome) : IO UInt32 := do
  if let some file := outcome.write then
    IO.FS.writeFile (String.ofList (Text.shown file.path)) (String.ofList file.text)
  IO.print (String.ofList outcome.stdout)
  IO.eprint (String.ofList outcome.stderr)
  return outcome.exitCode.toUInt32

/-- Carries out a run. -/
def run (arguments : Arguments) : IO UInt32 := do
  finish (Run.outcome wording (← files arguments) arguments)

end Program

end ScriptFlow

/-- Runs the program on its arguments. -/
def main (arguments : List String) : IO UInt32 := do
  match ScriptFlow.Demand.parse? (arguments.map String.toList) with
  | some (.run arguments) => ScriptFlow.Program.run arguments
  | some .version => ScriptFlow.Program.finish (ScriptFlow.Run.versionOutcome "scriptflow")
  | none =>
    IO.eprintln "Usage: scriptflow [OPTIONS] <PATH>"
    return 2
