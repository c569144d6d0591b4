import ScriptFlow.Scan.Basic

/-!
# Scanning files

Files and folders as values, and the scan of one of them.  The entries of a
folder are in increasing order of their names, which is the order of the scan:
depth first, files and folders together.  Entries whose name is a text that starts
with a point are skipped; the root of a scan never is.

A file or a folder is opened by its whole path, from the root of the scan on, so
one that is deep down may be out of reach (`FilePath.fits`).  A folder that cannot
be opened is an issue, and so is a file that cannot or that is no valid UTF-8; each
ends a scan of just that file.
-/

namespace ScriptFlow

/-- A file or a folder. -/
inductive Entry where
  | file (bytes : ByteArray)
  | folder (children : List (FilePath × Entry))

/-- Why a file cannot be read or written. -/
inductive FileFault where
  | missing
  /-- A step of the path leads into a file. -/
  | notFolder
  | isFolder
  /-- The path, or a name in it, is longer than the file system takes. -/
  | tooLong
  | notText
  deriving DecidableEq, Repr

namespace FileFault

/-- The wording of a fault. -/
def message : FileFault → Text
  | missing => "No such file or directory (os error 2)"
  | notFolder => "Not a directory (os error 20)"
  | isFolder => "Is a directory (os error 21)"
  | tooLong => "File name too long (os error 36)"
  | notText => "stream did not contain valid UTF-8"

end FileFault

namespace Entry

open Path.Letter

/-- The entries of a folder. -/
def children? : Entry → Option (List (FilePath × Entry))
  | folder children => some children
  | file _ => none

/-- The text of a file. -/
def read : Entry → Except FileFault Text
  | folder _ => .error .isFolder
  | file bytes =>
    match String.fromUTF8? bytes with
    | some s => .ok s.toList
    | none => .error .notText

/-- The text of a file that is opened by its path. -/
def readAt (path : FilePath) (entry : Entry) : Except FileFault Text :=
  if FilePath.fits path then entry.read else .error .tooLong

/-! ### Building -/

/-- The entry of a name in a folder. -/
def child? (name : FilePath) (children : List (FilePath × Entry)) : Option Entry :=
  (children.find? fun c => c.1 == name).map Prod.snd

/-- The entries of a folder with a file put at some steps from it. -/
def putFile (bytes : ByteArray) :
    List FilePath → List (FilePath × Entry) → List (FilePath × Entry)
  | [], children => children
  | [name], children => KeyMap.insertEntry name (file bytes) children
  | name :: steps, children =>
    let inner := ((child? name children).bind children?).getD []
    KeyMap.insertEntry name (folder (putFile bytes steps inner)) children

/-- The entries of a folder with an empty folder at some steps from it, unless
there is one. -/
def putFolder : List FilePath → List (FilePath × Entry) → List (FilePath × Entry)
  | [], children => children
  | name :: steps, children =>
    let inner := ((child? name children).bind children?).getD []
    KeyMap.insertEntry name (folder (putFolder steps inner)) children

/-- The steps of a path that stays inside the folder it starts from. -/
def innerSteps? (path : FilePath) : Option (List FilePath) :=
  ((Path.components path).filter (· != .current)).mapM fun step =>
    match step with
    | .name name => some name
    | _ => none

/-! ### Looking up -/

/-- Follows the pieces between the slashes of a path, from the innermost of some
folders that contain one another. -/
def follow : List (List (FilePath × Entry)) → List FilePath → Except FileFault Entry
  | [], _ => .error .missing
  | here :: _, [] => .ok (folder here)
  | here :: outer, piece :: rest =>
    if piece.isEmpty || piece == [point] then follow (here :: outer) rest
    else if piece == [point, point] then follow outer rest
    else if piece.length > FilePath.nameLimit then .error .tooLong
    else
      match child? piece here with
      | none => .error .missing
      | some (folder inner) => follow (inner :: here :: outer) rest
      | some (file bytes) => if rest.isEmpty then .ok (file bytes) else .error .notFolder

/-- The entry at a path from a folder; nothing outside the folder is known. -/
def find (children : List (FilePath × Entry)) (path : FilePath) : Except FileFault Entry :=
  if !FilePath.fits path then .error .tooLong
  else if path.isEmpty || path.head? == some slash then .error .missing
  else follow [children] (path.splitOn slash)

/-- The steps of a path from the folder it starts from, where `..` takes one back. -/
def steps (path : FilePath) : List FilePath :=
  ((path.splitOn slash).foldl
    (fun taken piece =>
      if piece.isEmpty || piece == [point] then taken
      else if piece == [point, point] then taken.tail
      else piece :: taken) []).reverse

/-- The entries of a folder after a text was written to the file at a path. -/
def write (path : FilePath) (text : Text) (children : List (FilePath × Entry)) :
    List (FilePath × Entry) :=
  putFile (String.ofList text).toUTF8 (steps path) children

/-! ### Walking -/

/-- Whether a scan skips an entry because of its name, which must be a text for it. -/
def isHidden (name : FilePath) : Bool :=
  (Text.ofUtf8? name).any fun text => text.head? == some '.'

mutual

/-- What a walk comes to at or below an entry of a folder, with the paths: the files,
and the folders that cannot be opened. -/
def reached (recursive : Bool) (path : FilePath) : Entry → List (FilePath × Entry)
  | file bytes => [(path, file bytes)]
  | folder children =>
    if !recursive then []
    else if FilePath.fits path then reachedIn recursive path children
    else [(path, folder children)]

/-- What a walk comes to among and below some entries of a folder. -/
def reachedIn (recursive : Bool) (path : FilePath) :
    List (FilePath × Entry) → List (FilePath × Entry)
  | [] => []
  | (name, entry) :: rest =>
    (if isHidden name then [] else reached recursive (Path.child path name) entry) ++
      reachedIn recursive path rest

end

end Entry

/-- Why a scan came to nothing. -/
inductive ScanError where
  | pathNotFound (path : FilePath)
  | unreadable (path : FilePath) (fault : FileFault)
  | unsupported (path : FilePath)
  deriving DecidableEq, Repr

namespace ScanError

/-- The wording of an error. -/
def message : ScanError → Text
  | pathNotFound path => "Path '" ++ Text.shown path ++ "' does not exist"
  | unreadable path fault => "Could not read '" ++ Text.shown path ++ "': " ++ fault.message
  | unsupported path => "No comment syntax is registered for '" ++ Text.shown path ++ "'"

end ScanError

namespace Scan

/-- The language of a script at a path. -/
def languageOf (path : FilePath) : Except ScanError Language :=
  match Language.ofPath? path with
  | some language => .ok language
  | none => .error (.unsupported path)

/-- The script with some contents at a path. -/
def scriptOf (path : FilePath) (contents : Text) : Except ScanError Script :=
  (languageOf path).map fun language => Script.ofContents path language contents

/-- Reads the script at a path. -/
def readScript (path : FilePath) (entry : Entry) : Except ScanError Script := do
  let language ← languageOf path
  match entry.readAt path with
  | .ok contents => return Script.ofContents path language contents
  | .error fault => .error (.unreadable path fault)

/-- Whether a scan of a folder reads the file at a path. -/
def includes (options : ScanOptions) (path : FilePath) : Bool :=
  (Language.ofPath? path).isSome &&
    match options.pattern with
    | none => true
    | some pattern => ((Path.fileName? path).bind Text.ofUtf8?).any pattern.occursIn

/-- The issue of a folder that cannot be opened. -/
def closedFolder (path : FilePath) : Issue where
  kind := .io
  file := path
  message := "IO error for operation on " ++ Text.shown path ++ ": " ++ FileFault.tooLong.message

/-- What a scan of a folder makes of something that it comes to, if anything: a
script or an issue. -/
def visit? (options : ScanOptions) (path : FilePath) : Entry → Option (Except Issue Script)
  | .folder _ => some (.error (closedFolder path))
  | .file bytes =>
    if includes options path then
      match readScript path (.file bytes) with
      | .ok script => some (.ok script)
      | .error (.unreadable path fault) =>
        some (.error { kind := .io, file := path, message := fault.message })
      | .error _ => none
    else none

/-- What a scan knows before it reads annotations: the scripts, and the issues of
what could not be read. -/
structure Sources where
  scripts : List Script
  issues : List Issue
  deriving DecidableEq, Repr

/-- The scripts and the issues apart. -/
def Sources.ofVisits : List (Except Issue Script) → Sources
  | [] => ⟨[], []⟩
  | .ok script :: rest => { ofVisits rest with scripts := script :: (ofVisits rest).scripts }
  | .error issue :: rest => { ofVisits rest with issues := issue :: (ofVisits rest).issues }

/-- What a scan reads at a path. -/
def sources (options : ScanOptions) (root : FilePath) : Entry → Except ScanError Sources
  | .file bytes => (readScript root (.file bytes)).map fun script => ⟨[script], []⟩
  | .folder children =>
    .ok (Sources.ofVisits ((Entry.reachedIn options.recursive root children).filterMap
      fun found => visit? options found.1 found.2))

/-- What a scan reads at a path, given what is found there. -/
def sourcesAt (options : ScanOptions) (root : FilePath) (found : Except FileFault Entry) :
    Except ScanError Sources :=
  match found with
  | .ok entry => sources options root entry
  | .error _ => .error (.pathNotFound root)

/-- The table of what was read. -/
def Sources.table (options : ScanOptions) (sources : Sources) : Table :=
  Scan.table options sources.scripts sources.issues

/-- The log of scanning what was read. -/
def Sources.events (options : ScanOptions) (sources : Sources) : List Event :=
  Scan.events options sources.scripts sources.issues

end Scan

end ScriptFlow
