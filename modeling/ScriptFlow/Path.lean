import ScriptFlow.Text.Basic

/-!
# Paths

A path is kept as it was written.  Its components are read off its letters:
repeated slashes, a slash at the end and a `.` anywhere but at the start carry
nothing.  Two paths name the same place when their components agree, and the
file name, its stem and its extension come from the last component.

Paths in a text are written in characters, those of the file system in bytes
(`FilePath`).  Both are read alike, since all that a letter has to tell is whether
it is a slash or a point.
-/

namespace ScriptFlow

/-- A path in a text. -/
abbrev Path := Text

namespace Path

/-- The letters of paths: two of them have a meaning. -/
class Letter (α : Type) where
  /-- The slash between the steps of a path. -/
  slash : α
  /-- The point in front of an extension. -/
  point : α
  slash_ne_point : slash ≠ point

instance : Letter Char where
  slash := '/'
  point := '.'
  slash_ne_point := by decide

instance : Letter UInt8 where
  slash := 0x2F
  point := 0x2E
  slash_ne_point := by decide

open Letter

/-- One step of a path. -/
inductive Component (α : Type) where
  /-- The slash that an absolute path starts with. -/
  | root
  /-- The `.` that a relative path starts with. -/
  | current
  /-- The step `..` to the enclosing folder. -/
  | parent
  /-- A step into the entry of this name. -/
  | name (letters : List α)
  deriving DecidableEq, Repr

variable {α : Type} [DecidableEq α] [Letter α]

/-- The component that a piece between slashes stands for, if any. -/
def componentOf? (piece : List α) : Option (Component α) :=
  if piece.isEmpty || piece == [point] then none
  else if piece == [point, point] then some .parent
  else some (.name piece)

/-- What the first piece of a path stands for beyond being a piece. -/
def start : List (List α) → List (Component α)
  | [] :: _ :: _ => [.root]
  | first :: _ => if first == [point] then [.current] else []
  | [] => []

/-- The components of a path. -/
def components (path : List α) : List (Component α) :=
  let pieces := path.splitOn slash
  start pieces ++ pieces.filterMap componentOf?

/-- Whether two paths have the same components. -/
def samePlace (p q : List α) : Bool :=
  components p == components q

/-- The last component, if it is a name. -/
def fileName? (path : List α) : Option (List α) :=
  match (components path).getLast? with
  | some (.name letters) => some letters
  | _ => none

/-- A file name cut at its last point, unless that is its first letter. -/
def cutExtension? (name : List α) : Option (List α × List α) :=
  match Text.cutLast? point name with
  | some ([], _) => none
  | parts => parts

/-- The file name without its extension. -/
def stem? (path : List α) : Option (List α) :=
  (fileName? path).map fun name => ((cutExtension? name).map Prod.fst).getD name

/-- What follows the last point of the file name; a name that only starts with a
point has no extension, and one that ends with a point has the empty one. -/
def extension? (path : List α) : Option (List α) :=
  (fileName? path).bind fun name => (cutExtension? name).map Prod.snd

/-- The entry of this name in a folder. -/
def child (folder name : List α) : List α :=
  if folder.isEmpty || folder.getLast? == some slash then folder ++ name
  else folder ++ [slash] ++ name

end Path

end ScriptFlow
