import ScriptFlow.Path
import ScriptFlow.Text.Encoding

/-!
# Paths of the file system

The file system knows files and folders by bytes, and any bytes but a slash may
stand in a name.  Most are texts, and a text stands for the path that it spells;
where a text is asked for, the others are shown as `Text.shown` says.
-/

namespace ScriptFlow

/-- A path as the file system has it, or a name in it. -/
abbrev FilePath := List UInt8

instance : Coe Text FilePath where
  coe := Text.utf8

namespace FilePath

/-- The file name that a path shows, or nothing when its last component is no name. -/
def fileName (path : FilePath) : Text :=
  ((Path.fileName? path).map Text.shown).getD []

/-- The length of the longest path that the file system takes. -/
def limit : Nat := 4095

/-- The length of the longest name that the file system takes. -/
def nameLimit : Nat := 255

/-- Whether the file system takes a path. -/
def fits (path : FilePath) : Bool :=
  path.length ≤ limit

end FilePath

end ScriptFlow
