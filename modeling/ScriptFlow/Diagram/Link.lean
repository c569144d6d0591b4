import ScriptFlow.Path
import ScriptFlow.Setting

/-!
# Links to scripts

A node of a diagram can link to its line in an editor.  The path is written with
slashes, and every byte that is not plainly readable or that a link could read as
its own syntax is written as `%` and two hexadecimal digits.
-/

namespace ScriptFlow

/-- The schemes of links. -/
inductive LinkScheme where
  | vscode
  | file
  | rstudio
  deriving DecidableEq, Repr

namespace LinkScheme

/-- The names of the schemes. -/
def choices : List (Text × LinkScheme) :=
  [("vscode", .vscode), ("file", .file), ("rstudio", .rstudio)]

/-- Reads the name of a scheme. -/
def parse (text : Text) : Except SettingError LinkScheme :=
  choose choices .unknownLinkScheme text

end LinkScheme

namespace Link

/-- The characters that could end a link or that it reads as syntax. -/
def unsafeChars : List Char :=
  [' ', '"', '%', '#', '?', '&', '<', '>', '\x60']

/-- Whether a character stands for itself. -/
def isSafe (c : Char) : Bool :=
  0x20 ≤ c.toNat && c.toNat < 0x7F && !unsafeChars.contains c

/-- An upper-case hexadecimal digit. -/
def hexDigit (n : Nat) : Char :=
  (Nat.digitChar n).toUpper

/-- A byte as `%` and two digits. -/
def escapeByte (byte : UInt8) : Text :=
  ['%', hexDigit (byte.toNat / 16), hexDigit (byte.toNat % 16)]

/-- A character as it stands in a link. -/
def escapeChar (c : Char) : Text :=
  if isSafe c then [c] else (String.utf8EncodeChar c).flatMap escapeByte

/-- A path as it stands in a link. -/
def escapePath (path : Path) : Text :=
  (path.map fun c => if c == '\\' then '/' else c).flatMap escapeChar

/-- The link to a line of a script, or to the script. -/
def uri (scheme : LinkScheme) (path : Path) (line : Option Nat) : Text :=
  let path := escapePath path
  let suffix (mark : Text) : Text :=
    match line with
    | some line => mark ++ Text.ofNat line
    | none => []
  match scheme with
  | .vscode => "vscode://file/" ++ path ++ suffix ":"
  | .file => "file://" ++ path ++ suffix "#L"
  | .rstudio => "rstudio://open-file?path=" ++ path ++ suffix "&line="

end Link

end ScriptFlow
