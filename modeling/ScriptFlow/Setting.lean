import ScriptFlow.Text.Basic

/-!
# Settings

What can be wrong with a setting, whatever it configures.  Each closed choice is
declared where it is used and reads its own names.
-/

namespace ScriptFlow

/-- Why a setting is refused. -/
inductive SettingError where
  | unknownSink (text : Text)
  | unknownDirection (text : Text)
  | unknownScanMode (text : Text)
  | unknownMergeStrategy (text : Text)
  | unknownLinkScheme (text : Text)
  | unknownLabelMode (text : Text)
  | unknownNodeKind (text : Text)
  | invalidColor (kind value : Text)
  | invalidPalette (message : Text)
  | invalidPattern (pattern message : Text)
  deriving DecidableEq, Repr

namespace SettingError

/-- The sentence for a name that is none of those expected. -/
def unknownName (what name expected : Text) : Text :=
  "Unknown " ++ what ++ " '" ++ name ++ "' (expected " ++ expected ++ ")"

/-- The wording of an error. -/
def message : SettingError → Text
  | unknownSink text => unknownName "output mode" text "console, raw or file"
  | unknownDirection text => unknownName "flowchart direction" text "TD, LR, BT or RL"
  | unknownScanMode text => unknownName "detection mode" text "annotations, auto or merge"
  | unknownMergeStrategy text =>
    unknownName "merge strategy" text "manual_priority, supplement or union"
  | unknownLinkScheme text => unknownName "click protocol" text "vscode, file or rstudio"
  | unknownLabelMode text => unknownName "node label mode" text "label, id or both"
  | unknownNodeKind text => "Unknown node type '" ++ text ++ "'"
  | invalidColor kind value =>
    "Invalid color '" ++ value ++ "' for " ++ kind ++ " nodes: expected #rgb or #rrggbb"
  | invalidPalette message => "Invalid custom palette: " ++ message
  | invalidPattern pattern message =>
    "Invalid file pattern '" ++ pattern ++ "': " ++ message

end SettingError

/-- How the readers of patterns and of palettes word what is wrong with a text. -/
structure Wording where
  pattern : Text → Text
  palette : Text → Text

/-- The choice with a name, in any case of the letters and with blanks around. -/
def choose? {α : Type} (choices : List (Text × α)) (text : Text) : Option α :=
  (choices.find? fun choice => choice.1 == Text.toLower (Text.trim text)).map Prod.snd

/-- The choice with a name, or the error for a text that names none. -/
def choose {α : Type} (choices : List (Text × α)) (unknown : Text → SettingError)
    (text : Text) : Except SettingError α :=
  match choose? choices text with
  | some choice => .ok choice
  | none => .error (unknown text)

end ScriptFlow
