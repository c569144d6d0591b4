import ScriptFlow.Diagram.Style

/-!
# Themes

The built-in sets of colors, with one style for each kind of nodes.
-/

namespace ScriptFlow

/-- The built-in themes. -/
inductive Theme where
  | light
  | dark
  | auto
  | minimal
  | github
  | viridis
  | magma
  | plasma
  | cividis
  deriving DecidableEq, Repr

namespace Theme

/-- Every theme, in the order in which they are offered. -/
def all : List Theme :=
  [.light, .dark, .auto, .minimal, .github, .viridis, .magma, .plasma, .cividis]

/-- The theme that stands in for an unknown one. -/
def standard : Theme :=
  .light

/-- The name of a theme. -/
def name : Theme → Text
  | light => "light"
  | dark => "dark"
  | auto => "auto"
  | minimal => "minimal"
  | github => "github"
  | viridis => "viridis"
  | magma => "magma"
  | plasma => "plasma"
  | cividis => "cividis"

/-- The theme with a name, in any letter case and with blanks around. -/
def ofName? (name : Text) : Option Theme :=
  all.find? fun theme => Text.sameLetters theme.name (Text.trim name)

/-- The styles of the theme `light`. -/
def lightStyle : NodeKind → Style
  | .input => ⟨.of "#e1f5fe", .of "#0277bd", .of "#01579b"⟩
  | .process => ⟨.of "#f3e5f5", .of "#7b1fa2", .of "#4a148c"⟩
  | .output => ⟨.of "#e8f5e9", .of "#2e7d32", .of "#1b5e20"⟩
  | .decision => ⟨.of "#fff3e0", .of "#ef6c00", .of "#e65100"⟩
  | .start => ⟨.of "#e0f2f1", .of "#00695c", .of "#004d40"⟩
  | .stop => ⟨.of "#ffebee", .of "#c62828", .of "#b71c1c"⟩
  | .artifact => ⟨.of "#f5f5f5", .of "#616161", .of "#212121"⟩

/-- The styles of the theme `dark`. -/
def darkStyle : NodeKind → Style
  | .input => ⟨.of "#0d47a1", .of "#64b5f6", .of "#ffffff"⟩
  | .process => ⟨.of "#4a148c", .of "#ce93d8", .of "#ffffff"⟩
  | .output => ⟨.of "#1b5e20", .of "#81c784", .of "#ffffff"⟩
  | .decision => ⟨.of "#e65100", .of "#ffb74d", .of "#ffffff"⟩
  | .start => ⟨.of "#004d40", .of "#4db6ac", .of "#ffffff"⟩
  | .stop => ⟨.of "#b71c1c", .of "#e57373", .of "#ffffff"⟩
  | .artifact => ⟨.of "#424242", .of "#bdbdbd", .of "#ffffff"⟩

/-- The styles of the theme `auto`. -/
def autoStyle : NodeKind → Style
  | .input => ⟨.of "#4fc3f7", .of "#0288d1", .of "#000000"⟩
  | .process => ⟨.of "#ba68c8", .of "#7b1fa2", .of "#000000"⟩
  | .output => ⟨.of "#81c784", .of "#388e3c", .of "#000000"⟩
  | .decision => ⟨.of "#ffb74d", .of "#f57c00", .of "#000000"⟩
  | .start => ⟨.of "#4db6ac", .of "#00796b", .of "#000000"⟩
  | .stop => ⟨.of "#e57373", .of "#d32f2f", .of "#000000"⟩
  | .artifact => ⟨.of "#bdbdbd", .of "#616161", .of "#000000"⟩

/-- The styles of the theme `minimal`. -/
def minimalStyle : NodeKind → Style
  | .input => ⟨.of "#ffffff", .of "#333333", .of "#333333"⟩
  | .process => ⟨.of "#ffffff", .of "#666666", .of "#333333"⟩
  | .output => ⟨.of "#ffffff", .of "#333333", .of "#333333"⟩
  | .decision => ⟨.of "#f7f7f7", .of "#333333", .of "#333333"⟩
  | .start => ⟨.of "#ffffff", .of "#000000", .of "#000000"⟩
  | .stop => ⟨.of "#ffffff", .of "#000000", .of "#000000"⟩
  | .artifact => ⟨.of "#f7f7f7", .of "#999999", .of "#333333"⟩

/-- The styles of the theme `github`. -/
def githubStyle : NodeKind → Style
  | .input => ⟨.of "#ddf4ff", .of "#0969da", .of "#0a3069"⟩
  | .process => ⟨.of "#fbefff", .of "#8250df", .of "#3e1f79"⟩
  | .output => ⟨.of "#dafbe1", .of "#1a7f37", .of "#044f1e"⟩
  | .decision => ⟨.of "#fff8c5", .of "#9a6700", .of "#4d2d00"⟩
  | .start => ⟨.of "#dafbe1", .of "#1f883d", .of "#044f1e"⟩
  | .stop => ⟨.of "#ffebe9", .of "#cf222e", .of "#82071e"⟩
  | .artifact => ⟨.of "#f6f8fa", .of "#57606a", .of "#24292f"⟩

/-- The styles of the theme `viridis`. -/
def viridisStyle : NodeKind → Style
  | .input => ⟨.of "#440154", .of "#2a0033", .of "#ffffff"⟩
  | .process => ⟨.of "#443983", .of "#2c2458", .of "#ffffff"⟩
  | .output => ⟨.of "#31688e", .of "#1f4561", .of "#ffffff"⟩
  | .decision => ⟨.of "#21918c", .of "#15605d", .of "#ffffff"⟩
  | .start => ⟨.of "#35b779", .of "#237a51", .of "#000000"⟩
  | .stop => ⟨.of "#90d743", .of "#5f8f2c", .of "#000000"⟩
  | .artifact => ⟨.of "#fde725", .of "#a89a18", .of "#000000"⟩

/-- The styles of the theme `magma`. -/
def magmaStyle : NodeKind → Style
  | .input => ⟨.of "#000004", .of "#3b0f70", .of "#ffffff"⟩
  | .process => ⟨.of "#2c115f", .of "#721f81", .of "#ffffff"⟩
  | .output => ⟨.of "#721f81", .of "#b73779", .of "#ffffff"⟩
  | .decision => ⟨.of "#b73779", .of "#f1605d", .of "#ffffff"⟩
  | .start => ⟨.of "#f1605d", .of "#feb078", .of "#000000"⟩
  | .stop => ⟨.of "#feb078", .of "#fcfdbf", .of "#000000"⟩
  | .artifact => ⟨.of "#fcfdbf", .of "#feb078", .of "#000000"⟩

/-- The styles of the theme `plasma`. -/
def plasmaStyle : NodeKind → Style
  | .input => ⟨.of "#0d0887", .of "#5302a3", .of "#ffffff"⟩
  | .process => ⟨.of "#5302a3", .of "#8b0aa5", .of "#ffffff"⟩
  | .output => ⟨.of "#8b0aa5", .of "#b83289", .of "#ffffff"⟩
  | .decision => ⟨.of "#b83289", .of "#db5c68", .of "#ffffff"⟩
  | .start => ⟨.of "#db5c68", .of "#f48849", .of "#000000"⟩
  | .stop => ⟨.of "#f48849", .of "#febc2a", .of "#000000"⟩
  | .artifact => ⟨.of "#f0f921", .of "#febc2a", .of "#000000"⟩

/-- The styles of the theme `cividis`. -/
def cividisStyle : NodeKind → Style
  | .input => ⟨.of "#00224e", .of "#123570", .of "#ffffff"⟩
  | .process => ⟨.of "#123570", .of "#3b496c", .of "#ffffff"⟩
  | .output => ⟨.of "#3b496c", .of "#575d6d", .of "#ffffff"⟩
  | .decision => ⟨.of "#575d6d", .of "#707173", .of "#ffffff"⟩
  | .start => ⟨.of "#8a8779", .of "#a69d75", .of "#000000"⟩
  | .stop => ⟨.of "#c3b369", .of "#dfcb5d", .of "#000000"⟩
  | .artifact => ⟨.of "#fee838", .of "#dfcb5d", .of "#000000"⟩

/-- The style of a kind of nodes in a theme. -/
def style : Theme → NodeKind → Style
  | light => lightStyle
  | dark => darkStyle
  | auto => autoStyle
  | minimal => minimalStyle
  | github => githubStyle
  | viridis => viridisStyle
  | magma => magmaStyle
  | plasma => plasmaStyle
  | cividis => cividisStyle

end Theme

end ScriptFlow
