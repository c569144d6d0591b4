import ScriptFlow.Language
import ScriptFlow.Json.Parser
import ScriptFlow.Json.Printer
import ScriptFlow.Annotation.Draft
import ScriptFlow.Annotation.Printer
import ScriptFlow.Table.Json
import ScriptFlow.Text.Word
import ScriptFlow.Text.CaseFold
import ScriptFlow.Text.Quoted
import ScriptFlow.Unicode.Property
import ScriptFlow.Pattern.Matcher
import ScriptFlow.Pattern.Occurrence
import ScriptFlow.Pattern.Parser
import ScriptFlow.Reference.Basic
import ScriptFlow.Fresh
import ScriptFlow.Graph
import ScriptFlow.Verbosity
import ScriptFlow.Diagram.Basic
import ScriptFlow.Scan.Folder
import ScriptFlow.Main
import ScriptFlow.Proofs.Results
import ScriptFlow.Proofs.Text.Lines
import ScriptFlow.Proofs.Text.Trim
import ScriptFlow.Proofs.Annotation.Quotes
import ScriptFlow.Proofs.Text.Identifier
import ScriptFlow.Proofs.Annotation.Grammar
import ScriptFlow.Proofs.Annotation.Faults
import ScriptFlow.Proofs.Annotation.Spelling
import ScriptFlow.Proofs.Annotation.ReadBack
import ScriptFlow.Proofs.Annotation.Blocks
import ScriptFlow.Proofs.Annotation.Provenance
import ScriptFlow.Proofs.KeyMap
import ScriptFlow.Proofs.Path
import ScriptFlow.Proofs.Annotation.NodeProperties
import ScriptFlow.Proofs.Scan.Ident
import ScriptFlow.Proofs.Scan.Regenerate
import ScriptFlow.Proofs.Diagram.Ident
import ScriptFlow.Proofs.Diagram.Allocated
import ScriptFlow.Proofs.Diagram.SafeText
import ScriptFlow.Proofs.Diagram.Grammar
import ScriptFlow.Proofs.Diagram.Artifacts
import ScriptFlow.Proofs.Scan.Detected
import ScriptFlow.Proofs.Json.Token
import ScriptFlow.Proofs.Json.ReadBack
import ScriptFlow.Proofs.Scan.Source
import ScriptFlow.Proofs.Table.ReadBack
import ScriptFlow.Proofs.Scan.Linked
import ScriptFlow.Proofs.Scan.Named
import ScriptFlow.Proofs.Scan.Accounted
import ScriptFlow.Proofs.Annotation.Writable
import ScriptFlow.Proofs.Scan.Modes
import ScriptFlow.Proofs.Scan.Rows
import ScriptFlow.Proofs.Scan.Walk
import ScriptFlow.Proofs.Scan.Folder
import ScriptFlow.Proofs.Scan.Supplement
import ScriptFlow.Proofs.Annotation.CodeLines
import ScriptFlow.Proofs.Annotation.Continued
import ScriptFlow.Proofs.Annotation.Enclosed
import ScriptFlow.Proofs.Path.FileName
import ScriptFlow.Proofs.Graph.Meaning
import ScriptFlow.Proofs.Enumerated
import ScriptFlow.Proofs.Graph.Ordered
import ScriptFlow.Proofs.Graph.Reordered
import ScriptFlow.Proofs.Diagram.Layout
import ScriptFlow.Proofs.Diagram.Label
import ScriptFlow.Proofs.Text.Utf8
import ScriptFlow.Proofs.Annotation.Shadowed
import ScriptFlow.Proofs.Diagram.Link
import ScriptFlow.Proofs.Diagram.Style
import ScriptFlow.Proofs.Diagram.Palette
import ScriptFlow.Proofs.Diagram.Boundaries
import ScriptFlow.Proofs.Diagram.Styling
import ScriptFlow.Proofs.Scan.Referenced
import ScriptFlow.Proofs.Annotation.Heads
