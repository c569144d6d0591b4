import Mathlib.Data.List.Infix
import ScriptFlow.Json.Token
import ScriptFlow.Proofs.Diagram.SafeText
import ScriptFlow.Proofs.Text.Lines
import ScriptFlow.Proofs.Text.Utf8

/-!
# Links read back

A link is read by taking off what its scheme puts around the path and decoding the rest
(`path?`).  From the link to a script comes back the path of the script, written with slashes.

A reader that does not know the schemes divides a link at the marks of its syntax
(`Parts.ofText`).  No mark comes from the path, so the path stands undivided where the scheme
puts it.
-/

namespace ScriptFlow

open Text

namespace Link

/-- A path with slashes in place of backslashes. -/
def slashed (path : Path) : Path :=
  path.map fun c => if c == '\\' then '/' else c

/-! ## Decoding -/

/-- The bytes that a text in a link stands for: `%` with two hexadecimal digits is a byte, and
any other character is its own bytes.  Nothing is read if a `%` lacks its digits. -/
def bytes? : Text → Option (List UInt8)
  | [] => some []
  | '%' :: high :: low :: rest => do
    let high ← Json.Token.hexDigit? high
    let low ← Json.Token.hexDigit? low
    let bytes ← bytes? rest
    some (UInt8.ofNat (16 * high + low) :: bytes)
  | c :: rest => if c == '%' then none else (bytes? rest).map (String.utf8EncodeChar c ++ ·)

/-- A hexadecimal digit is read as its number. -/
lemma hexDigit?_hexDigit {n : Nat} (h : n < 16) :
    Json.Token.hexDigit? (hexDigit n) = some n := by
  have hall : ∀ n < 16, Json.Token.hexDigit? (hexDigit n) = some n := by decide
  exact hall n h

/-- An escaped byte is read as this byte, whatever follows. -/
lemma bytes?_escapeByte_append (byte : UInt8) (rest : Text) :
    bytes? (escapeByte byte ++ rest) = (bytes? rest).map (byte :: ·) := by
  have hbyte : byte.toNat < 256 := byte.toNat_lt
  have hvalue : UInt8.ofNat (16 * (byte.toNat / 16) + byte.toNat % 16) = byte := by
    rw [Nat.div_add_mod, UInt8.ofNat_toNat]
  rw [escapeByte, List.cons_append, List.cons_append, List.cons_append, List.nil_append, bytes?,
    hexDigit?_hexDigit (by omega), hexDigit?_hexDigit (by omega), Option.bind_eq_bind,
    Option.bind_some, Option.bind_eq_bind, Option.bind_some, hvalue]
  cases bytes? rest <;> rfl

/-- Escaped bytes are read as these bytes, whatever follows. -/
lemma bytes?_flatMap_escapeByte_append (bytes : List UInt8) (rest : Text) :
    bytes? (bytes.flatMap escapeByte ++ rest) = (bytes? rest).map (bytes ++ ·) := by
  induction bytes with
  | nil => simp
  | cons byte bytes ih =>
    rw [List.flatMap_cons, List.append_assoc, bytes?_escapeByte_append, ih, Option.map_map]
    rfl

/-- A character other than `%` is read as its own bytes. -/
lemma bytes?_cons {c : Char} (hc : c ≠ '%') (rest : Text) :
    bytes? (c :: rest) = (bytes? rest).map (String.utf8EncodeChar c ++ ·) := by
  rw [bytes?, if_neg (by simpa using hc)]
  intro _ _ _ heq
  exact absurd heq hc

/-- A character is read as its bytes from what stands for it, whatever follows. -/
lemma bytes?_escapeChar_append (c : Char) (rest : Text) :
    bytes? (escapeChar c ++ rest) = (bytes? rest).map (String.utf8EncodeChar c ++ ·) := by
  unfold escapeChar
  split
  next hsafe =>
    have hne : c ≠ '%' := by
      rintro rfl
      exact absurd hsafe (by decide)
    exact bytes?_cons hne rest
  next => exact bytes?_flatMap_escapeByte_append _ rest

/-- A text is read as its bytes from what stands for it. -/
lemma bytes?_flatMap_escapeChar (t : Text) : bytes? (t.flatMap escapeChar) = some (utf8 t) := by
  induction t with
  | nil => rfl
  | cons c r ih =>
    rw [List.flatMap_cons, bytes?_escapeChar_append, ih, Option.map_some]
    rfl

/-- The path in a link to a line of a script: what the scheme puts around it is taken off, and
the rest is decoded. -/
def path? (scheme : LinkScheme) (line : Option Nat) (link : Text) : Option Path := do
  let rest ← (opening scheme).isPrefixOf? link
  let escaped ← beforeSuffix? (lineSuffix scheme line) rest
  let bytes ← bytes? escaped
  ofUtf8? bytes

/-- The path of the script comes back from a link to it. -/
lemma path?_uri (scheme : LinkScheme) (path : Path) (line : Option Nat) :
    path? scheme line (uri scheme path line) = some (slashed path) := by
  have hstart : (opening scheme).isPrefixOf? (uri scheme path line) =
      some (escapePath path ++ lineSuffix scheme line) := by
    rw [isPrefixOf?_eq_some_iff, uri_eq, List.append_assoc]
  have hend : beforeSuffix? (lineSuffix scheme line) (escapePath path ++ lineSuffix scheme line) =
      some (escapePath path) :=
    beforeSuffix?_eq_some_iff.mpr rfl
  have hbytes : bytes? (escapePath path) = some (utf8 (slashed path)) :=
    bytes?_flatMap_escapeChar (slashed path)
  simp only [path?, hstart, hend, hbytes, Option.bind_eq_bind, Option.bind_some, ofUtf8?_utf8]

/-! ## Division at the marks of the syntax -/

/-- A link divided at the marks of its syntax. -/
structure Parts where
  address : Text
  /-- What stands behind the first `?`, divided at every `&`. -/
  parameters : List Text
  /-- What stands behind the first `#`. -/
  fragment : Option Text
  deriving DecidableEq

/-- A text without what follows the first of some mark, and what follows it. -/
def cutOff (mark : Char) (t : Text) : Text × Option Text :=
  match cut? [mark] t with
  | some (before, after) => (before, some after)
  | none => (t, none)

/-- The parts of a link, whatever its scheme. -/
def Parts.ofText (link : Text) : Parts :=
  let (front, fragment) := cutOff '#' link
  let (address, query) := cutOff '?' front
  { address, parameters := (query.map fun query => query.splitOn '&').getD [], fragment }

/-- The parts of the link to a line of a script whose path is escaped as given. -/
def parts (escaped : Text) (line : Option Nat) : LinkScheme → Parts
  | .vscode =>
    { address := "vscode://file/" ++ escaped ++ lineSuffix .vscode line
      parameters := []
      fragment := none }
  | .file =>
    { address := "file://" ++ escaped
      parameters := []
      fragment := line.map fun line => 'L' :: ofNat line }
  | .rstudio =>
    { address := "rstudio://open-file"
      parameters := ("path=" ++ escaped) :: line.toList.map fun line => "line=" ++ ofNat line
      fragment := none }

/-- Nothing is cut off a text without the mark. -/
lemma cutOff_of_not_mem {mark : Char} {t : Text} (h : mark ∉ t) : cutOff mark t = (t, none) := by
  have hcut : cut? [mark] t = none := by
    rw [cut?_eq_none_iff, List.singleton_infix_iff]
    exact h
  rw [cutOff, hcut]

/-- What follows the first mark is cut off. -/
lemma cutOff_append_cons {mark : Char} {before : Text} (h : mark ∉ before) (after : Text) :
    cutOff mark (before ++ mark :: after) = (before, some after) := by
  have hcut : cut? [mark] (before ++ mark :: after) = some (before, after) :=
    cut?_singleton_eq_some_iff.mpr ⟨rfl, h⟩
  rw [cutOff, hcut]

/-- Of the characters that are escaped only `%` occurs in an escaped path. -/
lemma not_mem_escapePath {c : Char} (hc : c ∈ unsafeChars) (hne : c ≠ '%') (path : Path) :
    c ∉ escapePath path := by
  intro hmem
  rcases isSafe_or_eq_of_mem_escapePath hmem with h | h
  · simp [isSafe, hc] at h
  · exact hne h

/-- No mark comes from the number of a line. -/
lemma not_mem_ofNat {c : Char} (hc : c ∈ unsafeChars) (n : Nat) : c ∉ ofNat n := by
  intro hmem
  have hall : unsafeChars.all (fun c => !isIdentifierChar c) = true := by decide
  have hother := List.all_eq_true.mp hall c hc
  rw [isIdentifierChar_of_mem_ofNat hmem] at hother
  exact Bool.noConfusion hother

/-- A mark that a scheme does not put into its links does not occur in them. -/
lemma not_mem_uri {c : Char} (hc : c ∈ unsafeChars) (hne : c ≠ '%') {scheme : LinkScheme}
    (hopening : c ∉ opening scheme) (hmark : c ∉ lineMark scheme) (path : Path)
    (line : Option Nat) : c ∉ uri scheme path line := by
  have hsuffix : c ∉ lineSuffix scheme line := by
    cases line with
    | none => exact List.not_mem_nil
    | some line => exact List.not_mem_append hmark (not_mem_ofNat hc line)
  rw [uri_eq]
  exact List.not_mem_append (List.not_mem_append hopening (not_mem_escapePath hc hne path)) hsuffix

/-- The parameters of a link are divided at the marks between them. -/
lemma splitOn_parameters (path : Path) (line : Option Nat) :
    (join ['&'] (("path=" ++ escapePath path) :: line.toList.map fun line =>
        "line=" ++ ofNat line)).splitOn '&' =
      ("path=" ++ escapePath path) :: line.toList.map fun line => "line=" ++ ofNat line := by
  refine List.splitOn_intercalate '&' (fun parameter hmem => ?_) (List.cons_ne_nil _ _)
  rcases List.mem_cons.mp hmem with rfl | hmem
  · exact List.not_mem_append (by decide) (not_mem_escapePath (by decide) (by decide) path)
  · obtain ⟨line, -, rfl⟩ := List.mem_map.mp hmem
    exact List.not_mem_append (by decide) (not_mem_ofNat (by decide) line)

/-- A link is divided only where its scheme puts marks. -/
lemma ofText_uri (scheme : LinkScheme) (path : Path) (line : Option Nat) :
    Parts.ofText (uri scheme path line) = parts (escapePath path) line scheme := by
  cases scheme with
  | vscode =>
    have hsharp : '#' ∉ uri .vscode path line :=
      not_mem_uri (by decide) (by decide) (by decide) (by decide) path line
    have hquestion : '?' ∉ uri .vscode path line :=
      not_mem_uri (by decide) (by decide) (by decide) (by decide) path line
    simp only [Parts.ofText, cutOff_of_not_mem hsharp, cutOff_of_not_mem hquestion]
    rfl
  | file =>
    have hsharp : '#' ∉ opening .file ++ escapePath path :=
      List.not_mem_append (by decide) (not_mem_escapePath (by decide) (by decide) path)
    have hquestion : '?' ∉ opening .file ++ escapePath path :=
      List.not_mem_append (by decide) (not_mem_escapePath (by decide) (by decide) path)
    cases line with
    | none =>
      have huri : uri .file path none = opening .file ++ escapePath path := List.append_nil _
      simp only [Parts.ofText, huri, cutOff_of_not_mem hsharp, cutOff_of_not_mem hquestion]
      rfl
    | some line =>
      have huri : uri .file path (some line) =
          opening .file ++ escapePath path ++ '#' :: 'L' :: ofNat line := rfl
      simp only [Parts.ofText, huri, cutOff_append_cons hsharp, cutOff_of_not_mem hquestion]
      rfl
  | rstudio =>
    have hsharp : '#' ∉ uri .rstudio path line :=
      not_mem_uri (by decide) (by decide) (by decide) (by decide) path line
    have hquestion : '?' ∉ ("rstudio://open-file" : Text) := by decide
    have huri : uri .rstudio path line = "rstudio://open-file" ++ '?' ::
        join ['&'] (("path=" ++ escapePath path) :: line.toList.map fun line =>
          "line=" ++ ofNat line) := by
      have hopening : opening .rstudio = "rstudio://open-file" ++ '?' :: "path=" := by decide
      have hmark : lineMark .rstudio = ['&'] ++ "line=" := by decide
      rw [uri_eq, hopening]
      cases line with
      | none =>
        rw [Option.toList_none, List.map_nil, join, List.intercalate_singleton]
        simp only [lineSuffix, List.append_assoc, List.cons_append, List.append_nil]
      | some line =>
        rw [Option.toList_some, List.map_cons, List.map_nil, join, List.intercalate_cons_cons,
          List.intercalate_singleton]
        simp only [lineSuffix, hmark, List.append_assoc, List.cons_append, List.nil_append]
    rw [Parts.ofText, cutOff_of_not_mem hsharp, huri]
    simp only [cutOff_append_cons hquestion, Option.map_some, Option.getD_some,
      splitOn_parameters]
    rfl

/-! ## Links to scripts -/

/-- What a link to a line of a script is for whoever reads it. -/
structure PointsTo (scheme : LinkScheme) (path : Path) (line : Option Nat) (link : Text) :
    Prop where
  visible : ∀ c ∈ link, isVisible c = true
  noEnder : ∀ c ∈ ['<', '>', '\x60'], c ∉ link
  path?_eq : path? scheme line link = some (slashed path)
  parts_eq : Parts.ofText link = parts (escapePath path) line scheme

/-- A link is one undivided word that leads to its script, and with the same scheme and line
it leads to no other. -/
theorem pointsTo_uri (scheme : LinkScheme) (path : Path) (line : Option Nat) :
    PointsTo scheme path line (uri scheme path line) ∧
      ∀ other, uri scheme other line = uri scheme path line ↔ slashed other = slashed path := by
  refine ⟨⟨fun _ => isVisible_of_mem_uri, fun c hc => ?_, path?_uri scheme path line,
    ofText_uri scheme path line⟩, fun other => ⟨fun heq => ?_, fun heq => ?_⟩⟩
  · have hall : ∀ c ∈ ['<', '>', '\x60'], c ∈ unsafeChars ∧ c ≠ '%' ∧
        c ∉ opening scheme ∧ c ∉ lineMark scheme := by
      simp only [List.forall_mem_cons, List.not_mem_nil, false_imp_iff, implies_true, and_true]
      cases scheme <;> decide
    obtain ⟨hescaped, hne, hopening, hmark⟩ := hall c hc
    exact not_mem_uri hescaped hne hopening hmark path line
  · have hread := path?_uri scheme other line
    rw [heq, path?_uri, Option.some_inj] at hread
    exact hread.symm
  · have hescaped : escapePath other = escapePath path := congrArg (List.flatMap escapeChar) heq
    rw [uri_eq, hescaped, ← uri_eq]

end Link

end ScriptFlow
