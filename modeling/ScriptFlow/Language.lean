import ScriptFlow.FilePath

/-!
# Languages

The languages whose comments may carry annotations.  A language has a tag, the
family of its line comments, the extensions of its files, and the delimiters of
its block comments if it has any.  The order of `Language.all` is the order in
which extensions are looked up.
-/

namespace ScriptFlow

/-- The families of line comments, by their mark. -/
inductive CommentGroup where
  | hash
  | dash
  | slash
  | percent
  deriving DecidableEq, Repr

namespace CommentGroup

/-- The mark that starts a line comment. -/
def mark : CommentGroup → Text
  | hash => "#"
  | dash => "--"
  | slash => "//"
  | percent => "%"

end CommentGroup

/-- The marks around a block comment. -/
structure BlockDelimiters where
  opening : Text
  closing : Text
  deriving DecidableEq, Repr

/-- A language of scripts. -/
inductive Language where
  | r
  | python
  | shell
  | julia
  | ruby
  | perl
  | yaml
  | toml
  | powerShell
  | elixir
  | nim
  | tcl
  | cmake
  | makefile
  | dockerfile
  | sql
  | lua
  | haskell
  | elm
  | ada
  | vhdl
  | javaScript
  | typeScript
  | c
  | cpp
  | java
  | go
  | rust
  | swift
  | kotlin
  | scala
  | csharp
  | php
  | dart
  | groovy
  | zig
  | matlab
  | tex
  | erlang
  deriving DecidableEq, Repr

/-- What sets a language apart. -/
structure LanguageProfile where
  /-- The short name of the language, in lower case. -/
  tag : Text
  /-- The family of its line comments. -/
  group : CommentGroup
  /-- The extensions of its files, in lower case and without a dot. -/
  extensions : List Text
  /-- The marks around its block comments. -/
  block : Option BlockDelimiters := none

namespace Language

/-- Every language, in the order of look-up. -/
def all : List Language :=
  [.r, .python, .shell, .julia, .ruby, .perl, .yaml, .toml, .powerShell, .elixir, .nim,
    .tcl, .cmake, .makefile, .dockerfile, .sql, .lua, .haskell, .elm, .ada, .vhdl,
    .javaScript, .typeScript, .c, .cpp, .java, .go, .rust, .swift, .kotlin, .scala, .csharp,
    .php, .dart, .groovy, .zig, .matlab, .tex, .erlang]

theorem mem_all (language : Language) : language ∈ all := by
  cases language <;> decide

/-- The profile of a language. -/
def profile : Language → LanguageProfile
  | r => ⟨"r", .hash, ["r"], none⟩
  | python => ⟨"python", .hash, ["py", "pyw", "pyi"], none⟩
  | shell => ⟨"shell", .hash, ["sh", "bash", "zsh", "ksh"], none⟩
  | julia => ⟨"julia", .hash, ["jl"], some ⟨"#=", "=#"⟩⟩
  | ruby => ⟨"ruby", .hash, ["rb", "rake"], none⟩
  | perl => ⟨"perl", .hash, ["pl", "pm"], none⟩
  | yaml => ⟨"yaml", .hash, ["yml", "yaml"], none⟩
  | toml => ⟨"toml", .hash, ["toml"], none⟩
  | powerShell => ⟨"powershell", .hash, ["ps1", "psm1"], some ⟨"<#", "#>"⟩⟩
  | elixir => ⟨"elixir", .hash, ["ex", "exs"], none⟩
  | nim => ⟨"nim", .hash, ["nim"], none⟩
  | tcl => ⟨"tcl", .hash, ["tcl"], none⟩
  | cmake => ⟨"cmake", .hash, ["cmake"], none⟩
  | makefile => ⟨"makefile", .hash, ["mk", "mak"], none⟩
  | dockerfile => ⟨"dockerfile", .hash, ["dockerfile"], none⟩
  | sql => ⟨"sql", .dash, ["sql"], some ⟨"/*", "*/"⟩⟩
  | lua => ⟨"lua", .dash, ["lua"], some ⟨"--[[", "]]"⟩⟩
  | haskell => ⟨"haskell", .dash, ["hs", "lhs"], some ⟨"\x7b-", "-\x7d"⟩⟩
  | elm => ⟨"elm", .dash, ["elm"], some ⟨"\x7b-", "-\x7d"⟩⟩
  | ada => ⟨"ada", .dash, ["adb", "ads"], none⟩
  | vhdl => ⟨"vhdl", .dash, ["vhd", "vhdl"], none⟩
  | javaScript => ⟨"javascript", .slash, ["js", "mjs", "cjs", "jsx"], some ⟨"/*", "*/"⟩⟩
  | typeScript => ⟨"typescript", .slash, ["ts", "tsx", "mts", "cts"], some ⟨"/*", "*/"⟩⟩
  | c => ⟨"c", .slash, ["c", "h"], some ⟨"/*", "*/"⟩⟩
  | cpp => ⟨"cpp", .slash, ["cpp", "cc", "cxx", "hpp", "hh", "hxx"], some ⟨"/*", "*/"⟩⟩
  | java => ⟨"java", .slash, ["java"], some ⟨"/*", "*/"⟩⟩
  | go => ⟨"go", .slash, ["go"], some ⟨"/*", "*/"⟩⟩
  | rust => ⟨"rust", .slash, ["rs"], some ⟨"/*", "*/"⟩⟩
  | swift => ⟨"swift", .slash, ["swift"], some ⟨"/*", "*/"⟩⟩
  | kotlin => ⟨"kotlin", .slash, ["kt", "kts"], some ⟨"/*", "*/"⟩⟩
  | scala => ⟨"scala", .slash, ["scala", "sc"], some ⟨"/*", "*/"⟩⟩
  | csharp => ⟨"csharp", .slash, ["cs"], some ⟨"/*", "*/"⟩⟩
  | php => ⟨"php", .slash, ["php"], some ⟨"/*", "*/"⟩⟩
  | dart => ⟨"dart", .slash, ["dart"], some ⟨"/*", "*/"⟩⟩
  | groovy => ⟨"groovy", .slash, ["groovy", "gradle"], some ⟨"/*", "*/"⟩⟩
  | zig => ⟨"zig", .slash, ["zig"], none⟩
  | matlab => ⟨"matlab", .percent, ["m"], some ⟨"%\x7b", "%\x7d"⟩⟩
  | tex => ⟨"tex", .percent, ["tex", "sty"], none⟩
  | erlang => ⟨"erlang", .percent, ["erl", "hrl"], none⟩

/-- The short name of a language. -/
def tag (language : Language) : Text :=
  language.profile.tag

/-- The family of a language's line comments. -/
def group (language : Language) : CommentGroup :=
  language.profile.group

/-- The extensions of a language's files. -/
def extensions (language : Language) : List Text :=
  language.profile.extensions

/-- The marks around a language's block comments. -/
def block (language : Language) : Option BlockDelimiters :=
  language.profile.block

/-- The language with exactly this tag. -/
def ofTag? (tag : Text) : Option Language :=
  all.find? fun language => language.tag == tag

/-- Every language is found by its tag. -/
theorem ofTag?_tag (language : Language) : ofTag? language.tag = some language := by
  have hall : ∀ language ∈ all, ofTag? language.tag = some language := by decide +kernel
  exact hall language language.mem_all

/-- A language is found by its own tag only. -/
theorem ofTag?_eq_some_iff {tag : Text} {language : Language} :
    ofTag? tag = some language ↔ language.tag = tag := by
  constructor
  · intro h
    have hfound := List.find?_some h
    exact beq_iff_eq.mp hfound
  · rintro rfl
    exact ofTag?_tag language

/-- The language of an extension, in any letter case and with or without dots
in front. -/
def ofExtension? (extension : Text) : Option Language :=
  let extension := Text.toLower (extension.dropWhile (· == '.'))
  all.find? fun language => language.extensions.contains extension

/-- The names of a makefile that has no extension. -/
def makefileNames : List Text :=
  ["Makefile", "makefile", "GNUmakefile"]

/-- The language of a file: that of its extension if it has one, and otherwise
that of the few names that stand for a language by themselves. -/
def ofPath? (path : FilePath) : Option Language :=
  match (Path.extension? path).bind Text.ofUtf8? with
  | some extension => ofExtension? extension
  | none =>
    match (Path.fileName? path).bind Text.ofUtf8? with
    | none => none
    | some name =>
      if name == "Dockerfile" then some .dockerfile
      else if makefileNames.contains name then some .makefile
      else none

end Language

end ScriptFlow
