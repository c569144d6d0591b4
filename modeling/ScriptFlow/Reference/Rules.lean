import ScriptFlow.Language
import ScriptFlow.Pattern.Matcher

/-!
# Reference rules

How the languages spell that a script reads, writes or sources a file.  A rule is
a pattern with the group that holds the path.  The rules are guesses: they look
at one line at a time and know nothing of strings and comments.

A language lists its rules in the order in which references are reported.
-/

namespace ScriptFlow

/-- What a reference means for the script it was found in. -/
inductive ReferenceKind where
  /-- The script reads the file. -/
  | input
  /-- The script writes the file. -/
  | output
  /-- The script sources or includes the file. -/
  | dependency
  deriving DecidableEq, Repr

/-- A pattern for references of one kind. -/
structure ReferenceRule where
  kind : ReferenceKind
  /-- The group that holds the path. -/
  path : Pattern.GroupRef
  pattern : Pattern

namespace ReferenceRule

open Pattern

/-! ### Parts of patterns -/

/-- Double quotes. -/
def doubleQuote : CharSet :=
  .single '"'

/-- Single quotes. -/
def singleQuote : CharSet :=
  .single '\''

/-- Double and single quotes. -/
def eitherQuote : CharSet :=
  .ofText ['"', '\'']

/-- Quotes of all three kinds. -/
def anyQuote : CharSet :=
  .ofText ['"', '\'', '\x60']

/-- Characters other than quotes of the given kinds, at least one. -/
def unquoted (quotes : CharSet) : Pattern :=
  some1 (chars (.compl quotes))

/-- A part between quotes. -/
def between (quotes : CharSet) (p : Pattern) : Pattern :=
  sequence [chars quotes, p, chars quotes]

/-- A path between quotes. -/
def quotedPath (quotes : CharSet) : Pattern :=
  between quotes (group 1 none (unquoted quotes))

/-- A path between quotes, in a group with a name. -/
def quotedNamedPath (quotes : CharSet) : Pattern :=
  between quotes (group 1 (some "path") (unquoted quotes))

/-- A relative path between quotes that starts with one or two points. -/
def quotedRelativePath : Pattern :=
  between eitherQuote
    (group 1 none
      (sequence [repeated (char '.') 1 (some 2) true, char '/', unquoted eitherQuote]))

/-- An opening parenthesis with blanks around it. -/
def openCall : Pattern :=
  sequence [blanks, char '(', blanks]

/-- An opening parenthesis with blanks around it, which may be missing. -/
def openMaybe : Pattern :=
  sequence [blanks, maybe (char '('), blanks]

/-- A comma with blanks around it. -/
def comma : Pattern :=
  sequence [blanks, char ',', blanks]

/-- The call of one of some functions, up to its first argument. -/
def call (names : List Text) : Pattern :=
  sequence [boundary, words names, openCall]

/-- The call of one of some functions of one of some modules. -/
def callIn (modules names : List Text) : Pattern :=
  sequence [boundary, words modules, char '.', words names, openCall]

/-- The name of an argument with its sign of equality. -/
def argument (name : Text) : Pattern :=
  sequence [literal name, blanks, char '=', blanks]

/-- The first argument of a call and the comma after it. -/
def firstArgument : Pattern :=
  sequence [some1 (chars (.compl (.ofText [',', '(', ')']))), char ',', blanks]

/-- A rule whose path is the first group. -/
def first (kind : ReferenceKind) (parts : List Pattern) : ReferenceRule :=
  ⟨kind, .position 1, sequence parts⟩

/-- A rule whose path is the group with the name for it. -/
def named (kind : ReferenceKind) (parts : List Pattern) : ReferenceRule :=
  ⟨kind, .named "path", sequence parts⟩

/-! ### Rules of the languages -/

/-- R. -/
def r : List ReferenceRule :=
  let file := maybe (argument "file")
  [first .input
      [call ["read.csv2", "read.csv", "read.delim2", "read.delim", "read.table", "read_csv2",
          "read_csv", "read_tsv", "read_delim", "read_rds", "read_lines", "read_excel",
          "read_parquet", "read_feather", "readRDS", "fread", "read_xlsx", "fromJSON",
          "vroom"],
        file, quotedPath eitherQuote],
    first .input [call ["load"], file, quotedPath eitherQuote],
    named .output
      [boundary,
        words ["write.csv2", "write.csv", "write.table", "write_csv", "write_tsv",
          "write_delim", "write_rds", "write_parquet", "write_feather", "write_xlsx",
          "saveRDS", "fwrite", "writeLines"],
        blanks, char '(', firstArgument, file, quotedNamedPath eitherQuote],
    named .output
      [call ["ggsave"], maybe (argument "filename"), quotedNamedPath eitherQuote],
    named .output
      [boundary, literal "save", blanks, char '(', many (chars .notLineFeed), boundary,
        argument "file", quotedNamedPath eitherQuote],
    first .dependency [call ["source"], file, quotedPath eitherQuote]]

/-- Python. -/
def python : List ReferenceRule :=
  let readMode :=
    sequence [char 'r', maybe (chars (.ofText ['b', 't']))]
  let writeMode :=
    sequence [chars (.ofText ['w', 'a', 'x']), maybe (char 'b'), maybe (char '+')]
  [first .input
      [callIn ["pd", "pandas", "pl", "polars"]
          ["read_csv", "read_excel", "read_json", "read_parquet", "read_table",
            "read_pickle", "read_feather", "read_sql"],
        quotedPath eitherQuote],
    first .input
      [call ["open"], quotedPath eitherQuote, blanks,
        alt (char ')') (sequence [char ',', blanks, between eitherQuote readMode])],
    first .input
      [callIn ["np", "numpy"] ["load", "loadtxt", "genfromtxt"], quotedPath eitherQuote],
    named .output
      [literal ".to_", words ["csv", "excel", "json", "parquet", "pickle", "feather"],
        openCall, quotedNamedPath eitherQuote],
    named .output
      [call ["open"], quotedNamedPath eitherQuote, comma, between eitherQuote writeMode],
    named .output
      [callIn ["np", "numpy"] ["save", "savetxt", "savez"], quotedNamedPath eitherQuote],
    named .output [callIn ["plt", "fig"] ["savefig"], quotedNamedPath eitherQuote],
    first .dependency [call ["exec"], literal "open", openCall, quotedPath eitherQuote],
    first .dependency [call ["runpy.run_path"], quotedPath eitherQuote]]

/-- SQL, whose words are read in any letter case. -/
def sql : List ReferenceRule :=
  let word := caselessLiteral
  let words := fun (texts : List Text) => anyOf (texts.map caselessLiteral)
  let nameStart :=
    CharSet.caseless (.union (.union (.range 'A' 'Z') (.range 'a' 'z')) (.single '_'))
  let tableName :=
    group 1 none
      (sequence [chars nameStart, many (chars (.caseless (.union .word (.single '.'))))])
  [first .input [boundary, words ["from", "join"], blanks1, tableName],
    first .input
      [boundary, word "read_csv", maybe (word "_auto"), openCall, quotedPath singleQuote],
    first .output [boundary, word "insert", blanks1, word "into", blanks1, tableName],
    first .output
      [boundary, word "create", blanks1,
        maybe (sequence [word "or", blanks1, word "replace", blanks1]),
        maybe (sequence [word "temp", maybe (word "orary"), blanks1]),
        words ["table", "view"], blanks1,
        maybe (sequence [word "if", blanks1, word "not", blanks1, word "exists", blanks1]),
        tableName],
    first .output
      [boundary, word "copy", blanks1, many (chars .notLineFeed), boundary, word "to",
        blanks1, quotedPath singleQuote],
    first .dependency
      [assert .textStart, blanks, literal "\\i", maybe (char 'r'), blanks1,
        group 1 none (some1 (chars (.compl .blank)))]]

/-- Shells. -/
def shell : List ReferenceRule :=
  let pathChars := some1 (chars (.union .word (.ofText ['.', '/', '-'])))
  let path := group 1 none (sequence [pathChars, char '.', some1 (chars .word)])
  let script := group 1 none (sequence [pathChars, char '.', words ["sh", "bash", "zsh"]])
  [first .input
      [boundary,
        anyOf
          [words ["cat", "head", "tail", "sort", "wc"],
            sequence [literal "grep", blanks1, some1 (chars (.compl .blank))]],
        blanks1, path],
    first .input [char '<', blanks, path],
    first .output [char '>', maybe (char '>'), blanks, path],
    first .output
      [boundary, literal "tee", blanks1, maybe (sequence [literal "-a", blanks1]), path],
    first .dependency
      [anyOf
          [assert .textStart, sequence [chars (.ofText [';', '&', '|']), blanks],
            chars .blank],
        words ["source", "."], blanks1, script],
    first .dependency [boundary, words ["bash", "sh", "zsh"], blanks1, script]]

/-- Julia. -/
def julia : List ReferenceRule :=
  [first .input [call ["CSV.read", "CSV.File"], quotedPath doubleQuote],
    first .input [call ["readdlm"], quotedPath doubleQuote],
    first .input
      [call ["open"], quotedPath doubleQuote, blanks,
        alt (char ')') (sequence [char ',', blanks, literal "\"r\""])],
    named .output [call ["CSV.write"], quotedNamedPath doubleQuote],
    named .output [call ["writedlm"], quotedNamedPath doubleQuote],
    named .output [call ["savefig"], quotedNamedPath doubleQuote],
    named .output
      [call ["open"], quotedNamedPath doubleQuote, comma,
        between doubleQuote (chars (.ofText ['w', 'a']))],
    first .dependency [call ["include"], quotedPath doubleQuote]]

/-- JavaScript and TypeScript. -/
def javaScript : List ReferenceRule :=
  let callFs := fun (names : List Text) =>
    sequence
      [boundary, literal "fs", maybe (literal ".promises"), char '.', words names, openCall]
  let importedNames :=
    sequence
      [repeated (chars .notLineFeed) 1 none false, blanks1, literal "from", blanks1]
  [first .input
      [callFs ["readFileSync", "readFile", "createReadStream"], quotedPath anyQuote],
    first .output
      [callFs ["writeFileSync", "writeFile", "appendFileSync", "appendFile",
          "createWriteStream"],
        quotedPath anyQuote],
    first .dependency [call ["require"], quotedRelativePath],
    first .dependency
      [boundary, literal "import", blanks1, maybe importedNames, quotedRelativePath]]

/-- Go. -/
def go : List ReferenceRule :=
  let mode := words ["WRONLY", "RDWR", "APPEND", "CREATE"]
  [first .input [call ["os.Open", "os.ReadFile", "ioutil.ReadFile"], quotedPath doubleQuote],
    first .output
      [call ["os.Create", "os.WriteFile", "ioutil.WriteFile"], quotedPath doubleQuote],
    first .output
      [call ["os.OpenFile"], quotedPath doubleQuote, blanks, char ',',
        many (chars (.compl (.single ')'))), literal "O_", mode]]

/-- Rust. -/
def rust : List ReferenceRule :=
  [first .input [call ["fs::read_to_string", "fs::read", "File::open"], quotedPath doubleQuote],
    first .input [call ["include_str!", "include_bytes!"], quotedPath doubleQuote],
    first .output [call ["fs::write", "File::create"], quotedPath doubleQuote],
    first .dependency [call ["include!"], quotedPath doubleQuote],
    first .dependency
      [literal "#[", argument "path", quotedPath doubleQuote, char ']']]

/-- Java. -/
def java : List ReferenceRule :=
  let newObject := sequence [boundary, literal "new", blanks1]
  let pathOf := sequence [words ["Paths.get", "Path.of"], openCall]
  [first .input
      [newObject,
        anyOf
          [literal "FileReader", literal "FileInputStream",
            sequence [literal "Scanner", openCall, literal "new", blanks1, literal "File"]],
        openCall, quotedPath doubleQuote],
    first .input
      [callIn ["Files"]
          ["readAllLines", "readString", "readAllBytes", "newBufferedReader", "lines"],
        pathOf, quotedPath doubleQuote],
    first .output
      [newObject, words ["FileWriter", "FileOutputStream", "PrintWriter"], openCall,
        quotedPath doubleQuote],
    first .output
      [callIn ["Files"] ["write", "writeString", "newBufferedWriter"], pathOf,
        quotedPath doubleQuote]]

/-- Ruby. -/
def ruby : List ReferenceRule :=
  let rubyFile := group 1 none (sequence [unquoted eitherQuote, literal ".rb"])
  [first .input
      [call ["File.read", "File.readlines", "File.foreach", "CSV.read", "CSV.foreach",
          "YAML.load_file", "JSON.load_file"],
        quotedPath eitherQuote],
    first .input
      [call ["File.open"], quotedPath eitherQuote, blanks,
        alt (char ')') (sequence [char ',', blanks, chars eitherQuote, char 'r'])],
    named .output [call ["File.write"], quotedNamedPath eitherQuote],
    named .output
      [callIn ["File", "CSV"] ["open"], quotedNamedPath eitherQuote, comma,
        chars eitherQuote, chars (.ofText ['w', 'a'])],
    first .dependency
      [boundary, literal "require_relative", openMaybe, quotedPath eitherQuote],
    first .dependency [boundary, literal "load", openMaybe, between eitherQuote rubyFile]]

/-- Lua. -/
def lua : List ReferenceRule :=
  [first .input
      [call ["io.open"], quotedPath eitherQuote, blanks,
        alt (char ')') (sequence [char ',', blanks, chars eitherQuote, char 'r'])],
    first .input [call ["io.lines"], quotedPath eitherQuote],
    first .output
      [call ["io.open"], quotedPath eitherQuote, comma, chars eitherQuote,
        chars (.ofText ['w', 'a'])],
    first .dependency [call ["dofile"], quotedPath eitherQuote],
    first .dependency [call ["loadfile"], quotedPath eitherQuote]]

/-- MATLAB. -/
def matlab : List ReferenceRule :=
  let fileWithExtension :=
    group 1 none (sequence [unquoted singleQuote, char '.', some1 (chars .word)])
  [first .input
      [call ["readtable", "readmatrix", "readcell", "csvread", "dlmread", "load", "imread",
          "fileread"],
        quotedPath singleQuote],
    first .output
      [boundary,
        words ["writetable", "writematrix", "writecell", "csvwrite", "dlmwrite", "imwrite"],
        blanks, char '(', firstArgument, quotedPath singleQuote],
    first .output
      [call ["save", "saveas", "print"], maybe firstArgument,
        between singleQuote fileWithExtension],
    first .dependency [call ["run"], quotedPath singleQuote]]

/-- C and C++. -/
def c : List ReferenceRule :=
  let stream := fun (name : Text) =>
    sequence
      [boundary, maybe (literal "std::"), literal name, blanks1, some1 (chars .word), blanks,
        chars (.ofText ['(', '\x7b']), blanks]
  [first .input [call ["fopen"], quotedPath doubleQuote, comma, literal "\"r"],
    first .input [stream "ifstream", quotedPath doubleQuote],
    first .output
      [call ["fopen"], quotedPath doubleQuote, comma, char '"', chars (.ofText ['w', 'a'])],
    first .output [stream "ofstream", quotedPath doubleQuote],
    first .dependency
      [assert .textStart, blanks, char '#', blanks, literal "include", blanks1,
        quotedPath doubleQuote]]

/-- The rules of a language, in order; most languages have none. -/
def ofLanguage : Language → List ReferenceRule
  | .r => r
  | .python => python
  | .sql => sql
  | .shell => shell
  | .julia => julia
  | .javaScript => javaScript
  | .typeScript => javaScript
  | .go => go
  | .rust => rust
  | .java => java
  | .ruby => ruby
  | .lua => lua
  | .matlab => matlab
  | .c => c
  | .cpp => c
  | _ => []

/-- The rules of the language with a tag. -/
def ofTag (tag : Text) : List ReferenceRule :=
  ((Language.ofTag? tag).map ofLanguage).getD []

/-- The tags of the languages that have rules, in alphabetical order. -/
def tags : List Text :=
  ((Language.all.filter fun language => !(ofLanguage language).isEmpty).map
    Language.tag).mergeSort fun s t => !decide (t < s)

end ReferenceRule

end ScriptFlow
