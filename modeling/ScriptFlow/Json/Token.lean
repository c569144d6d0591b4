import ScriptFlow.Text.Basic

/-!
# JSON tokens

The lexical layer of JSON: punctuation, the three words, numbers and strings.
A string with an escaped half of a surrogate pair that stands alone becomes the
token `Token.unpaired`.

`Token.ofText?` divides a whole text into tokens.  Every step consumes a
character, so the length of the text bounds the number of steps.
-/

namespace ScriptFlow

namespace Json

/-- A token of JSON text. -/
inductive Token where
  | openBrace
  | closeBrace
  | openBracket
  | closeBracket
  | colon
  | comma
  | null
  | true
  | false
  | nat (value : Nat)
  | decimal (literal : Text)
  | str (text : Text)
  | unpaired
  deriving DecidableEq, Repr

namespace Token

/-- The four characters that may stand between tokens. -/
def isGap (c : Char) : Bool :=
  c == ' ' || c == '\n' || c == '\t' || c == '\r'

/-! ### Numbers -/

/-- The digits a text starts with, and the rest. -/
def spanDigits (t : Text) : Text × Text :=
  (t.takeWhile Char.isDigit, t.dropWhile Char.isDigit)

/-- The digits of a whole number, which start with `0` only if that is all. -/
def whole? (t : Text) : Option (Text × Text) :=
  match t with
  | '0' :: rest => if (rest.head?.any Char.isDigit) then none else some (['0'], rest)
  | _ =>
    match spanDigits t with
    | ([], _) => none
    | digits => some digits

/-- A fraction, if a point follows. -/
def fraction? (t : Text) : Option (Text × Text) :=
  match t with
  | '.' :: rest =>
    match spanDigits rest with
    | ([], _) => none
    | (digits, rest) => some ('.' :: digits, rest)
  | _ => some ([], t)

/-- An exponent, if `e` or `E` follows. -/
def exponent? (t : Text) : Option (Text × Text) :=
  match t with
  | c :: rest =>
    if c == 'e' || c == 'E' then
      let (sign, rest) :=
        match rest with
        | '+' :: rest => (['+'], rest)
        | '-' :: rest => (['-'], rest)
        | _ => ([], rest)
      match spanDigits rest with
      | ([], _) => none
      | (digits, rest) => some (c :: sign ++ digits, rest)
    else some ([], t)
  | [] => some ([], [])

/-- The number a text starts with. -/
def number? (t : Text) : Option (Token × Text) := do
  let (sign, rest) :=
    match t with
    | '-' :: rest => (['-'], rest)
    | _ => ([], t)
  let (whole, rest) ← whole? rest
  let (fraction, rest) ← fraction? rest
  let (exponent, rest) ← exponent? rest
  if sign.isEmpty && fraction.isEmpty && exponent.isEmpty then
    some (.nat (Nat.ofDigitChars 10 whole 0), rest)
  else
    some (.decimal (sign ++ whole ++ fraction ++ exponent), rest)

/-! ### Strings -/

/-- The value of a hexadecimal digit. -/
def hexDigit? (c : Char) : Option Nat :=
  if '0' ≤ c ∧ c ≤ '9' then some (c.toNat - '0'.toNat)
  else if 'a' ≤ c ∧ c ≤ 'f' then some (c.toNat - 'a'.toNat + 10)
  else if 'A' ≤ c ∧ c ≤ 'F' then some (c.toNat - 'A'.toNat + 10)
  else none

/-- The value of four hexadecimal digits. -/
def hex4? (a b c d : Char) : Option Nat := do
  let a ← hexDigit? a
  let b ← hexDigit? b
  let c ← hexDigit? c
  let d ← hexDigit? d
  some (((a * 16 + b) * 16 + c) * 16 + d)

/-- The character that a letter after a backslash stands for. -/
def simpleEscape? (c : Char) : Option Char :=
  match c with
  | '"' => some '"'
  | '\\' => some '\\'
  | '/' => some '/'
  | 'b' => some '\x08'
  | 'f' => some '\x0c'
  | 'n' => some '\n'
  | 'r' => some '\r'
  | 't' => some '\t'
  | _ => none

/-- One unit of a string: a character, or an escaped number of 16 bits. -/
inductive Unit16 where
  | char (c : Char)
  | code (n : Nat)
  deriving DecidableEq, Repr

/-- The units of a string up to its closing quote, and the text after it. -/
def units? : Text → Option (List Unit16 × Text)
  | [] => none
  | '"' :: rest => some ([], rest)
  | '\\' :: 'u' :: a :: b :: c :: d :: rest => do
    let n ← hex4? a b c d
    let (units, rest) ← units? rest
    some (.code n :: units, rest)
  | '\\' :: e :: rest => do
    let c ← simpleEscape? e
    let (units, rest) ← units? rest
    some (.char c :: units, rest)
  | c :: rest =>
    if c.toNat < 0x20 || c == '\\' then none
    else do
      let (units, rest) ← units? rest
      some (.char c :: units, rest)

/-- Whether a number is the first half of a surrogate pair. -/
def isHigh (n : Nat) : Bool :=
  0xD800 ≤ n && n < 0xDC00

/-- Whether a number is the second half of a surrogate pair. -/
def isLow (n : Nat) : Bool :=
  0xDC00 ≤ n && n < 0xE000

/-- The text of the units, if every surrogate is half of a pair. -/
def textOfUnits? : List Unit16 → Option Text
  | [] => some []
  | .char c :: rest => (textOfUnits? rest).map (c :: ·)
  | .code h :: .code l :: rest =>
    if isHigh h then
      if isLow l then
        (textOfUnits? rest).map
          (Char.ofNat (0x10000 + (h - 0xD800) * 0x400 + (l - 0xDC00)) :: ·)
      else none
    else if isLow h then none
    else (textOfUnits? (.code l :: rest)).map (Char.ofNat h :: ·)
  | .code h :: rest =>
    if isHigh h || isLow h then none
    else (textOfUnits? rest).map (Char.ofNat h :: ·)

/-- The string whose opening quote stands before a text. -/
def string? (t : Text) : Option (Token × Text) :=
  (units? t).map fun (units, rest) =>
    match textOfUnits? units with
    | some text => (.str text, rest)
    | none => (.unpaired, rest)

/-! ### Division into tokens -/

/-- The token a text starts with; `none` if it starts with no token. -/
def next? : Text → Option (Token × Text)
  | '\x7b' :: rest => some (.openBrace, rest)
  | '\x7d' :: rest => some (.closeBrace, rest)
  | '[' :: rest => some (.openBracket, rest)
  | ']' :: rest => some (.closeBracket, rest)
  | ':' :: rest => some (.colon, rest)
  | ',' :: rest => some (.comma, rest)
  | '"' :: rest => string? rest
  | 'n' :: 'u' :: 'l' :: 'l' :: rest => some (.null, rest)
  | 't' :: 'r' :: 'u' :: 'e' :: rest => some (.true, rest)
  | 'f' :: 'a' :: 'l' :: 's' :: 'e' :: rest => some (.false, rest)
  | t => number? t

/-- The tokens of a text, in at most as many steps as the first argument says. -/
def scan? : Nat → Text → Option (List Token)
  | 0, t => if t.isEmpty then some [] else none
  | steps + 1, t =>
    match t with
    | [] => some []
    | c :: rest =>
      if isGap c then scan? steps rest
      else do
        let (token, rest) ← next? (c :: rest)
        let tokens ← scan? steps rest
        some (token :: tokens)

/-- The tokens of a text. -/
def ofText? (t : Text) : Option (List Token) :=
  scan? t.length t

end Token

end Json

end ScriptFlow
