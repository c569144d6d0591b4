import ScriptFlow.Text.Basic

/-!
# Texts as bytes

The bytes of a text in UTF-8, and the text that bytes spell, if they spell one.
Any bytes can be shown as a text: what is no character shows as `U+FFFD`, once for
each stretch of bytes that starts a character and breaks off, and once for each
byte that starts none.
-/

namespace ScriptFlow

namespace Text

/-- The bytes of a text in UTF-8. -/
def utf8 (t : Text) : List UInt8 :=
  t.flatMap String.utf8EncodeChar

/-- The text that bytes spell in UTF-8, if they spell any. -/
def ofUtf8? (bytes : List UInt8) : Option Text :=
  (String.fromUTF8? bytes.toByteArray).map String.toList

/-- The number of bytes of a character, by the first of them. -/
def width (lead : UInt8) : Nat :=
  if lead < 0x80 then 1
  else if lead < 0xE0 then 2
  else if lead < 0xF0 then 3
  else 4

/-- The character that bytes start with, if they start with one. -/
def firstChar? : List UInt8 → Option Char
  | [] => none
  | lead :: rest =>
    match ofUtf8? ((lead :: rest).take (width lead)) with
    | some [c] => some c
    | _ => none

/-- Whether one or two further bytes can complete a character. -/
def isBrokenOff (bytes : List UInt8) : Bool :=
  (ofUtf8? (bytes ++ [0x80])).isSome || (ofUtf8? (bytes ++ [0x80, 0x80])).isSome

/-- The number of bytes that show as one `U+FFFD`, where no character starts. -/
def brokenWidth (bytes : List UInt8) : Nat :=
  if isBrokenOff (bytes.take 3) then 3
  else if isBrokenOff (bytes.take 2) then 2
  else 1

/-- What bytes show behind a number of them that were shown before. -/
def shownAfter : Nat → List UInt8 → Text
  | _, [] => []
  | shown + 1, _ :: rest => shownAfter shown rest
  | 0, lead :: rest =>
    match firstChar? (lead :: rest) with
    | some c => c :: shownAfter (width lead - 1) rest
    | none => '\ufffd' :: shownAfter (brokenWidth (lead :: rest) - 1) rest

/-- The text that bytes show. -/
def shown (bytes : List UInt8) : Text :=
  shownAfter 0 bytes

end Text

end ScriptFlow
