import ScriptFlow.Unicode.Binary
import ScriptFlow.Unicode.Script

/-!
# Classes for the division of text

The Unicode standard divides text into the characters that a reader sees, into
words and into sentences.  For each of the three, it puts every character into
at most one class; most classes are worked out from other properties, less the
classes that come before them.

The look-ups by name take the names in lower case and without blanks, hyphens
and low lines.
-/

namespace ScriptFlow

namespace Unicode

namespace Break

open Category (charsOf)

/-- The set with a name in a list of sets with their names. -/
def named? (classes : List (List String × Described)) (name : Text) : Option Described :=
  (classes.find? fun entry => entry.1.any fun known => known.toList == name).map Prod.snd

/-! ### Classes in common -/

/-- The line feed. -/
def lineFeed : Described :=
  .listed "A"

/-- The carriage return. -/
def carriageReturn : Described :=
  .listed "D"

/-- The joiner of characters, and the sign that keeps them apart. -/
def joiners : Described :=
  .listed "200C-200D"

/-- The joiner of characters. -/
def joiner : Described :=
  .listed "200D"

/-- The signs that stand before a number or a word and belong to it. -/
def prepended : Described :=
  Listed.prependedConcatenationMark.chars

/-- The decimal digits of lines of text, with the separators of Arabic numbers. -/
def digits : Described :=
  .anyOf [charsOf [.decimalNumber], .listed "66B-66C", .except prepended (.listed "70F")]

/-! ### Characters that a reader sees -/

/-- The marks that are written after a character without being part of it. -/
def separateMarks : Described :=
  .listed "102B-102C 1038 1062-1064 1067-106D 1083 1087-108C 108F 109A-109C 1A61 1A63-1A64 AA7B
    AA7D 11720-11721"

/-- The syllables that end in a vowel. -/
def openSyllables : Described :=
  .listed "AC00-D788/1C"

/-- The characters that add to the one before them. -/
def graphemeExtend : Described :=
  .either Binary.graphemeExtend Listed.emojiModifier.chars

/-- The characters that stand apart from all others. -/
def control : Described :=
  let controls := .anyOf [charsOf [.lineSeparator, .paragraphSeparator, .control, .format],
    .both (charsOf [.unassigned]) Binary.defaultIgnorable]
  .except controls
    (.anyOf [lineFeed, carriageReturn, joiners, prepended, Binary.graphemeExtend])

/-- The marks that take room and belong to the character before them. -/
def spacingMark : Described :=
  .except (.either (charsOf [.spacingMark]) (.listed "E33 EB3"))
    (.either Binary.graphemeExtend separateMarks)

/-- The classes of characters that a reader sees. -/
def graphemes : List (List String × Described) :=
  [
    (["cr"], carriageReturn),
    (["lf"], lineFeed),
    (["cn", "control"], control),
    (["ex", "extend"], graphemeExtend),
    (["l"], .listed "1100-115F A960-A97C"),
    (["v"], .listed "1160-11A7 D7B0-D7C6 16D63 16D67-16D6A"),
    (["t"], .listed "11A8-11FF D7CB-D7FB"),
    (["lv"], openSyllables),
    (["lvt"], .except (.listed "AC00-D7A3") openSyllables),
    (["pp", "prepend"], .either prepended
      (.listed "D4E 111C2-111C3 113D1 1193F 11941 11A3A 11A84-11A89 11D46 11F02")),
    (["ri", "regionalindicator"], Listed.regionalIndicator.chars),
    (["sm", "spacingmark"], spacingMark),
    (["zwj"], joiner)
  ]

/-! ### Words -/

/-- The characters of the script with a name. -/
def ofScript (name : Text) : Described :=
  ((Script.named? name).map Script.chars).getD .nothing

/-- The characters that add to the one before them in a word. -/
def wordExtend : Described :=
  .except (.anyOf [Binary.graphemeExtend, charsOf [.spacingMark], Listed.emojiModifier.chars])
    joiner

/-- The letters of Katakana. -/
def katakana : Described :=
  .except (.either (.listed "3031-3035 309B-309C 30A0 30FC FF70")
    (ofScript "katakana")) wordExtend

/-- The letters of Hebrew. -/
def hebrewLetter : Described :=
  .both (ofScript "hebrew") (charsOf [.otherLetter])

/-- The characters that scripts without blanks between words are written in. -/
def unspaced : Described :=
  .listed
    "E01-E3A E40-E4E E81-E82 E84 E86-E8A E8C-EA3 EA5 EA7-EBD EC0-EC4 EC6 EC8-ECE EDC-EDF 1000-103F
    1050-108F 109A-109F 1780-17D3 17D7 17DC-17DD 1950-196D 1970-1974 1980-19AB 19B0-19C9 19DA
    19DE-19DF 1A20-1A5E 1A60-1A7C 1AA0-1AAD A9E0-A9EF A9FA-A9FE AA60-AAC2 AADB-AADF 11700-1171A
    1171D-1172B 1173A-1173B 1173F-11746"

/-- The digits of numbers. -/
def wordNumeric : Described :=
  .except digits (.listed "66C")

/-- The characters in words that are not alphabetic. -/
def wordSigns : Described :=
  .listed "2C2-2C5 2D2-2D7 2DE-2DF 2E5-2EB 2ED 2EF-2FF 55A-55C 55E 58A 5F3 70F A708-A716
    A720-A721 A789-A78A AB5B"

/-- The letters of words. -/
def wordLetter : Described :=
  .except (.either Binary.alphabetic wordSigns)
    (.anyOf [Listed.ideographic.chars, katakana, unspaced, ofScript "hiragana", wordExtend,
      hebrewLetter, wordNumeric])

/-- The formatting characters inside words. -/
def wordFormat : Described :=
  .except (charsOf [.format]) (.anyOf [.listed "200B", joiners, prepended, wordExtend])

/-- The classes of characters in words. -/
def words : List (List String × Described) :=
  [
    (["cr"], carriageReturn),
    (["lf"], lineFeed),
    (["nl", "newline"], .listed "B-C 85 2028-2029"),
    (["extend"], wordExtend),
    (["zwj"], joiner),
    (["ri", "regionalindicator"], Listed.regionalIndicator.chars),
    (["fo", "format"], wordFormat),
    (["ka", "katakana"], katakana),
    (["hl", "hebrewletter"], hebrewLetter),
    (["le", "aletter"], wordLetter),
    (["sq", "singlequote"], .listed "27"),
    (["dq", "doublequote"], .listed "22"),
    (["mb", "midnumlet"], .listed "2E 2018-2019 2024 FE52 FF07 FF0E"),
    (["ml", "midletter"], .listed "3A B7 387 55F 5F4 2027 FE13 FE55 FF1A"),
    (["mn", "midnum"],
      .listed "2C 3B 37E 589 60C-60D 66C 7F8 2044 FE10 FE14 FE50 FE54 FF0C FF1B"),
    (["nu", "numeric"], wordNumeric),
    (["ex", "extendnumlet"], .either (charsOf [.connectorPunctuation]) (.listed "202F")),
    (["wsegspace"], .listed "20 1680 2000-2006 2008-200A 205F 3000")
  ]

/-! ### Sentences -/

/-- The characters that add to the one before them in a sentence. -/
def sentenceExtend : Described :=
  .anyOf [Binary.graphemeExtend, joiner, charsOf [.spacingMark]]

/-- The separators of paragraphs. -/
def paragraphEnd : Described :=
  .listed "85 2028-2029"

/-- The points that end a sentence or not. -/
def point : Described :=
  .listed "2E 2024 FE52 FF0E"

/-- The lowercase letters. -/
def sentenceLower : Described :=
  .except Binary.lowercase (.either Binary.graphemeExtend (.listed "10D0-10FA 10FD-10FF"))

/-- The uppercase letters. -/
def sentenceUpper : Described :=
  .except (.either (charsOf [.titlecaseLetter]) Binary.uppercase)
    (.listed "1C90-1CBA 1CBD-1CBF")

/-- The letters without letter case. -/
def otherLetter : Described :=
  .except (.either Binary.alphabetic (.listed "5F3 70F"))
    (.anyOf [sentenceLower, sentenceUpper, sentenceExtend])

/-- The brackets and quotation marks. -/
def sentenceClose : Described :=
  .except
    (.either
      (charsOf [.openPunctuation, .closePunctuation, .initialPunctuation, .finalPunctuation])
      (.listed "22 27 275B-2760 2E00-2E01 2E06-2E08 2E0B 1F676-1F678"))
    (.listed "5F3")

/-- The classes of characters in sentences. -/
def sentences : List (List String × Described) :=
  [
    (["cr"], carriageReturn),
    (["lf"], lineFeed),
    (["se", "sep"], paragraphEnd),
    (["ex", "extend"], sentenceExtend),
    (["fo", "format"],
      .except (charsOf [.format]) (.anyOf [joiners, prepended, sentenceExtend])),
    (["sp"], .except Listed.whiteSpace.chars (.anyOf [paragraphEnd, lineFeed, carriageReturn])),
    (["lo", "lower"], sentenceLower),
    (["up", "upper"], sentenceUpper),
    (["le", "oletter"], otherLetter),
    (["nu", "numeric"], digits),
    (["at", "aterm"], point),
    (["st", "sterm"], .except Listed.sentenceTerminal.chars point),
    (["cl", "close"], sentenceClose),
    (["sc", "scontinue"],
      .listed "2C-2D 3A-3B 37E 55D 60C-60D 7F8 1802 1808 2013-2014 3001 FE10-FE11 FE13-FE14
        FE31-FE32 FE50-FE51 FE54-FE55 FE58 FE63 FF0C-FF0D FF1A-FF1B FF64")
  ]

end Break

end Unicode

end ScriptFlow
