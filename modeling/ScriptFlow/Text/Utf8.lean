import ScriptFlow.Text.Ranges

/-!
# Characters as bytes

In UTF-8, a character is a leading byte with up to three bytes after it, which
hold six bits each.  A set of characters is then the union of some sequences of
byte ranges: a sequence stands for every choice of one byte from each of its
ranges.  `byteSequences` cuts a set into such sequences, in order and without
overlap.
-/

namespace ScriptFlow

namespace Text

/-- Byte ranges, one for each byte of a character. -/
abbrev ByteSequence := List (Nat × Nat)

/-- The sequences for the numbers between two, written in base 64 with a number
of digits after the leading one; each digit is a byte, and the bytes of the
leading digit start at a base. -/
def digitSequences : Nat → Nat → Nat → Nat → List ByteSequence
  | 0, base, first, last => [[(base + first, base + last)]]
  | digits + 1, base, first, last =>
    let unit := 64 ^ (digits + 1)
    let (a, x) := (first / unit, first % unit)
    let (b, y) := (last / unit, last % unit)
    let under := fun lead (tails : List ByteSequence) => tails.map (lead :: ·)
    if a == b then under (base + a, base + a) (digitSequences digits 0x80 x y)
    else
      let front := if x == 0 then []
        else under (base + a, base + a) (digitSequences digits 0x80 x (unit - 1))
      let back := if y == unit - 1 then []
        else under (base + b, base + b) (digitSequences digits 0x80 0 y)
      let start := if x == 0 then a else a + 1
      let stop := if y == unit - 1 then b + 1 else b
      let middle := if start < stop then
          under (base + start, base + stop - 1) (digitSequences digits 0x80 0 (unit - 1))
        else []
      front ++ middle ++ back

/-- The first and the last code point of a written length, with the number of
bytes after the leading one and the base of the leading byte. -/
structure ByteLength where
  first : Nat
  last : Nat
  following : Nat
  base : Nat

/-- The lengths that characters are written in, with the surrogates left out. -/
def byteLengths : List ByteLength :=
  [
    ⟨0, 0x7F, 0, 0⟩,
    ⟨0x80, 0x7FF, 1, 0xC0⟩,
    ⟨0x800, 0xD7FF, 2, 0xE0⟩,
    ⟨0xE000, 0xFFFF, 2, 0xE0⟩,
    ⟨0x10000, 0x10FFFF, 3, 0xF0⟩
  ]

/-- The sequences for the characters of a range. -/
def rangeSequences (first last : Nat) : List ByteSequence :=
  byteLengths.flatMap fun length =>
    let start := Nat.max first length.first
    let stop := Nat.min last length.last
    if start ≤ stop then digitSequences length.following length.base start stop else []

/-- The sequences for the characters of a set. -/
def byteSequences (set : Ranges) : List ByteSequence :=
  set.flatMap fun (first, last) => rangeSequences first last

end Text

end ScriptFlow
