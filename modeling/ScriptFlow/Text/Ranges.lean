/-!
# Sets of code points

A set of characters of the Unicode standard is a list of ranges of code points,
both ends included.  Membership does not depend on the order of the ranges.

`Ranges.normalize` brings a list into its normal form, in which the ranges are
in order, apart from each other and never adjacent; union, complement,
intersection and difference give normal forms.  The surrogates stand for no
character and are left out of every complement.
-/

namespace ScriptFlow

namespace Text

/-- A set of code points as ranges with both ends included. -/
abbrev Ranges := List (Nat × Nat)

namespace Ranges

/-- Whether a code point lies in one of the ranges. -/
def has (ranges : Ranges) (n : Nat) : Bool :=
  ranges.any fun (first, last) => first ≤ n && n ≤ last

/-! ### Normal forms -/

/-- A range in front of ranges that start no earlier, with those that it meets
taken into it. -/
def merge (first last : Nat) : Ranges → Ranges
  | [] => [(first, last)]
  | (first', last') :: rest =>
    if first' ≤ last + 1 then merge first (Nat.max last last') rest
    else (first, last) :: merge first' last' rest

/-- The same set with its ranges in order and apart. -/
def normalize (ranges : Ranges) : Ranges :=
  match ranges.mergeSort fun a b => Nat.ble a.1 b.1 with
  | [] => []
  | (first, last) :: rest => merge first last rest

/-! ### Operations -/

/-- The last code point. -/
def lastPoint : Nat :=
  0x10FFFF

/-- The code points that stand for no character. -/
def surrogates : Nat × Nat :=
  (0xD800, 0xDFFF)

/-- What lies between ordered ranges from a code point on. -/
def gapsFrom (next : Nat) : Ranges → Ranges
  | [] => if next ≤ lastPoint then [(next, lastPoint)] else []
  | (first, last) :: rest =>
    if next < first then (next, first - 1) :: gapsFrom (last + 1) rest
    else gapsFrom (last + 1) rest

/-- The characters outside of a set. -/
def compl (a : Ranges) : Ranges :=
  gapsFrom 0 (normalize (surrogates :: a))

/-- The characters in one of two sets. -/
def union (a b : Ranges) : Ranges :=
  normalize (a ++ b)

/-- The characters in both of two sets. -/
def inter (a b : Ranges) : Ranges :=
  compl (compl a ++ compl b)

/-- The characters in one set but not in another. -/
def diff (a b : Ranges) : Ranges :=
  compl (compl a ++ b)

/-! ### Written lists

A list of ranges is written as items with blanks or line ends between them: `41`
is one code point in hexadecimal digits, `41-5A` a range, and `100-12E/2` every
second code point from the first to the last. -/

/-- The value of a digit of a hexadecimal number. -/
def digitValue (c : Char) : Nat :=
  if c.isDigit then c.toNat - '0'.toNat else c.toNat - 'A'.toNat + 10

/-- The value of a hexadecimal number. -/
def numberOf (digits : List Char) : Nat :=
  digits.foldl (fun n c => 16 * n + digitValue c) 0

/-- The code points that one item stands for. -/
def ofItem (item : List Char) : Ranges :=
  let (range, step) := (item.takeWhile (· != '/'), (item.dropWhile (· != '/')).drop 1)
  let (first, last) := (range.takeWhile (· != '-'), (range.dropWhile (· != '-')).drop 1)
  let start := numberOf first
  if last.isEmpty then [(start, start)]
  else if step.isEmpty then [(start, numberOf last)]
  else
    let step := numberOf step
    let count := (numberOf last - start) / step + 1
    (List.range count).map fun k => (start + k * step, start + k * step)

/-- The set that a written list stands for. -/
def ofText (written : String) : Ranges :=
  let items := written.toList.splitOnP Char.isWhitespace
  (items.filter fun item => !item.isEmpty).flatMap ofItem

end Ranges

end Text

end ScriptFlow
