import PageHeat.Text.Utf8
import PageHeat.Unicode.RangeSet

/-
  Ranges of characters as sequences of octet ranges.

  A range of characters is cut into pieces whose encodings
  are exactly the sequences of octets that take one octet
  from each of up to four ranges. A piece neither crosses a
  length of encoding nor, at any octet but the first one
  that varies, anything but all of the values that a
  continuation can have.

  Key definitions include:
    * `OctetRange`
    * `OctetRange.cut?`
    * `OctetRange.pieces`
    * `OctetRange.sequences`
-/

------------------------------------------------------------
-- Octet Ranges
------------------------------------------------------------

namespace PageHeat

/- The octets from one to another, both included. -/
structure OctetRange where
  first : UInt8
  last : UInt8
  deriving Repr, DecidableEq

namespace OctetRange

------------------------------------------------------------
-- Pieces
------------------------------------------------------------

/- The last characters of the lengths of encoding. -/
def lengthEnds : List Nat := [0x7F, 0x7FF, 0xFFFF]

/- How many characters one, two or three octets can tell. -/
def blockSizes : List Nat := [0x40, 0x1000, 0x40000]

/- Where a range has to be cut for a size of blocks. -/
def cutForBlock?
    (first last size : Nat) : Option Nat :=
  if first / size = last / size then
    none
  else if first % size ≠ 0 then
    some (first / size * size + (size - 1))
  else if last % size ≠ size - 1 then
    some (last / size * size - 1)
  else
    none

/-
  The last character of the first part of a range that has
  to be cut: at an end of a length, else at blocks.
-/
def cut? (first last : Nat) : Option Nat :=
  match lengthEnds.find? fun n => first ≤ n && n < last with
  | some n => some n
  | none =>
      if last < 0x80 then none
      else blockSizes.findSome? (cutForBlock? first last)

/- Cut a range until no part of it has to be cut. -/
def pieces (first last : Nat) : List (Nat × Nat) :=
  match cut? first last with
  | none => [(first, last)]
  | some n =>
      if first ≤ n ∧ n < last then
        pieces first n ++ pieces (n + 1) last
      else
        [(first, last)]
termination_by last - first

------------------------------------------------------------
-- Sequences
------------------------------------------------------------

def ofPiece (piece : Nat × Nat) : List OctetRange :=
  List.zipWith (fun a b => { first := a, last := b })
    (Utf8.encode [Char.ofNat piece.1])
    (Utf8.encode [Char.ofNat piece.2])

/- The sequences of octet ranges of a set of characters. -/
def sequences (set : RangeSet) : List (List OctetRange) :=
  set.flatMap fun r => (pieces r.1 r.2).map ofPiece

end OctetRange

end PageHeat
