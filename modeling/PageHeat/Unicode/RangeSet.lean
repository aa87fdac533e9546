import PageHeat.Text.Basic

/-
  Sets of code points, kept as ascending lists of ranges.

  The tables of the Unicode standard and the character
  sets of patterns are both range sets. A set in normal
  form has ascending ranges with a gap between neighbours;
  every operation here returns a set in normal form when
  its arguments have it. Surrogates are no characters, so
  no complement has them.

  Key definitions include:
    * `RangeSet`
    * `RangeSet.contains`
    * `RangeSet.ofRanges`
    * `RangeSet.union`
    * `RangeSet.complement`
    * `RangeSet.intersection`
    * `RangeSet.ofHex`
-/

------------------------------------------------------------
-- Range Sets
------------------------------------------------------------

namespace PageHeat

/- A set of numbers as a list of inclusive ranges. -/
abbrev RangeSet := List (Nat × Nat)

namespace RangeSet

/- The largest code point. -/
def top : Nat := 0x10FFFF

/- Whether a number lies in some range. -/
def contains (s : RangeSet) (n : Nat) : Bool :=
  s.any fun r => r.1 ≤ n && n ≤ r.2

/- Whether a character lies in the set. -/
def hasChar (s : RangeSet) (c : Char) : Bool :=
  s.contains c.toNat

/- The code points that stand for no character. -/
def surrogates : Nat × Nat := (0xD800, 0xDFFF)

/- The characters from one to another, both included. -/
def between (first last : Nat) : RangeSet :=
  if first < surrogates.1 ∧ surrogates.2 < last then
    [(first, surrogates.1 - 1), (surrogates.2 + 1, last)]
  else
    [(first, last)]

/- The set of every character. -/
def full : RangeSet := between 0 top

------------------------------------------------------------
-- Normal Form
------------------------------------------------------------

/-
  Merge a current range with the ascending ranges that
  follow it, as far as they touch.
-/
def mergeInto
    (current : Nat × Nat) :
    RangeSet → RangeSet
  | [] => [current]
  | next :: rest =>
      if next.1 ≤ current.2 + 1 then
        mergeInto (current.1, max current.2 next.2) rest
      else
        current :: mergeInto next rest

/- Merge touching neighbours of an ascending list. -/
def merge : RangeSet → RangeSet
  | [] => []
  | first :: rest => mergeInto first rest

/- The normal form of any list of ranges. -/
def ofRanges (ranges : List (Nat × Nat)) : RangeSet :=
  merge (ranges.mergeSort fun r s => r.1 ≤ s.1)

def single (n : Nat) : RangeSet := [(n, n)]

------------------------------------------------------------
-- Set Operations
------------------------------------------------------------

/- The numbers of either set. -/
def union (s t : RangeSet) : RangeSet :=
  ofRanges (s ++ t)

/- The gaps of an ascending set, from a number on. -/
def gapsFrom (next : Nat) : RangeSet → RangeSet
  | [] => if next ≤ top then [(next, top)] else []
  | r :: rest =>
      if next < r.1 then
        (next, r.1 - 1) :: gapsFrom (r.2 + 1) rest
      else
        gapsFrom (r.2 + 1) rest

/- The characters that are not in the set. -/
def complement (s : RangeSet) : RangeSet :=
  gapsFrom 0 (union s [surrogates])

/-
  The numbers of both sets. Of the first ranges, the one
  that ends first has nothing in common with the rest.
-/
def intersection : RangeSet → RangeSet → RangeSet
  | [], _ => []
  | _, [] => []
  | a :: s, b :: t =>
      let rest :=
        if a.2 < b.2 then
          intersection s (b :: t)
        else
          intersection (a :: s) t
      let first := max a.1 b.1
      let last := min a.2 b.2
      if first ≤ last then (first, last) :: rest else rest
termination_by s t => s.length + t.length

/- The numbers of the first set only. -/
def difference (s t : RangeSet) : RangeSet :=
  intersection s (complement t)

/- The numbers of exactly one of the sets. -/
def symmetricDifference (s t : RangeSet) : RangeSet :=
  union (difference s t) (difference t s)

------------------------------------------------------------
-- Reading Tables
------------------------------------------------------------

/- The value of a hexadecimal digit. -/
def hexValue? (c : Char) : Option Nat :=
  if '0' ≤ c ∧ c ≤ '9' then
    some (c.toNat - '0'.toNat)
  else if 'A' ≤ c ∧ c ≤ 'F' then
    some (c.toNat - 'A'.toNat + 10)
  else if 'a' ≤ c ∧ c ≤ 'f' then
    some (c.toNat - 'a'.toNat + 10)
  else
    none

/- The number of a text of hexadecimal digits. -/
def hexNumber (t : Text) : Nat :=
  t.foldl (fun n c => n * 16 + (hexValue? c).getD 0) 0

/- The range that a word `A` or `A-B` names. -/
def ofWord (word : Text) : Nat × Nat :=
  match Text.splitOn '-' word with
  | [a] => (hexNumber a, hexNumber a)
  | a :: b :: _ => (hexNumber a, hexNumber b)
  | [] => (0, 0)

/- The words of a text, between blanks. -/
def words (t : Text) : List Text :=
  (Text.splitOn ' '
    (t.map fun c => if Text.isBlank c then ' ' else c)).filter
      (!·.isEmpty)

/- The set of a text of ranges in ascending order. -/
def ofHex (table : String) : RangeSet :=
  merge ((words table.toList).map ofWord)

end RangeSet

end PageHeat
