import PageHeat.Pattern.Extent
import PageHeat.Pattern.Machine

/-
  Patterns that are not too heavy.

  A pattern is looked for by two machines, one that reads
  forward and remembers what its groups matched, and one
  that reads backward and does not. Every repetition that
  is required or bounded is a copy of its own. A pattern is
  usable if there is room for each of the two, or if it is
  a long list of words, for which no machine is built.

  Key definitions include:
    * `Direction`
    * `Pattern.Branch`
    * `Pattern.toBranches`
    * `Pattern.assembleAll`
    * `Pattern.isWordList`
    * `Pattern.fits`
-/

------------------------------------------------------------
-- Directions
------------------------------------------------------------

namespace PageHeat

/- The way in which a machine reads. -/
inductive Direction where
  | forward
  | backward
  deriving Repr, DecidableEq

namespace Pattern

------------------------------------------------------------
-- Parts
------------------------------------------------------------

open Assembly

/- Build what takes one character of a set. -/
def assembleSet (d : Direction) (set : RangeSet) : Assembly Unit :=
  if set.all fun r => r.2 < 0x80 then do
    let _ ← state 0
    let _ ← octetState set.length
  else
    match d with
    | .forward => characters (OctetRange.sequences set)
    | .backward => charactersBackward (OctetRange.sequences set)

/-
  Build copies of a part one after the other, and tell
  whether the last of them ends with a choice.
-/
def assembleCopies
    (part : Assembly Bool) :
    Nat → Assembly Bool
  | 0 => do
      let _ ← state 0
      pure false
  | 1 => part
  | n + 2 => do
      let choosing ← part
      link choosing
      assembleCopies part (n + 1)

/- Build copies of which each may be left out with the rest. -/
def assembleOptional
    (part : Assembly Bool) :
    Nat → Bool → Assembly Bool
  | 0, choosing => pure choosing
  | n + 1, choosing => do
      let _ ← state 0
      let next ← part
      link choosing
      way
      way
      assembleOptional part n next

/-
  Build a repetition without bound. If the part may take
  nothing, a second choice keeps it from being repeated
  without end.
-/
def assembleUnbounded
    (part : Assembly Bool)
    (takesSome : Bool) :
    Nat → Assembly Bool
  | 0 =>
      if takesSome then do
        let _ ← state 0
        let choosing ← part
        way
        link choosing
        pure true
      else do
        let choosing ← part
        let _ ← state 0
        link choosing
        let _ ← state 0
        let _ ← state 0
        again way 4
        pure false
  | 1 => do
      let choosing ← part
      let _ ← state 0
      link choosing
      way
      pure true
  | n + 2 => do
      let before ← assembleCopies part (n + 1)
      let choosing ← part
      let _ ← state 0
      link before
      link choosing
      way
      pure true

/- Build a repetition. -/
def assembleRepeated
    (part : Assembly Bool)
    (takesSome : Bool)
    (least : Nat)
    (most : Option Nat) : Assembly Bool :=
  match most with
  | none => assembleUnbounded part takesSome least
  | some most =>
      if least = 0 ∧ most = 1 then do
        let _ ← state 0
        let choosing ← part
        let _ ← state 0
        again way 2
        link choosing
        pure false
      else if least = most then
        assembleCopies part least
      else do
        let before ← assembleCopies part least
        let _ ← state 0
        let choosing ←
          assembleOptional part (most - least) before
        link choosing
        pure false

------------------------------------------------------------
-- Choices
------------------------------------------------------------

/-
  A branch of a choice: the octets of a word in the order
  in which they are read, or how to build anything else.
-/
inductive Branch where
  | word (octets : List UInt8)
  | part (build : Assembly Bool)

def Branch.octets? : Branch → Option (List UInt8)
  | .word octets => some octets
  | .part _ => none

def Branch.build : Branch → Assembly Bool
  | .word octets => do
      again (discard (state 0)) octets.length
      pure false
  | .part build => build

/-
  Build a choice. Words share a tree. Otherwise the state
  that chooses and the one where the branches meet stand
  behind the first two branches.
-/
def assembleChoice : List Branch → Assembly Bool
  | [] => do
      let _ ← state 0
      pure false
  | [b] => b.build
  | b :: c :: rest =>
      match (b :: c :: rest).mapM Branch.octets? with
      | some octets => do
          words octets
          pure false
      | none => do
          let first ← b.build
          let second ← c.build
          let _ ← state 0
          let _ ← state 0
          way
          link first
          way
          link second
          rest.forM fun b => do
            let choosing ← b.build
            way
            link choosing
          pure false

------------------------------------------------------------
-- Patterns
------------------------------------------------------------

/- The octets of a word in the order in which they are read. -/
def wordOctets (d : Direction) (t : Text) : List UInt8 :=
  match d with
  | .forward => Utf8.encode t
  | .backward => (Utf8.encode t).reverse

/- The branches of a pattern, ready to be built. -/
def toBranches (d : Direction) : Pattern → List Branch
  | .empty =>
      [.part (do
        let _ ← state 0
        pure false)]
  | .word t => [.word (wordOctets d t)]
  | .oneOf set _ =>
      [.part (do
        assembleSet d set
        pure false)]
  | .boundary _ =>
      [.part (do
        let _ ← state 0
        pure false)]
  | .group _ p =>
      let inside := assembleChoice (p.toBranches d)
      match d with
      | .forward =>
          [.part (do
            let _ ← state 0
            let choosing ← inside
            let _ ← state 0
            link choosing
            pure false)]
      | .backward => [.part inside]
  | .next p q =>
      let before := assembleChoice (p.toBranches d)
      let behind := assembleChoice (q.toBranches d)
      match d with
      | .forward =>
          [.part (do
            let choosing ← before
            link choosing
            behind)]
      | .backward =>
          [.part (do
            let choosing ← behind
            link choosing
            before)]
  | .either p q => p.toBranches d ++ q.toBranches d
  | .repeated p least most _ =>
      [.part
        (assembleRepeated (assembleChoice (p.toBranches d))
          p.takesSome least most)]

/-
  Build what looks for the start of a match anywhere, which
  is not needed if there is only one place for it.
-/
def assembleSearch (anchored : Bool) : Assembly Unit :=
  if anchored then do
    let _ ← state 0
  else do
    let _ ← state 0
    let _ ← state 0
    let _ ← octetState 1
    again way 2

/- Build the whole machine of a pattern. -/
def assembleAll (p : Pattern) : Direction → Assembly Unit
  | .forward => do
      assembleSearch p.beginsText
      let _ ← state 0
      let choosing ← assembleChoice (p.toBranches .forward)
      let _ ← state 0
      link choosing
      let _ ← state 0
  | .backward => do
      assembleSearch p.endsText
      let choosing ← assembleChoice (p.toBranches .backward)
      let _ ← state 0
      link choosing

------------------------------------------------------------
-- Usable Patterns
------------------------------------------------------------

/- A choice of so many words that it needs no machine. -/
def isWordList (p : Pattern) : Bool :=
  let branches := p.branches
  3000 ≤ branches.length &&
    branches.all fun b =>
      match b with
      | .word _ => true
      | _ => false

/- A pattern for which there is room. -/
def fits (p : Pattern) : Bool :=
  p.isWordList ||
    ((p.assembleAll .forward).run { }).isSome &&
      ((p.assembleAll .backward).run { }).isSome

end Pattern

end PageHeat
