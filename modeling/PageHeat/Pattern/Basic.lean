import PageHeat.Unicode.RangeSet

/-
  Patterns of names.

  A pattern is built from words, from character sets, and
  from boundaries, which look at a position without taking
  a character, by sequence, choice, and repetition.

  Key definitions include:
    * `Boundary`
    * `Pattern`
    * `Pattern.parts`
    * `Pattern.ofParts`
    * `Pattern.branches`
    * `Pattern.ofBranches`
-/

------------------------------------------------------------
-- Boundaries
------------------------------------------------------------

namespace PageHeat

/-
  What the characters around a position must be, as far as
  words are concerned: both differ, both agree, a word
  starts or ends, or only one side is looked at.
-/
inductive WordEdge where
  | border
  | inside
  | start
  | finish
  | startHalf
  | finishHalf
  deriving Repr, DecidableEq

/-
  A boundary. Lines end with a line feed, or also with a
  carriage return, and words are made of the letters of
  every script, or of those of ASCII only.
-/
inductive Boundary where
  | textStart
  | textEnd
  | lineStart (withReturn : Bool)
  | lineEnd (withReturn : Bool)
  | word (edge : WordEdge) (everyScript : Bool)
  deriving Repr, DecidableEq

------------------------------------------------------------
-- Patterns
------------------------------------------------------------

/-
  A pattern. A set remembers whether it was given by octets
  of ASCII instead of characters, a group its number, and a
  repetition whether it prefers to be short: what matches
  is the same, but such patterns are told apart.
-/
inductive Pattern where
  | empty
  | word (t : Text)
  | oneOf (set : RangeSet) (octets : Bool)
  | boundary (b : Boundary)
  | group (number : Nat) (p : Pattern)
  | next (first rest : Pattern)
  | either (first rest : Pattern)
  | repeated
      (p : Pattern)
      (least : Nat)
      (most : Option Nat)
      (lazy : Bool)
  deriving Repr, DecidableEq

namespace Pattern

/- A pattern that matches nothing. -/
def impossible : Pattern := .oneOf [] true

/- The number of parts that a pattern is built from. -/
def size : Pattern → Nat
  | .empty => 1
  | .word _ => 1
  | .oneOf _ _ => 1
  | .boundary _ => 1
  | .group _ p => p.size + 1
  | .next p q => p.size + q.size + 1
  | .either p q => p.size + q.size + 1
  | .repeated p _ _ _ => p.size + 1

------------------------------------------------------------
-- Sequences And Choices As Lists
------------------------------------------------------------

/- What a pattern consists of, one after the other. -/
def parts : Pattern → List Pattern
  | .next p q => p :: q.parts
  | .empty => []
  | p => [p]

/- The patterns one after the other. -/
def ofParts : List Pattern → Pattern
  | [] => .empty
  | [p] => p
  | p :: q :: rest => .next p (ofParts (q :: rest))

/- What a pattern may choose from. -/
def branches : Pattern → List Pattern
  | .either p q => p :: q.branches
  | p => [p]

def ofBranches : List Pattern → Pattern
  | [] => impossible
  | [p] => p
  | p :: q :: rest => .either p (ofBranches (q :: rest))

end Pattern

end PageHeat
