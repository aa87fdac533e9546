import PageHeat.Pattern.Extent

/-
  Patterns in simple form.

  What is written in several ways becomes one pattern:
  words that follow each other are one word, a choice of
  characters is a set, a choice within a choice is one
  choice, and what the branches of a choice begin with in
  common stands in front of it.

  Key definitions include:
    * `Pattern.ofSet`
    * `Pattern.sequence`
    * `Pattern.choice`
    * `Pattern.times`
-/

------------------------------------------------------------
-- Sets
------------------------------------------------------------

namespace PageHeat

namespace Pattern

/- The characters of a set; a single one is a word. -/
def ofSet (set : RangeSet) (octets : Bool) : Pattern :=
  match set with
  | [] => impossible
  | [(a, b)] =>
      if a = b then .word [Char.ofNat a]
      else .oneOf [(a, b)] octets
  | set => .oneOf set octets

------------------------------------------------------------
-- Sequences
------------------------------------------------------------

/- Put a part before others; words grow together. -/
def addPart (p : Pattern) (rest : List Pattern) : List Pattern :=
  match p, rest with
  | .word t, .word u :: rest => .word (t ++ u) :: rest
  | p, rest => p :: rest

/- The patterns one after the other. -/
def sequence (ps : List Pattern) : Pattern :=
  ofParts ((ps.flatMap parts).foldr addPart [])

------------------------------------------------------------
-- Choices
------------------------------------------------------------

/- The character of a word of one character. -/
def lone? : Pattern → Option (Nat × Nat)
  | .word [c] => some (c.toNat, c.toNat)
  | _ => none

def set? : Pattern → Option RangeSet
  | .oneOf set _ => some set
  | _ => none

/- The one set of a choice of characters or of sets. -/
def setOfBranches? (ps : List Pattern) : Option RangeSet :=
  ps.mapM lone? <|> (ps.mapM set?).map List.flatten

/- The parts of a pattern that has at least two. -/
def sequence? : Pattern → Option (List Pattern)
  | .next p q => some (p :: q.parts)
  | _ => none

/- What two lists begin with in common. -/
def commonStart : List Pattern → List Pattern → List Pattern
  | p :: ps, q :: qs =>
      if p = q then p :: commonStart ps qs else []
  | _, _ => []

/-
  What every branch begins with, if all of them are
  sequences, and the branches without it.
-/
def splitCommon?
    (ps : List Pattern) :
    Option (List Pattern × List Pattern) :=
  match ps.mapM sequence? with
  | some (first :: rest) =>
      match rest.foldl commonStart first with
      | [] => none
      | common =>
          some
            (common,
              (first :: rest).map fun q =>
                ofParts (q.drop common.length))
  | _ => none

/-
  Any one of the patterns. Every round takes a common start
  off the branches, so there are fewer rounds than parts.
-/
def chooseIn : Nat → List Pattern → Pattern
  | 0, ps => ofBranches ps
  | rounds + 1, ps =>
      match ps.flatMap branches with
      | [p] => p
      | ps =>
          match setOfBranches? ps with
          | some set => ofSet (RangeSet.ofRanges set) false
          | none =>
              match splitCommon? ps with
              | some (common, ps) =>
                  sequence (common ++ [chooseIn rounds ps])
              | none => ofBranches ps

def choice (ps : List Pattern) : Pattern :=
  chooseIn (ps.foldl (fun n p => n + p.size) 1) ps

------------------------------------------------------------
-- Repetitions
------------------------------------------------------------

/-
  Repeat a pattern. What matches only the empty text gains
  nothing from a second time.
-/
def times
    (p : Pattern)
    (least : Nat)
    (most : Option Nat)
    (lazy : Bool) : Pattern :=
  let (least, most) :=
    if p.isWeightless then
      (min least 1, some (min (most.getD 1) 1))
    else
      (least, most)
  if least = 0 ∧ most = some 0 then .empty
  else if least = 1 ∧ most = some 1 then p
  else .repeated p least most lazy

end Pattern

end PageHeat
