import PageHeat.Pattern.Basic
import PageHeat.Unicode.Property

/-
  Looking for a pattern in a text.

  A text of `n` characters has `n + 1` positions, and a set
  of positions is a list of marks, one for each. A pattern
  turns the positions where it may start into those where
  it may then end, all at once, so the work grows with the
  size of the text and of the pattern only.

  Key definitions include:
    * `Boundary.Holds`
    * `Pattern.ends`
    * `Pattern.occursIn`
-/

------------------------------------------------------------
-- Boundaries
------------------------------------------------------------

namespace PageHeat

def asciiWordSet : RangeSet :=
  [(0x30, 0x39), (0x41, 0x5A), (0x5F, 0x5F), (0x61, 0x7A)]

/- Whether a neighbour of a position belongs to a word. -/
def isWordCharacter
    (everyScript : Bool) :
    Option Char → Bool
  | none => false
  | some c =>
      if everyScript then
        Unicode.wordSet.hasChar c
      else
        asciiWordSet.hasChar c

/- Whether the sides of a position fit an edge of words. -/
def WordEdge.fits (edge : WordEdge) (before after : Bool) : Bool :=
  match edge with
  | .border => before != after
  | .inside => before == after
  | .start => !before && after
  | .finish => before && !after
  | .startHalf => !before
  | .finishHalf => !after

namespace Boundary

/- A boundary at a position, given by its neighbours. -/
def Holds
    (b : Boundary)
    (before after : Option Char) : Prop :=
  match b with
  | .textStart => before = none
  | .textEnd => after = none
  | .lineStart false => before = none ∨ before = some '\n'
  | .lineStart true =>
      before = none ∨ before = some '\n' ∨
        (before = some '\r' ∧ after ≠ some '\n')
  | .lineEnd false => after = none ∨ after = some '\n'
  | .lineEnd true =>
      after = none ∨ after = some '\r' ∨
        (after = some '\n' ∧ before ≠ some '\r')
  | .word edge everyScript =>
      edge.fits
        (isWordCharacter everyScript before)
        (isWordCharacter everyScript after) = true

instance
    (b : Boundary)
    (before after : Option Char) :
    Decidable (b.Holds before after) := by
  unfold Holds
  split <;> infer_instance

end Boundary

------------------------------------------------------------
-- Marks
------------------------------------------------------------

/- A mark for each position of a text. -/
abbrev Marks := List Bool

namespace Marks

/- Every position of a text. -/
def all (t : Text) : Marks :=
  List.replicate (t.length + 1) true

/- The positions of either set. -/
def union (m n : Marks) : Marks :=
  List.zipWith (· || ·) m n

/- The positions of the first set only. -/
def without (m n : Marks) : Marks :=
  List.zipWith (fun a b => a && !b) m n

/- Whether some position is marked. -/
def hasAny (m : Marks) : Bool :=
  m.any id

/- The positions behind a character of a set. -/
def advance (set : RangeSet) (t : Text) (m : Marks) : Marks :=
  false ::
    List.zipWith (fun marked c => marked && set.hasChar c) m t

/- The neighbours of every position. -/
def neighbours (t : Text) : List (Option Char × Option Char) :=
  List.zip (none :: t.map some) (t.map some ++ [none])

/- The positions where a boundary holds. -/
def keep (b : Boundary) (t : Text) (m : Marks) : Marks :=
  List.zipWith
    (fun marked sides =>
      marked && decide (b.Holds sides.1 sides.2))
    m (neighbours t)

/- Take a step a number of times, until nothing changes. -/
def again (step : Marks → Marks) : Nat → Marks → Marks
  | 0, m => m
  | n + 1, m =>
      let stepped := step m
      if stepped = m then m else again step n stepped

/-
  Take a step from the newest positions at most a number of
  times, and collect every position.
-/
def spread
    (step : Marks → Marks) :
    Nat → Marks → Marks → Marks
  | 0, _, reached => reached
  | n + 1, newest, reached =>
      let fresh := (step newest).without reached
      if fresh.hasAny then
        spread step n fresh (reached.union fresh)
      else
        reached

end Marks

------------------------------------------------------------
-- Occurrences
------------------------------------------------------------

namespace Pattern

/- The positions where a pattern may end. -/
def ends (t : Text) : Pattern → Marks → Marks
  | .empty, m => m
  | .word w, m =>
      w.foldl
        (fun m c => m.advance (RangeSet.single c.toNat) t) m
  | .oneOf set _, m => m.advance set t
  | .boundary b, m => m.keep b t
  | .group _ p, m => p.ends t m
  | .next p q, m => q.ends t (p.ends t m)
  | .either p q, m => (p.ends t m).union (q.ends t m)
  | .repeated p least most _, m =>
      let started := Marks.again (p.ends t) least m
      let further :=
        match most with
        | none => t.length + 1
        | some most => most - least
      Marks.spread (p.ends t) further started started

/- Whether a pattern matches somewhere in a text. -/
def occursIn (p : Pattern) (t : Text) : Bool :=
  (p.ends t (Marks.all t)).hasAny

end Pattern

end PageHeat
