import PageHeat.Pattern.Basic

/-
  How long the matches of a pattern are, and where they can
  stand.

  Lengths are counted in octets. A pattern without matches
  has no shortest one, and neither has a pattern of which
  some part is without matches; a pattern whose matches
  have no bound has no longest one.

  Key definitions include:
    * `Pattern.shortest`
    * `Pattern.longest`
    * `Pattern.isWeightless`
    * `Pattern.beginsText`
    * `Pattern.endsText`
    * `Pattern.looksAtWords`
-/

------------------------------------------------------------
-- Lengths
------------------------------------------------------------

namespace PageHeat

/- The octets of a character, given by its code point. -/
def octetCount (n : Nat) : Nat :=
  if n < 0x80 then 1
  else if n < 0x800 then 2
  else if n < 0x10000 then 3
  else 4

namespace Pattern

/- The octets of a word. -/
def wordLength (t : Text) : Nat :=
  t.foldl (fun n c => n + octetCount c.toNat) 0

/- The length of the shortest match. -/
def shortest : Pattern → Option Nat
  | .empty => some 0
  | .word t => some (wordLength t)
  | .oneOf set _ => set.head?.map fun r => octetCount r.1
  | .boundary _ => some 0
  | .group _ p => p.shortest
  | .next p q => do
      let m ← p.shortest
      let n ← q.shortest
      some (m + n)
  | .either p q => do
      let m ← p.shortest
      let n ← q.shortest
      some (min m n)
  | .repeated p least _ _ => p.shortest.map (· * least)

/- The length of the longest match. -/
def longest : Pattern → Option Nat
  | .empty => some 0
  | .word t => some (wordLength t)
  | .oneOf set _ => set.getLast?.map fun r => octetCount r.2
  | .boundary _ => some 0
  | .group _ p => p.longest
  | .next p q => do
      let m ← p.longest
      let n ← q.longest
      some (m + n)
  | .either p q => do
      let m ← p.longest
      let n ← q.longest
      some (max m n)
  | .repeated p _ most _ => do
      let most ← most
      let m ← p.longest
      some (m * most)

/- A pattern that can match nothing but the empty text. -/
def isWeightless (p : Pattern) : Bool :=
  p.longest == some 0

/- A pattern that always takes a character. -/
def takesSome (p : Pattern) : Bool :=
  p.shortest.any (0 < ·)

------------------------------------------------------------
-- Places
------------------------------------------------------------

/- A pattern that can match at the start of a text only. -/
def beginsText : Pattern → Bool
  | .boundary b => b == .textStart
  | .group _ p => p.beginsText
  | .next p q =>
      p.beginsText || p.isWeightless && q.beginsText
  | .either p q => p.beginsText && q.beginsText
  | .repeated p least _ _ => 0 < least && p.beginsText
  | _ => false

/- A pattern that can match at the end of a text only. -/
def endsText : Pattern → Bool
  | .boundary b => b == .textEnd
  | .group _ p => p.endsText
  | .next p q =>
      q.endsText || q.isWeightless && p.endsText
  | .either p q => p.endsText && q.endsText
  | .repeated p least _ _ => 0 < least && p.endsText
  | _ => false

------------------------------------------------------------
-- Words
------------------------------------------------------------

/- A pattern that looks at edges of words of every script. -/
def looksAtWords : Pattern → Bool
  | .boundary (.word _ everyScript) => everyScript
  | .group _ p => p.looksAtWords
  | .next p q => p.looksAtWords || q.looksAtWords
  | .either p q => p.looksAtWords || q.looksAtWords
  | .repeated p _ _ _ => p.looksAtWords
  | _ => false

end Pattern

end PageHeat
