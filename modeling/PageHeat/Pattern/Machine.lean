import PageHeat.Pattern.OctetRange
import Std.Data.HashMap

/-
  The machine that looks for a pattern, as far as its room
  is concerned.

  A machine is built state by state. A state takes a fixed
  room, and more for every way that leads on from it if it
  may have several. What is built is given up as soon as it
  takes more room than there is.

  Key definitions include:
    * `Machine`
    * `Assembly`
    * `Assembly.state`
    * `Assembly.link`
    * `Assembly.characters`
    * `Assembly.charactersBackward`
    * `Assembly.words`
-/

------------------------------------------------------------
-- Machines
------------------------------------------------------------

namespace PageHeat

/- The number of states, and the room of their ways. -/
structure Machine where
  states : Nat := 0
  ways : Nat := 0
  deriving Repr, DecidableEq

namespace Machine

/- The room that there is, in octets. -/
def roomLimit : Nat := 10485760

def room (m : Machine) : Nat :=
  32 * m.states + m.ways

end Machine

/- A step of building, which may find too little room. -/
abbrev Assembly := StateT Machine Option

namespace Assembly

/- The machine, if there is room for it. -/
def checked (m : Machine) : Option Machine :=
  if m.room ≤ Machine.roomLimit then some m else none

/- Add a state whose ways take some room; give its number. -/
def state (ways : Nat) : Assembly Nat := fun m => do
  let m' ← checked
    { states := m.states + 1, ways := m.ways + ways }
  some (m.states, m')

/- Add a state that leads on by each of some octet ranges. -/
def octetState (ranges : Nat) : Assembly Nat :=
  state (8 * ranges)

/- Add a way to a state that may have several. -/
def way : Assembly Unit := fun m => do
  let m' ← checked { m with ways := m.ways + 4 }
  some ((), m')

/-
  Lead on from the end of what was built. The end may be a
  state that chooses its way, and then gets one more.
-/
def link (choosing : Bool) : Assembly Unit :=
  if choosing then way else pure ()

/- Repeat a step of building. -/
def again (step : Assembly Unit) : Nat → Assembly Unit
  | 0 => pure ()
  | n + 1 => do
      step
      again step n

------------------------------------------------------------
-- Keys
------------------------------------------------------------

/- A way by an octet range to a state. -/
structure Edge where
  range : OctetRange
  target : Nat
  deriving Repr, DecidableEq

/- Go on with a key by one more number. -/
def mix (key number : UInt64) : UInt64 :=
  (key ^^^ number) * 1099511628211

def noKey : UInt64 := 14695981039346656037

/- The key of the ways of a state. -/
def keyOfEdges (edges : List Edge) : UInt64 :=
  edges.foldl
    (fun key e =>
      mix
        (mix (mix key e.range.first.toUInt64)
          e.range.last.toUInt64)
        (UInt64.ofNat e.target))
    noKey

/-
  What was built, by the place that its key points to. A
  newer state takes the place of an older one, so that not
  every state is found again.
-/
abbrev Memory (α : Type) := Std.HashMap UInt64 (α × Nat)

/- The state that is remembered for what it was built for. -/
def remembered?
    {α : Type}
    [DecidableEq α]
    (memory : Memory α)
    (place : UInt64)
    (item : α) : Option Nat :=
  match memory[place]? with
  | some (known, number) =>
      if known = item then some number else none
  | none => none

------------------------------------------------------------
-- Characters Forward
------------------------------------------------------------

/- The places for states of characters read forward. -/
def forwardPlaces : UInt64 := 10000

/- The state with some ways, built if not remembered. -/
def sharedState
    (memory : Memory (List Edge))
    (edges : List Edge) :
    Assembly (Nat × Memory (List Edge)) := do
  let place := keyOfEdges edges % forwardPlaces
  match remembered? memory place edges with
  | some number => pure (number, memory)
  | none => do
      let number ← octetState edges.length
      pure (number, memory.insert place (edges, number))

/- Sequences that begin alike, in a row, as one branch. -/
def gather :
    List (List OctetRange) →
      List (OctetRange × List (List OctetRange))
  | [] => []
  | [] :: rest => gather rest
  | (range :: more) :: rest =>
      match gather rest with
      | (next, group) :: others =>
          if range = next then
            (range, more :: group) :: others
          else
            (range, [more]) :: (next, group) :: others
      | [] => [(range, [more])]

/-
  The state where some sequences begin. What follows a
  range is built first, and equal states only once as far
  as they are remembered. Sequences have four ranges at
  most.
-/
def tree :
    Nat → Nat → Memory (List Edge) →
      List (List OctetRange) →
      Assembly (Nat × Memory (List Edge))
  | 0, last, memory, _ => pure (last, memory)
  | depth + 1, last, memory, sequences => do
      match gather sequences with
      | [] => pure (last, memory)
      | branches => do
          let (edges, memory) ← branches.foldlM
            (fun (edges, memory) (range, rest) => do
              let (target, memory) ←
                tree depth last memory rest
              pure
                ({ range := range, target := target } ::
                    edges,
                  memory))
            ([], memory)
          sharedState memory edges.reverse

/- Build what takes one of some characters. -/
def characters
    (sequences : List (List OctetRange)) : Assembly Unit := do
  let last ← state 0
  let _ ← tree 5 last ∅ sequences
  pure ()

------------------------------------------------------------
-- Characters Backward
------------------------------------------------------------

/- The places for states of characters read backward. -/
def backwardPlaces : UInt64 := 1000

/- The key of a way back. -/
def keyOfEdge (e : Edge) : UInt64 :=
  mix
    (mix (mix noKey (UInt64.ofNat e.target))
      e.range.first.toUInt64)
    e.range.last.toUInt64

/- Build the way back of one sequence, its first range last. -/
def chain :
    Nat → Memory Edge → List OctetRange →
      Assembly (Memory Edge)
  | _, memory, [] => pure memory
  | target, memory, range :: rest => do
      let edge : Edge := { range := range, target := target }
      let place := keyOfEdge edge % backwardPlaces
      match remembered? memory place edge with
      | some number => chain number memory rest
      | none => do
          let number ← state 0
          chain number (memory.insert place (edge, number))
            rest

/- Build what takes one of some characters, from its end. -/
def charactersBackward
    (sequences : List (List OctetRange)) : Assembly Unit := do
  let _ ← state 0
  let last ← state 0
  let _ ← sequences.foldlM
    (fun memory sequence => do
      let memory ← chain last memory sequence
      way
      pure memory)
    (∅ : Memory Edge)
  pure ()

------------------------------------------------------------
-- Words
------------------------------------------------------------

/-
  The words of a choice cut where one of them ends: runs of
  words that go on, and how many words end here. The first
  ends count as one.
-/
def runs (words : List (List UInt8)) :
    List (List (List UInt8)) × Nat :=
  let front := words.takeWhile List.isEmpty
  let rest := words.drop front.length
  let pieces := rest.splitBy fun a b => a.isEmpty == b.isEmpty
  let going := pieces.filter fun piece =>
    piece.any (!·.isEmpty)
  let ends := (rest.filter List.isEmpty).length
  (going, min front.length 1 + ends)

/- What follows each first octet of words that go on. -/
def byFirst (words : List (List UInt8)) :
    List (List (List UInt8)) :=
  let firsts := (words.filterMap List.head?).eraseDups
  firsts.map fun first =>
    words.filterMap fun word =>
      match word with
      | [] => none
      | octet :: rest =>
          if octet = first then some rest else none

/-
  Build the tree of some words, no longer than the depth.
  Where no word goes on there is nothing to build. Each run
  is a state of its own, which needs no room for its ways
  if it has only one, and a state chooses between the runs
  and the ends.
-/
def wordTree : Nat → List (List UInt8) → Assembly Unit
  | 0, _ => pure ()
  | depth + 1, words => do
      if words.any (!·.isEmpty) then
        let (going, ends) := runs words
        going.forM fun run => do
          let children := byFirst run
          children.forM (wordTree depth)
          let _ ← octetState
            (if children.length = 1 then 0
             else children.length)
        let _ ← state (4 * (going.length + ends))
      else
        pure ()

/- Build what takes one of some words. -/
def words (words : List (List UInt8)) : Assembly Unit := do
  let _ ← state 0
  wordTree
    (words.foldl (fun n word => max n word.length) 0 + 1)
    words

end Assembly

end PageHeat
