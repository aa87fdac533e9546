import PageHeat.Log.Baseline

/-
  Tallies of checkpoint logs.

  A page is cold when its tag was never seen during
  profiling. Every record adds its accesses to the total; a
  cold record also adds them to the cold accesses and is
  itself counted. Counters stay at their largest value
  instead of running over.

  Key definitions include:
    * `Count.add`
    * `Tally`
    * `Tally.record`
    * `Comparison`
    * `Comparison.ofStream`
    * `Comparison.ofSource`
-/

------------------------------------------------------------
-- Saturating Addition
------------------------------------------------------------

namespace PageHeat

/- Add two counters, or stay at the largest one. -/
def Count.add (a b : Count) : Count :=
  UInt64.ofNat (min Count.limit (a.toNat + b.toNat))

------------------------------------------------------------
-- Tallies
------------------------------------------------------------

/- What is counted of one checkpoint. -/
structure Tally where
  coldPages : Count := 0
  coldAccesses : Count := 0
  totalAccesses : Count := 0
  deriving Repr, DecidableEq

namespace Tally

/- Count one record. -/
def record
    (t : Tally)
    (cold : Bool)
    (count : Count) : Tally :=
  if cold then
    { coldPages := Count.add t.coldPages 1
      coldAccesses := Count.add t.coldAccesses count
      totalAccesses := Count.add t.totalAccesses count }
  else
    { t with
      totalAccesses := Count.add t.totalAccesses count }

end Tally

------------------------------------------------------------
-- Comparisons
------------------------------------------------------------

/- A tally and the number of lines that were skipped. -/
structure Comparison where
  tally : Tally := { }
  malformed : Nat := 0
  deriving Repr, DecidableEq

namespace Comparison

/- Read a delivered line as a checkpoint line. -/
def readRecord
    (line : Except LineFault Text) :
    Except LineFault (Option AccessRecord) :=
  line.bind readCheckpointLine

/- Take the next line into account. -/
def absorb
    (baseline : Baseline)
    (c : Comparison)
    (line : Except LineFault Text) : Comparison :=
  match readRecord line with
  | .ok (some r) =>
      { c with
        tally :=
          c.tally.record (!decide (baseline.Knows r.tag))
            r.count }
  | .ok none => c
  | .error _ => { c with malformed := c.malformed + 1 }

/- Compare a stream that ends normally with a baseline. -/
def ofStream
    (baseline : Baseline)
    (s : Stream) : Except DeviceFault Comparison :=
  match s.failure with
  | some fault => .error fault
  | none => .ok (s.lines.foldl (absorb baseline) { })

/- Compare a source, read line by line, with a baseline. -/
def ofSource
    (baseline : Baseline)
    (s : Source) : Except DeviceFault Comparison :=
  s.foldLines (absorb baseline) { }

end Comparison

end PageHeat
