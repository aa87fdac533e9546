import PageHeat.Tally.Basic
import PageHeat.Tally.Sink

/-
  Result lines.

  The three counters of a tally stand on one line, between
  spaces or between commas.

  Key definitions include:
    * `LineFormat`
    * `LineFormat.line`
    * `LineFormat.writeTallies`
-/

------------------------------------------------------------
-- Formats
------------------------------------------------------------

namespace PageHeat

/- What stands between the counters of a result line. -/
inductive LineFormat where
  | text
  | csv
  deriving Repr, DecidableEq

namespace LineFormat

/- The names of the formats, in the order they are offered. -/
def names : List (Text × LineFormat) :=
  [("text", .text), ("csv", .csv)]

def name : LineFormat → Text
  | .text => "text"
  | .csv => "csv"

def separator : LineFormat → Char
  | .text => ' '
  | .csv => ','

/- The line of a tally, without its end. -/
def line (format : LineFormat) (t : Tally) : Text :=
  Decimal.text t.coldPages.toNat ++ [format.separator] ++
    Decimal.text t.coldAccesses.toNat ++
    [format.separator] ++
    Decimal.text t.totalAccesses.toNat

def endedLine (format : LineFormat) (t : Tally) : Text :=
  format.line t ++ ['\n']

/- The text of a list of tallies, a line for each. -/
def document
    (format : LineFormat)
    (tallies : List Tally) : Text :=
  tallies.flatMap format.endedLine

/-
  Write a line for each tally; the result is the number of
  lines.
-/
def writeTallies
    (format : LineFormat)
    (tallies : List Tally)
    (sink : Sink) : Sink × Except DeviceFault Nat :=
  match sink.writeEach (tallies.map format.endedLine) with
  | (sink, none) => (sink, .ok tallies.length)
  | (sink, some fault) => (sink, .error fault)

end LineFormat

end PageHeat
