import PageHeat.Report.Basic
import PageHeat.Tally.Sink
import PageHeat.Text.Decimal

/-
  The summary as a table.

  The rows of the benchmarks stand between two rules, the
  totals below. Sections on skipped checkpoints, malformed
  lines and failed benchmarks follow, each only if it has
  an item.

  Key definitions include:
    * `Summary.tableLines`
    * `Summary.table`
    * `Summary.writeTable`
-/

------------------------------------------------------------
-- Rows
------------------------------------------------------------

namespace PageHeat

namespace Summary

/- The three numbers and the label of a row. -/
def row
    (lines skipped malformed : Nat)
    (label : Text) : Text :=
  Text.padLeft 9 (Decimal.text lines) ++ " " ++
    Text.padLeft 8 (Decimal.text skipped) ++ " " ++
    Text.padLeft 10 (Decimal.text malformed) ++ " " ++ label

def reportRow (r : Report) : Text :=
  row r.linesWritten r.skipped.length r.malformedLines r.name

def heading : Text :=
  "    lines  skipped  malformed benchmark"

/- The rule above and below the benchmarks. -/
def rule : Text :=
  "--------- -------- ---------- ----------------"

def totalRow (s : Summary) : Text :=
  row s.totalLines s.totalSkipped s.totalMalformed "total"

------------------------------------------------------------
-- Sections
------------------------------------------------------------

/- A titled list, left out when it is empty. -/
def listing (title : Text) (items : List Text) : List Text :=
  if items.isEmpty then [] else [[], title] ++ items

def skippedLine (path : Path) : Text :=
  "  " ++ path.shown

/- The line of a log with malformed lines. -/
def malformedLine (file : MalformedFile) : Text :=
  "  " ++ Text.padLeft 6 (Decimal.text file.lines) ++ " " ++
    file.path.shown

/- The line of a benchmark that failed. -/
def failureLine (f : Failure) : Text :=
  "  " ++ f.name ++ ": " ++ f.reason

------------------------------------------------------------
-- Tables
------------------------------------------------------------

/- The lines of the table, without their ends. -/
def tableLines (s : Summary) : List Text :=
  if s.IsEmpty then
    ["No benchmarks analyzed."]
  else
    [heading, rule] ++ s.reports.map reportRow ++
      [rule, s.totalRow] ++
      listing "Skipped checkpoint files:"
        (s.allSkipped.map skippedLine) ++
      listing "Malformed lines:"
        (s.allMalformed.map malformedLine) ++
      listing "Failed benchmarks:"
        (s.failures.map failureLine)

/- The table as one text. -/
def table (s : Summary) : Text :=
  s.tableLines.flatMap (· ++ ['\n'])

/- Write the table line by line. -/
def writeTable
    (s : Summary)
    (sink : Sink) : Sink × Option DeviceFault :=
  sink.writeEach (s.tableLines.map (· ++ ['\n']))

end Summary

end PageHeat
