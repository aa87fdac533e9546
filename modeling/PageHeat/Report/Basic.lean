import PageHeat.Disk.Path

/-
  Reports of benchmarks and the summary of a run.

  Key definitions include:
    * `MalformedFile`
    * `Report`
    * `Failure`
    * `Summary`
    * `Summary.addReport`
    * `Summary.addFailure`
-/

------------------------------------------------------------
-- Reports
------------------------------------------------------------

namespace PageHeat

/- The sum of some numbers. -/
def total : List Nat → Nat
  | [] => 0
  | n :: rest => n + total rest

/- A log file and how many of its lines were skipped. -/
structure MalformedFile where
  path : Path
  lines : Nat
  deriving Repr, DecidableEq

/- What came out of one benchmark. -/
structure Report where
  name : Text
  output : Path
  linesWritten : Nat := 0
  skipped : List Path := []
  malformed : List MalformedFile := []
  deriving Repr, DecidableEq

/- A report whose paths are all texts. -/
def Report.IsText (r : Report) : Prop :=
  r.output.IsText ∧
    (∀ path ∈ r.skipped, Path.IsText path) ∧
    ∀ file ∈ r.malformed, file.path.IsText

instance (r : Report) : Decidable r.IsText :=
  inferInstanceAs (Decidable (_ ∧ _ ∧ _))

/- The lines that were skipped in all logs of a benchmark. -/
def Report.malformedLines (r : Report) : Nat :=
  total (r.malformed.map MalformedFile.lines)

/- A benchmark that could not be examined, and why. -/
structure Failure where
  name : Text
  reason : Text
  deriving Repr, DecidableEq

------------------------------------------------------------
-- Summaries
------------------------------------------------------------

/- What came out of a run. -/
structure Summary where
  reports : List Report := []
  failures : List Failure := []
  deriving Repr, DecidableEq

namespace Summary

/- Add the report of one more benchmark. -/
def addReport (s : Summary) (r : Report) : Summary :=
  { s with reports := s.reports ++ [r] }

/- Add one more benchmark that failed. -/
def addFailure (s : Summary) (f : Failure) : Summary :=
  { s with failures := s.failures ++ [f] }

/- The lines written for all benchmarks. -/
def totalLines (s : Summary) : Nat :=
  total (s.reports.map Report.linesWritten)

/- The checkpoints skipped for all benchmarks. -/
def totalSkipped (s : Summary) : Nat :=
  total (s.reports.map fun r => r.skipped.length)

/- The lines skipped in all logs. -/
def totalMalformed (s : Summary) : Nat :=
  total (s.reports.map Report.malformedLines)

/- The skipped checkpoints of all benchmarks. -/
def allSkipped (s : Summary) : List Path :=
  s.reports.flatMap Report.skipped

/- The logs of all benchmarks with skipped lines. -/
def allMalformed (s : Summary) : List MalformedFile :=
  s.reports.flatMap Report.malformed

/- A summary whose paths are all texts. -/
def IsText (s : Summary) : Prop :=
  ∀ r ∈ s.reports, r.IsText

instance (s : Summary) : Decidable s.IsText :=
  inferInstanceAs (Decidable (∀ r ∈ s.reports, r.IsText))

/- A summary of nothing. -/
def IsEmpty (s : Summary) : Prop :=
  s.reports = [] ∧ s.failures = []

instance (s : Summary) : Decidable s.IsEmpty :=
  inferInstanceAs (Decidable (_ ∧ _))

end Summary

end PageHeat
