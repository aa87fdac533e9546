import PageHeat.Analysis.Discovery
import PageHeat.Report.Basic
import PageHeat.Settings.Basic
import PageHeat.Tally.Format

/-
  Examining one benchmark.

  The baseline is loaded first, then the result file is
  created, and then every checkpoint is compared. A
  checkpoint that cannot be read is skipped or counted as
  zero; it never spoils the others.

  Key definitions include:
    * `Step`
    * `loadBaseline`
    * `compareAt`
    * `Outcome`
    * `talliesOf`
    * `reportOf`
    * `examine`
-/

------------------------------------------------------------
-- Steps
------------------------------------------------------------

namespace PageHeat

/-
  What came of a step of a run: its result, the disk after
  it, and the events that it tells.
-/
structure Step (α : Type) where
  result : Except Fault α
  disk : Disk
  events : List Event := []

------------------------------------------------------------
-- Reading Logs
------------------------------------------------------------

/- The events of the lines that a reader rejects. -/
def rejectedLines
    {α : Type}
    (reader : Except LineFault Text → Except LineFault α)
    (event : Nat → LineFault → Event)
    (s : Stream) : List Event :=
  (numbered s.lines).filterMap fun (n, line) =>
    match reader line with
    | .ok _ => none
    | .error fault => some (event n fault)

/- The events of reading a log, if there is one. -/
def readingEvents
    {α : Type}
    (reader : Except LineFault Text → Except LineFault α)
    (event : Nat → LineFault → Event)
    (d : Disk)
    (path : Path) : List Event :=
  match d.read path with
  | .ok s => rejectedLines reader event s
  | .error _ => []

/- Load the baseline of a path. -/
def loadBaseline
    (d : Disk)
    (path : Path) : Except Fault Baseline :=
  match d.read path with
  | .error .noSuchFile => .error (.missingBaseline path)
  | .error fault => .error (.unreadable path fault)
  | .ok s =>
      match Baseline.ofStream s with
      | .error fault => .error (.unreadable path fault)
      | .ok b => .ok b

/- Compare the checkpoint of a path. -/
def compareAt
    (b : Baseline)
    (d : Disk)
    (path : Path) : Except Fault Comparison :=
  match d.read path with
  | .error fault => .error (.unreadable path fault)
  | .ok s =>
      match Comparison.ofStream b s with
      | .error fault => .error (.unreadable path fault)
      | .ok c => .ok c

------------------------------------------------------------
-- Outcomes
------------------------------------------------------------

/- A checkpoint and what came of its comparison. -/
structure Outcome where
  path : Path
  result : Except Fault Comparison

/- Compare every checkpoint of a benchmark in order. -/
def outcomes
    (s : Settings)
    (b : Baseline)
    (d : Disk)
    (dir : Path) : List Outcome :=
  s.indices.map fun i =>
    let path := s.checkpointPath dir i
    ⟨path, compareAt b d path⟩

/- The tally of an outcome, under a policy for failures. -/
def tallyOf?
    (policy : MissingPolicy)
    (o : Outcome) : Option Tally :=
  match o.result, policy with
  | .ok c, _ => some c.tally
  | .error _, .zero => some { }
  | .error _, .skip => none

/- The tallies to write, in the order of the outcomes. -/
def talliesOf
    (policy : MissingPolicy)
    (os : List Outcome) : List Tally :=
  os.filterMap (tallyOf? policy)

/- The path of a checkpoint that could not be read. -/
def skippedPath? (o : Outcome) : Option Path :=
  match o.result with
  | .ok _ => none
  | .error _ => some o.path

/- A log with lines that were skipped. -/
def malformedFile? (path : Path) (lines : Nat) :
    Option MalformedFile :=
  if lines = 0 then none else some ⟨path, lines⟩

/- A compared checkpoint with lines that were skipped. -/
def malformedCheckpoint? (o : Outcome) : Option MalformedFile :=
  match o.result with
  | .ok c => malformedFile? o.path c.malformed
  | .error _ => none

def reportOf
    (s : Settings)
    (benchmark : Benchmark)
    (b : Baseline)
    (os : List Outcome)
    (linesWritten : Nat) : Report :=
  { name := benchmark.name
    output := s.outputPath benchmark.name
    linesWritten := linesWritten
    skipped := os.filterMap skippedPath?
    malformed :=
      (malformedFile? (s.baselinePath benchmark.dir)
        b.malformed).toList ++
      os.filterMap malformedCheckpoint? }

------------------------------------------------------------
-- Events
------------------------------------------------------------

def outcomeEvents (o : Outcome) : List Event :=
  match o.result with
  | .error fault => [.checkpointSkipped fault]
  | .ok c =>
      .checkpointCompared o.path c.tally ::
        ((malformedFile? o.path c.malformed).map fun f =>
          Event.checkpointMalformed f.path f.lines).toList

def baselineEvents
    (d : Disk)
    (path : Path) : List Event :=
  readingEvents Baseline.readEntry Event.baselineLineSkipped d
    path

/- The events of comparing the checkpoints. -/
def comparisonEvents
    (s : Settings)
    (benchmark : Benchmark)
    (b : Baseline)
    (d : Disk)
    (os : List Outcome) : List Event :=
  (os.flatMap fun o =>
    readingEvents Comparison.readRecord
      Event.checkpointLineSkipped d o.path) ++
  ((malformedFile? (s.baselinePath benchmark.dir)
    b.malformed).map fun f =>
      Event.baselineMalformed f.path f.lines).toList ++
  os.flatMap outcomeEvents

------------------------------------------------------------
-- Examination
------------------------------------------------------------

/- Compare the checkpoints and write the result file. -/
def writeOutcomes
    (s : Settings)
    (benchmark : Benchmark)
    (b : Baseline)
    (target : Location)
    (d : Disk) : Step Report :=
  let os := outcomes s b d benchmark.dir
  let (sink, written) :=
    s.format.writeTallies (talliesOf s.missing os)
      (d.sinkAt target)
  { result :=
      match written with
      | .ok n => .ok (reportOf s benchmark b os n)
      | .error fault =>
          .error
            (.brokenDevice (s.outputPath benchmark.name) fault)
    disk := d.store target sink
    events := comparisonEvents s benchmark b d os }

/- Examine one benchmark. -/
def examine
    (s : Settings)
    (benchmark : Benchmark)
    (d : Disk) : Step Report :=
  let path := s.baselinePath benchmark.dir
  let output := s.outputPath benchmark.name
  let reading := baselineEvents d path
  match loadBaseline d path with
  | .error fault =>
      { result := .error fault, disk := d, events := reading }
  | .ok b =>
      let loaded :=
        reading ++ [.baselineLoaded benchmark.name b.size]
      match d.create output with
      | .error fault =>
          { result := .error (.uncreatable output fault)
            disk := d
            events := loaded }
      | .ok (target, d) =>
          let step := writeOutcomes s benchmark b target d
          { step with events := loaded ++ step.events }

end PageHeat
