import PageHeat.Analysis.Examination

/-
  A run over all benchmarks.

  The settings and the filter are looked at before anything
  is touched. Then the folder for the results is created,
  the benchmarks are found, the workers that compare the
  checkpoints are asked for, and the benchmarks are examined
  in order. A benchmark that fails is noted, and a fatal
  fault ends the run.

  Key definitions include:
    * `Workers`
    * `selectionOf`
    * `examineAll`
    * `runSelected`
    * `run`
-/

------------------------------------------------------------
-- Examining All
------------------------------------------------------------

namespace PageHeat

variable {α : Type}

/- The selection that the settings ask for. -/
def selectionOf
    (engine : PatternEngine α)
    (s : Settings) : Except FilterFault (Selection α) :=
  match s.filter with
  | none => .ok Selection.all
  | some expression => Selection.read engine expression

/- The event of a benchmark that was examined. -/
def reportEvent (r : Report) : Event :=
  .resultsWritten r.output r.name r.linesWritten
    r.skipped.length

/- Examine benchmarks in order, up to a fatal fault. -/
def examineAll
    (s : Settings) :
    List Benchmark → Summary → Disk → Step Summary
  | [], summary, d => { result := .ok summary, disk := d }
  | benchmark :: rest, summary, d =>
      let step := examine s benchmark d
      match step.result with
      | .ok report =>
          let next :=
            examineAll s rest (summary.addReport report)
              step.disk
          { next with
            events :=
              step.events ++
                reportEvent report :: next.events }
      | .error fault =>
          if fault.IsFatal then
            { result := .error fault
              disk := step.disk
              events := step.events }
          else
            let failure : Failure :=
              ⟨benchmark.name, fault.message⟩
            let next :=
              examineAll s rest (summary.addFailure failure)
                step.disk
            { next with
              events :=
                step.events ++
                  .benchmarkSkipped fault benchmark.name ::
                    next.events }

------------------------------------------------------------
-- Workers
------------------------------------------------------------

/-
  What comes of asking for workers, a number of them if one
  was chosen: nothing stands in the way, or a reason. Which
  of them compares which checkpoint changes no result.
-/
abbrev Workers := Option UInt64 → Except Text Unit

namespace Workers

/- Workers that are always at hand. -/
def atHand : Workers :=
  fun _ => .ok ()

/- The fault of workers that are not to be had. -/
def fault (reason : Text) : Fault :=
  .badSettings ("failed to build worker pool: " ++ reason)

end Workers

------------------------------------------------------------
-- Runs
------------------------------------------------------------

/- What is told if there is nothing to examine. -/
def nothingEvents
    (root : Path)
    (benchmarks : List Benchmark) : List Event :=
  if benchmarks.isEmpty then [.nothingMatched root] else []

/-
  Find the benchmarks of a root and examine them, if there
  are workers.
-/
def runSelected
    (engine : PatternEngine α)
    (selection : Selection α)
    (root : Path)
    (s : Settings)
    (d : Disk)
    (workers : Workers := Workers.atHand) : Step Summary :=
  match discover engine selection root (some s.outputDir) d with
  | .error fault => { result := .error fault, disk := d }
  | .ok (benchmarks, found) =>
      let told := found ++ nothingEvents root benchmarks
      match workers s.jobs with
      | .error reason =>
          { result := .error (Workers.fault reason)
            disk := d
            events := told }
      | .ok () =>
          let step := examineAll s benchmarks { } d
          { step with events := told ++ step.events }

/- Examine every selected benchmark of a root. -/
def run
    (engine : PatternEngine α)
    (root : Path)
    (s : Settings)
    (d : Disk)
    (workers : Workers := Workers.atHand) : Step Summary :=
  match s.validate with
  | .error fault =>
      { result := .error (.badSettings fault.message)
        disk := d }
  | .ok () =>
      match selectionOf engine s with
      | .error fault =>
          { result := .error fault.toFault, disk := d }
      | .ok selection =>
          match d.makeFolders s.outputDir with
          | (d, some fault) =>
              { result :=
                  .error (.brokenDevice s.outputDir fault)
                disk := d }
          | (d, none) =>
              runSelected engine selection root s d workers

end PageHeat
