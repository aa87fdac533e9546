import PageHeat.Disk.Access
import PageHeat.Fault.Basic
import PageHeat.Journal.Event
import PageHeat.Selection.Basic

/-
  Finding the benchmarks of a folder.

  Every folder in the root is a benchmark unless its name
  starts with a dot, it is the folder for the results, or
  the selection leaves it out. A benchmark has the name
  that is shown for its folder, so two folders may share a
  name if one of them is no text. Benchmarks are ordered by
  their names, and those that share one are in the order in
  which the root lists them.

  Key definitions include:
    * `Benchmark`
    * `Standing`
    * `standing`
    * `benchmarkOf`
    * `benchmarksOf`
    * `discover`
-/

------------------------------------------------------------
-- Benchmarks
------------------------------------------------------------

namespace PageHeat

/- The shown name and the folder of one benchmark. -/
structure Benchmark where
  name : Text
  dir : Path
  deriving Repr, DecidableEq

/- How an entry of the root is looked at. -/
inductive Standing where
  | hidden
  | noFolder
  | outputFolder
  | notSelected
  | benchmark
  deriving Repr, DecidableEq

variable {α : Type}

/- How the entry of a name in the root is looked at. -/
def standing
    (engine : PatternEngine α)
    (selection : Selection α)
    (root : Path)
    (output : Option Location)
    (d : Disk)
    (name : Name) : Standing :=
  let dir := root.join name
  let label := Path.shown name
  if label.head? = some '.' then
    .hidden
  else if ¬ d.IsFolder dir then
    .noFolder
  else if output ≠ none ∧ d.locate? dir = output then
    .outputFolder
  else if ¬ selection.Selects engine label then
    .notSelected
  else
    .benchmark

------------------------------------------------------------
-- Discovery
------------------------------------------------------------

/- The benchmark of a name in the root. -/
def benchmarkOf (root : Path) (name : Name) : Benchmark :=
  ⟨Path.shown name, root.join name⟩

/-
  The benchmarks among the names of a folder, in the order
  of their names. The sorting is stable.
-/
def benchmarksOf
    (root : Path)
    (judge : Name → Standing)
    (names : List Name) : List Benchmark :=
  ((names.filter fun n => judge n = .benchmark).map
    (benchmarkOf root)).mergeSort
      fun a b => Text.atMost a.name b.name

/- What is told about the entries of the root. -/
def discoveryEvents
    (root : Path)
    (judge : Name → Standing)
    (names : List Name) : List Event :=
  names.filterMap fun n =>
    match judge n with
    | .outputFolder => some (.outputFolderSkipped (root.join n))
    | .notSelected => some (.filteredOut (Path.shown n))
    | _ => none

/- The benchmarks of a folder, and what is told about it. -/
def discover
    (engine : PatternEngine α)
    (selection : Selection α)
    (root : Path)
    (outputDir : Option Path)
    (d : Disk) :
    Except Fault (List Benchmark × List Event) :=
  match d.list root with
  | .error fault => .error (.brokenDevice root fault)
  | .ok names =>
      let output := outputDir.bind d.locate?
      let judge := standing engine selection root output d
      .ok
        (benchmarksOf root judge names,
          discoveryEvents root judge names)

end PageHeat
