import PageHeat.Proofs.Report.Rows
import PageHeat.Proofs.Report.Totals
import PageHeat.Proofs.Tally.Sink

/-
  What the table of a summary tells.

  The rows, the totals and the listed items come from the
  same reports, each in its own way, and they agree: the
  numbers in the last row are the sums of the columns above
  it, and there are as many listed items as it says. All of
  this is said about what is read back from the text. A
  sink takes as much of the text as fits.

  Key definitions include:
    * `Addition`
    * `Summary.ofAdditions`
    * `Summary.FitsCounters`
    * `Summary.IsSummedUp`
    * `TableParts`
    * `TableParts.text`
    * `TableParts.read?`
    * `TableContent`
    * `TableContent.Tells`

  Key lemmas include:
    * `Summary.ofAdditions_eq`
    * `Summary.table_eq_text`
    * `Summary.read?_tableParts`
    * `Summary.tells_tableContent`
    * `Summary.writeTable_eq_write`
    * `Summary.writeTable_tells_additions`
-/

------------------------------------------------------------
-- Additions
------------------------------------------------------------

namespace PageHeat

/- What is added to a summary. -/
inductive Addition where
  | report (r : Report)
  | failure (f : Failure)
  deriving Repr, DecidableEq

namespace Addition

/- The report that is added, if it is one. -/
def report? : Addition → Option Report
  | .report r => some r
  | .failure _ => none

/- The failure that is added, if it is one. -/
def failure? : Addition → Option Failure
  | .report _ => none
  | .failure f => some f

end Addition

namespace Summary

/- Add one thing to a summary. -/
def add (s : Summary) : Addition → Summary
  | .report r => s.addReport r
  | .failure f => s.addFailure f

/- The summary after some additions to an empty one. -/
def ofAdditions (additions : List Addition) : Summary :=
  additions.foldl add { }

/- Reports and failures are put behind those of before. -/
theorem foldl_add
    (additions : List Addition)
    (s : Summary) :
    additions.foldl add s =
      { reports :=
          s.reports ++ additions.filterMap Addition.report?
        failures :=
          s.failures ++
            additions.filterMap Addition.failure? } := by
  induction additions generalizing s with
  | nil =>
      simp only [List.foldl_nil, List.filterMap_nil,
        List.append_nil]
  | cons a additions ih =>
      rw [List.foldl_cons, ih]
      cases a with
      | report r =>
          simp only [add, addReport, List.append_assoc]
          rfl
      | failure f =>
          simp only [add, addFailure, List.append_assoc]
          rfl

/- A summary has what was added to it, in order. -/
theorem ofAdditions_eq (additions : List Addition) :
    ofAdditions additions =
      { reports := additions.filterMap Addition.report?
        failures :=
          additions.filterMap Addition.failure? } :=
  foldl_add additions { }

/- A summary is empty if nothing was added. -/
theorem isEmpty_ofAdditions_iff (additions : List Addition) :
    (ofAdditions additions).IsEmpty ↔ additions = [] := by
  rw [ofAdditions_eq, IsEmpty]
  constructor
  · rintro ⟨hReports, hFailures⟩
    cases additions with
    | nil => rfl
    | cons a rest =>
        cases a with
        | report r => cases hReports
        | failure f => cases hFailures
  · rintro rfl
    exact ⟨rfl, rfl⟩

end Summary

------------------------------------------------------------
-- Sums That Fit
------------------------------------------------------------

namespace Summary

/- The three totals of a summary are counters. -/
structure FitsCounters (s : Summary) : Prop where
  lines : s.totalLines ≤ Count.limit
  skipped : s.totalSkipped ≤ Count.limit
  malformed : s.totalMalformed ≤ Count.limit

variable {s : Summary}

namespace FitsCounters

variable {r : Report}

theorem linesWritten_le
    (hFits : s.FitsCounters)
    (hMem : r ∈ s.reports) :
    r.linesWritten ≤ Count.limit :=
  Nat.le_trans (le_total_map _ hMem) hFits.lines

theorem length_skipped_le
    (hFits : s.FitsCounters)
    (hMem : r ∈ s.reports) :
    r.skipped.length ≤ Count.limit :=
  Nat.le_trans
    (le_total_map (fun r => r.skipped.length) hMem)
    hFits.skipped

theorem malformedLines_le
    (hFits : s.FitsCounters)
    (hMem : r ∈ s.reports) :
    r.malformedLines ≤ Count.limit :=
  Nat.le_trans (le_total_map _ hMem) hFits.malformed

theorem malformedFile_le
    (hFits : s.FitsCounters)
    {file : MalformedFile}
    (hMem : file ∈ s.allMalformed) :
    file.lines ≤ Count.limit := by
  rcases List.mem_flatMap.mp hMem with ⟨r, hReport, hFile⟩
  have hPart : file.lines ≤ r.malformedLines :=
    le_total_map MalformedFile.lines hFile
  exact Nat.le_trans hPart (hFits.malformedLines_le hReport)

end FitsCounters

/-
  Adding up the numbers of all reports gives the totals, and
  no sum on the way is larger than a counter can be.
-/
structure IsSummedUp (s : Summary) : Prop where
  lines :
    Count.sum? (s.reports.map Report.linesWritten) =
      some s.totalLines
  skipped :
    Count.sum? (s.reports.map fun r => r.skipped.length) =
      some s.totalSkipped
  malformed :
    Count.sum? (s.reports.map Report.malformedLines) =
      some s.totalMalformed
  files :
    ∀ r ∈ s.reports,
      Count.sum? (r.malformed.map MalformedFile.lines) =
        some r.malformedLines

/- Totals that are counters are found by adding up counters. -/
theorem FitsCounters.isSummedUp
    (hFits : s.FitsCounters) :
    s.IsSummedUp where
  lines := Count.sum?_of_total_le hFits.lines
  skipped := Count.sum?_of_total_le hFits.skipped
  malformed := Count.sum?_of_total_le hFits.malformed
  files := fun _ hMem =>
    Count.sum?_of_total_le (hFits.malformedLines_le hMem)

end Summary

------------------------------------------------------------
-- The Parts Of A Table
------------------------------------------------------------

/- The lines of a table that are not always the same. -/
structure TableParts where
  rows : List Text
  totals : Text
  skipped : List Text
  malformed : List Text
  failures : List Text
  deriving Repr, DecidableEq

def endLines (lines : List Text) : Text :=
  lines.flatMap (· ++ ['\n'])

theorem endLines_append (front back : List Text) :
    endLines (front ++ back) =
      endLines front ++ endLines back :=
  List.flatMap_append

theorem endLines_cons (line : Text) (lines : List Text) :
    endLines (line :: lines) =
      line ++ '\n' :: endLines lines := by
  rw [endLines, List.flatMap_cons, List.append_assoc]
  rfl

/- A title above some lines, if there are any. -/
def titled (title : Text) (lines : List Text) : Text :=
  if lines = [] then [] else title ++ endLines lines

/- A table of given parts. -/
def TableParts.text (parts : TableParts) : Text :=
  "    lines  skipped  malformed benchmark\n" ++
    "--------- -------- ---------- ----------------\n" ++
    endLines parts.rows ++
    "--------- -------- ---------- ----------------\n" ++
    parts.totals ++ "\n" ++
    titled "\nSkipped checkpoint files:\n" parts.skipped ++
    titled "\nMalformed lines:\n" parts.malformed ++
    titled "\nFailed benchmarks:\n" parts.failures

/- What is read from the parts of a table. -/
structure TableContent where
  rows : List TableRow
  totals : TableRow
  skipped : List Text
  malformed : List TableFile
  deriving Repr, DecidableEq

/- Read every part of a table line by line. -/
def TableParts.read?
    (parts : TableParts) : Option TableContent := do
  let rows ← parts.rows.mapM readRow?
  let totals ← readRow? parts.totals
  let skipped ← parts.skipped.mapM readPath?
  let malformed ← parts.malformed.mapM readFile?
  some ⟨rows, totals, skipped, malformed⟩

/- The row that tells the numbers of a report. -/
def TableRow.ofReport (r : Report) : TableRow where
  lines := r.linesWritten
  skipped := r.skipped.length
  malformed := total (r.malformed.map MalformedFile.lines)
  label := r.name

/-
  A row for every report, one for the sums of the columns,
  and every item of every report; the sums are also those
  of the items.
-/
structure TableContent.Tells
    (content : TableContent)
    (reports : List Report) : Prop where
  rows : content.rows = reports.map TableRow.ofReport
  totals :
    content.totals =
      { lines := total (content.rows.map TableRow.lines)
        skipped := total (content.rows.map TableRow.skipped)
        malformed :=
          total (content.rows.map TableRow.malformed)
        label := "total" }
  skipped :
    content.skipped =
      (reports.flatMap Report.skipped).map Path.shown
  malformed :
    content.malformed =
      (reports.flatMap Report.malformed).map TableFile.ofFile
  skipped_count :
    content.skipped.length = content.totals.skipped
  malformed_count :
    total (content.malformed.map TableFile.lines) =
      content.totals.malformed

------------------------------------------------------------
-- Taking A Table Apart
------------------------------------------------------------

namespace Summary

variable (s : Summary)

def tableParts : TableParts where
  rows := s.reports.map reportRow
  totals := s.totalRow
  skipped := s.allSkipped.map skippedLine
  malformed := s.allMalformed.map malformedLine
  failures := s.failures.map failureLine

/- What the table of a summary should tell. -/
def tableContent : TableContent where
  rows := s.reports.map TableRow.ofReport
  totals :=
    ⟨s.totalLines, s.totalSkipped, s.totalMalformed, "total"⟩
  skipped := s.allSkipped.map Path.shown
  malformed := s.allMalformed.map TableFile.ofFile

/- A listing is an empty line and a title above its items. -/
theorem endLines_listing
    {title lead : Text}
    (hLead : lead = '\n' :: (title ++ ['\n']))
    (items : List Text) :
    endLines (listing title items) = titled lead items := by
  cases items with
  | nil => rfl
  | cons item items =>
      have hSome : item :: items ≠ [] :=
        List.cons_ne_nil _ _
      rw [listing, titled, if_neg hSome, hLead]
      simp only [List.isEmpty_cons, Bool.false_eq_true,
        if_false, endLines_cons, List.nil_append,
        List.cons_append, List.append_assoc]

theorem table_of_isEmpty
    (hEmpty : s.IsEmpty) :
    s.table = "No benchmarks analyzed.\n" := by
  rw [table, tableLines, if_pos hEmpty]
  rfl

/- Any other table is the text of its parts. -/
theorem table_eq_text
    (hSome : ¬ s.IsEmpty) :
    s.table = s.tableParts.text := by
  -- the literals of both layouts are closed texts, so that
  -- they can be compared before anything is put behind them
  have hHeading :
      ("    lines  skipped  malformed benchmark\n" : Text) =
        heading ++ ['\n'] := by
    decide
  have hRule :
      ("--------- -------- ---------- ----------------\n" :
          Text) = rule ++ ['\n'] := by
    decide
  have hSkipped :
      ("\nSkipped checkpoint files:\n" : Text) =
        '\n' :: ("Skipped checkpoint files:" ++ ['\n']) := by
    decide
  have hMalformed :
      ("\nMalformed lines:\n" : Text) =
        '\n' :: ("Malformed lines:" ++ ['\n']) := by
    decide
  have hFailures :
      ("\nFailed benchmarks:\n" : Text) =
        '\n' :: ("Failed benchmarks:" ++ ['\n']) := by
    decide
  have hEnd : ("\n" : Text) = ['\n'] := by decide
  have hEnds : s.table = endLines s.tableLines := rfl
  rw [hEnds, tableLines, if_neg hSome]
  unfold TableParts.text
  simp only [hHeading, hRule, hEnd, endLines_append,
    endLines_cons,
    endLines_listing hSkipped, endLines_listing hMalformed,
    endLines_listing hFailures, tableParts,
    List.append_assoc, List.cons_append, List.nil_append]

------------------------------------------------------------
-- Reading A Table
------------------------------------------------------------

/- Items that are written one by one are read one by one. -/
theorem mapM_map_of_reads
    {α β γ : Type}
    {write : α → β}
    {read : β → Option γ}
    {value : α → γ}
    {items : List α}
    (hReads :
      ∀ item ∈ items, read (write item) = some (value item)) :
    (items.map write).mapM read = some (items.map value) := by
  induction items with
  | nil => rfl
  | cons item items ih =>
      have hRest :=
        ih fun other hMem =>
          hReads other (List.mem_cons_of_mem _ hMem)
      rw [List.map_cons, List.mapM_cons, hRest,
        hReads item List.mem_cons_self]
      rfl

/- The content of a table is read from its parts. -/
theorem read?_tableParts
    (hFits : s.FitsCounters) :
    s.tableParts.read? = some s.tableContent := by
  have hRows :
      (s.reports.map reportRow).mapM readRow? =
        some (s.reports.map TableRow.ofReport) :=
    mapM_map_of_reads fun r hMem =>
      readRow?_row (hFits.linesWritten_le hMem)
        (hFits.length_skipped_le hMem)
        (hFits.malformedLines_le hMem) r.name
  have hTotals :
      readRow? s.totalRow = some s.tableContent.totals :=
    readRow?_row hFits.lines hFits.skipped hFits.malformed _
  have hSkipped :
      (s.allSkipped.map skippedLine).mapM readPath? =
        some (s.allSkipped.map Path.shown) :=
    mapM_map_of_reads fun path _ => readPath?_skippedLine path
  have hMalformed :
      (s.allMalformed.map malformedLine).mapM readFile? =
        some (s.allMalformed.map TableFile.ofFile) :=
    mapM_map_of_reads fun file hMem =>
      readFile?_malformedLine (hFits.malformedFile_le hMem)
  simp only [TableParts.read?, tableParts, hRows, hTotals,
    hSkipped, hMalformed]
  rfl

/- The content of a table tells what its reports say. -/
theorem tells_tableContent :
    s.tableContent.Tells s.reports where
  rows := rfl
  totals := by
    simp only [tableContent, List.map_map]
    rfl
  skipped := rfl
  malformed := rfl
  skipped_count := by
    rw [tableContent, List.length_map]
    exact length_flatMap_eq_total _ s.reports
  malformed_count := by
    rw [tableContent, List.map_map]
    exact total_flatMap _ _ s.reports

------------------------------------------------------------
-- Writing A Table
------------------------------------------------------------

/- A table that is written line by line is written at once. -/
theorem writeTable_eq_write (sink : Sink) :
    s.writeTable sink = sink.write (Utf8.encode s.table) := by
  rw [writeTable, Sink.writeEach_eq_write, table,
    List.flatMap_def]

/-
  Reports and failures are added to a summary in any order,
  and its totals are counters. A sink takes as many octets
  of the table as fit, and fails exactly if these are not
  all octets. The table of nothing is one sentence. Any
  other table has the headings, the rows of the reports, the
  row of their sums and the lists of their items and of the
  failures, each with its title unless it is empty; what is
  read from it is what the reports say.
-/
theorem writeTable_tells_additions
    {additions : List Addition}
    (hFits : (ofAdditions additions).FitsCounters) :
    let s := ofAdditions additions
    let whole := Utf8.encode s.table
    s.reports = additions.filterMap Addition.report? ∧
    s.failures = additions.filterMap Addition.failure? ∧
    s.IsSummedUp ∧
    s.writeTable Sink.unlimited =
      ({ received := whole }, none) ∧
    (∀ capacity overflow,
      let written :=
        s.writeTable (Sink.ofCapacity capacity overflow)
      written.1.received =
          whole.take (min capacity whole.length) ∧
        written.2 =
          if whole.length ≤ capacity then none
          else some overflow) ∧
    (additions = [] →
      s.table = "No benchmarks analyzed.\n") ∧
    (additions ≠ [] →
      ∃ (parts : TableParts) (content : TableContent),
        s.table = parts.text ∧
        parts.read? = some content ∧
        content.Tells s.reports ∧
        parts.failures =
          s.failures.map fun f =>
            ("  " : Text) ++ f.name ++ ": " ++ f.reason) := by
  intro s whole
  have hEmpty : s.IsEmpty ↔ additions = [] :=
    isEmpty_ofAdditions_iff additions
  have hParts : s = _ := ofAdditions_eq additions
  refine
    ⟨congrArg reports hParts, congrArg failures hParts,
      hFits.isSummedUp, ?_, ?_, ?_, ?_⟩
  · rw [writeTable_eq_write, Sink.write_unlimited]
  · intro capacity overflow written
    have hWritten : written = _ :=
      s.writeTable_eq_write (Sink.ofCapacity capacity overflow)
    rw [hWritten, ← List.take_eq_take_min]
    exact Sink.write_ofCapacity capacity overflow whole
  · intro hNone
    exact s.table_of_isEmpty (hEmpty.mpr hNone)
  · intro hSome
    exact
      ⟨s.tableParts, s.tableContent,
        s.table_eq_text fun h => hSome (hEmpty.mp h),
        s.read?_tableParts hFits, s.tells_tableContent, rfl⟩

/- A failure between reports, one with numbers that are wide. -/
def wideAdditions : List Addition :=
  [ .report
      { name := "505.mcf_r", output := "out/505.mcf_r",
        linesWritten := 100 },
    .failure ⟨"519.lbm_r", "no baseline"⟩,
    .report
      { name := "503.bwaves_r", output := "out/503.bwaves_r",
        linesWritten := 12345678901
        skipped := ["runs/503.bwaves_r/5700M.csv"]
        malformed :=
          [⟨"runs/503.bwaves_r/200M.csv", 98765432109⟩] } ]

/- Wide numbers are read back, and a narrow sink fails. -/
theorem writeTable_tells_wideAdditions :
    (ofAdditions wideAdditions).FitsCounters ∧
    ((ofAdditions wideAdditions).writeTable
      (Sink.ofCapacity 9 .noSpace)).2 = some .noSpace ∧
    ∃ (parts : TableParts) (content : TableContent),
      (ofAdditions wideAdditions).table = parts.text ∧
      parts.read? = some content ∧
      content.rows.map TableRow.lines = [100, 12345678901] ∧
      content.totals =
        ⟨12345679001, 1, 98765432109, "total"⟩ ∧
      parts.failures =
        [("  519.lbm_r: no baseline" : Text)] := by
  have hFits : (ofAdditions wideAdditions).FitsCounters :=
    ⟨by decide, by decide, by decide⟩
  rcases writeTable_tells_additions hFits with
    ⟨-, -, -, -, hSink, -, hTable⟩
  rcases hTable (by decide) with
    ⟨parts, content, hText, hRead, hTells, hFailures⟩
  refine
    ⟨hFits, ?_, parts, content, hText, hRead, ?_, ?_, ?_⟩
  · rw [(hSink 9 .noSpace).2]
    decide +kernel
  · rw [hTells.rows]
    rfl
  · rw [hTells.totals, hTells.rows]
    rfl
  · rw [hFailures]
    rfl

end Summary

end PageHeat
