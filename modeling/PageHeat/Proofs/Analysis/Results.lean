import PageHeat.Proofs.Analysis.Frame
import PageHeat.Proofs.Analysis.Run

/-
  What a run on a plain disk leaves behind.

  A run creates the folder for the results, with those
  around it, and examines benchmarks that are apart from
  this folder. So nothing but result files changes after
  that. Of several reports under one name, the last one has
  its lines in the result file.

  Key definitions include:
    * `RunSettles`

  Key lemmas include:
    * `reportAt?_or`
    * `exists_of_lastContent?`
    * `lastContent?_of_last_report`
    * `exists_runSettles`
    * `input_file_iff`
    * `run_changes_results_only`
    * `run_loses_lines_blurredLogsDisk`
-/

------------------------------------------------------------
-- Last Contents
------------------------------------------------------------

namespace PageHeat

section Contents

variable {s : Settings} {benchmarks : List Benchmark}
variable {b : Benchmark} {l m : Location} {d : Disk}

/- A benchmark has result lines exactly if it has a report. -/
theorem Apart.reportAt?_or
    (hApart : Apart s b l d)
    (hWrites : ∀ cause, ¬ WriteFails s b d cause) :
    (reportAt? s (b, d) = none ∧ contentAt? s b d = none) ∨
      ∃ baseline report content,
        reportAt? s (b, d) = some report ∧
          contentAt? s b d = some content ∧
          loadBaseline d (s.baselinePath b.dir) =
            .ok baseline ∧
          Accounts s b baseline d report content := by
  unfold reportAt? contentAt?
  cases hLoad : loadBaseline d (s.baselinePath b.dir) with
  | error fault =>
      rw [examine_of_load_error hLoad]
      exact .inl ⟨rfl, rfl⟩
  | ok baseline =>
      cases hCreate : d.create (s.outputPath b.name) with
      | error fault =>
          rw [examine_of_create_error hLoad hCreate]
          exact .inl ⟨rfl, rfl⟩
      | ok created =>
          rw [hApart.examine_of_writes hWrites hLoad hCreate]
          exact .inr
            ⟨baseline, _, _, rfl, rfl, rfl,
              accounts_outcomes s b baseline d⟩

theorem lastContent?_append
    (s : Settings)
    (l : Location)
    (d : Disk)
    (front back : List Benchmark)
    (m : Location) :
    lastContent? s l d (front ++ back) m =
      (lastContent? s l d back m).or
        (lastContent? s l d front m) := by
  unfold lastContent?
  rw [List.filter_append, List.filterMap_append,
    List.getLast?_append]

/- The last content is that of a benchmark with the place. -/
theorem exists_of_lastContent?
    {content : Bytes}
    (hLast : lastContent? s l d benchmarks m = some content) :
    ∃ b ∈ benchmarks,
      b.place l = m ∧ contentAt? s b d = some content := by
  rcases List.mem_filterMap.mp (List.mem_of_getLast? hLast)
    with ⟨b, hMem, hContent⟩
  rw [List.mem_filter] at hMem
  exact ⟨b, hMem.1, of_decide_eq_true hMem.2, hContent⟩

variable (hApart : ∀ b ∈ benchmarks, Apart s b l d)
variable
  (hWrites :
    ∀ b ∈ benchmarks, ∀ cause, ¬ WriteFails s b d cause)

include hApart hWrites

/- A place with some content is that of a report. -/
theorem exists_report_of_lastContent?
    {content : Bytes}
    (hLast : lastContent? s l d benchmarks m = some content) :
    ∃ r ∈ benchmarks.filterMap fun b => reportAt? s (b, d),
      m = Utf8.encode r.name :: l := by
  rcases exists_of_lastContent? hLast with
    ⟨b, hMem, hPlace, hContent⟩
  rcases (hApart b hMem).reportAt?_or (hWrites b hMem) with
    ⟨-, hNone⟩ |
      ⟨baseline, report, _, hReport, -, -, hAccounts⟩
  · cases hNone.symm.trans hContent
  · refine
      ⟨report, List.mem_filterMap.mpr ⟨b, hMem, hReport⟩, ?_⟩
    rw [hAccounts.name_eq, ← hPlace]
    rfl

/-
  The last report under its name has the content that is
  left in its place.
-/
theorem lastContent?_of_last_report
    {front back : List Report}
    {report : Report}
    (hReports :
      (benchmarks.filterMap fun b => reportAt? s (b, d)) =
        front ++ report :: back)
    (hLast : ∀ r ∈ back, r.name ≠ report.name) :
    ∃ b ∈ benchmarks, ∃ baseline content,
      b.name = report.name ∧
        loadBaseline d (s.baselinePath b.dir) =
          .ok baseline ∧
        Accounts s b baseline d report content ∧
        lastContent? s l d benchmarks
            (Utf8.encode report.name :: l) =
          some content := by
  rcases List.filterMap_eq_append_iff.mp hReports with
    ⟨before, rest, rfl, -, hRest⟩
  rcases List.filterMap_eq_cons_iff.mp hRest with
    ⟨silent, b, later, rfl, -, hReport, hBack⟩
  have hMem : b ∈ before ++ (silent ++ b :: later) := by
    simp
  rcases (hApart b hMem).reportAt?_or (hWrites b hMem) with
    ⟨hNone, -⟩ |
      ⟨baseline, r, content, hSome, hContent, hLoad,
        hAccounts⟩
  · cases hNone.symm.trans hReport
  · cases hSome.symm.trans hReport
    have hPlace :
        b.place l = Utf8.encode report.name :: l := by
      rw [hAccounts.name_eq]
      rfl
    -- later content would belong to a later report
    have hLater :
        lastContent? s l d later
            (Utf8.encode report.name :: l) = none := by
      rw [Option.eq_none_iff_forall_ne_some]
      intro other hOther
      have hSub {c : Benchmark} (hIn : c ∈ later) :
          c ∈ before ++ (silent ++ b :: later) := by
        simp [hIn]
      rcases exists_report_of_lastContent?
          (fun c hIn => hApart c (hSub hIn))
          (fun c hIn => hWrites c (hSub hIn)) hOther with
        ⟨q, hQ, hEq⟩
      rw [hBack] at hQ
      refine hLast q hQ ?_
      exact (Utf8.encode_inj.mp
        (List.head_eq_of_cons_eq hEq)).symm
    refine
      ⟨b, hMem, baseline, content, hAccounts.name_eq.symm,
        hLoad, hAccounts, ?_⟩
    rw [lastContent?_append, lastContent?_append,
      lastContent?_cons, hLater, if_pos hPlace, hContent]
    rfl

end Contents

------------------------------------------------------------
-- Runs With A Summary
------------------------------------------------------------

/-
  A run on a plain disk comes by all of its checks and
  settles the benchmarks that it has found.
-/
structure RunSettles
    {α : Type}
    (engine : PatternEngine α)
    (root : Path)
    (s : Settings)
    (d : Disk)
    (workers : Workers)
    (summary : Summary)
    (l : Location)
    (selection : Selection α)
    (benchmarks : List Benchmark)
    (found : List Event) : Prop where
  valid : s.validate = .ok ()
  filter : selectionOf engine s = .ok selection
  made : (d.makeFolders s.outputDir).2 = none
  has_workers : workers s.jobs = .ok ()
  grows :
    d.Grows (s.outputDir :: s.outputDir.around)
      (d.makeFolders s.outputDir).1
  output :
    Disk.resolve (d.makeFolders s.outputDir).1 s.outputDir =
      .ok (.present l .folder)
  discovers :
    discover engine selection root (some s.outputDir)
        (d.makeFolders s.outputDir).1 =
      .ok (benchmarks, found)
  apart :
    ∀ b ∈ benchmarks,
      Apart s b l (d.makeFolders s.outputDir).1
  writes :
    ∀ b ∈ benchmarks, ∀ cause,
      ¬ WriteFails s b (d.makeFolders s.outputDir).1 cause
  summary_eq :
    summary =
      gathered s
        (benchmarks.map fun b =>
          (b, (d.makeFolders s.outputDir).1))
  disk_eq :
    (run engine root s d workers).disk =
      settled s l (d.makeFolders s.outputDir).1 benchmarks
        (d.makeFolders s.outputDir).1

section Runs

variable {α : Type} {engine : PatternEngine α}
variable {selection : Selection α}
variable {root : Path} {s : Settings} {d : Disk}
variable {workers : Workers} {summary : Summary}
variable {benchmarks : List Benchmark} {found : List Event}
variable {l : Location}

/- The benchmarks that are found are apart. -/
theorem apart_of_discover
    (hPlain : d.IsPlain)
    (hValid : s.validate = .ok ())
    (hOutput :
      d.resolve s.outputDir = .ok (.present l .folder))
    (hDiscover :
      discover engine selection root (some s.outputDir) d =
        .ok (benchmarks, found))
    {b : Benchmark}
    (hMem : b ∈ benchmarks) :
    Apart s b l d := by
  have hLocate : d.locate? s.outputDir = some l :=
    (Disk.locate?_eq_some_iff d _ l).mpr ⟨_, hOutput⟩
  rcases standsIn_of_mem_discover hPlain hDiscover with
    ⟨r, -, hStands⟩
  rcases hStands b hMem with ⟨n, hStandsIn⟩
  have hResolve := hStandsIn.resolves
  refine
    ⟨hPlain, hValid, hPlain.folderAt_of_resolve hOutput,
      hStandsIn.result, n :: r,
      hPlain.folderAt_of_resolve hResolve, ?_⟩
  rintro rfl
  exact ne_output_of_mem_discover hDiscover hLocate hMem
    ((Disk.locate?_eq_some_iff d _ _).mpr ⟨_, hResolve⟩)

/- This is how every run on a plain disk has its summary. -/
theorem exists_runSettles
    (hPlain : d.IsPlain)
    (hOutput : s.outputDir ≠ [])
    (hRun :
      (run engine root s d workers).result = .ok summary) :
    ∃ l selection benchmarks found,
      RunSettles engine root s d workers summary l selection
        benchmarks found := by
  rcases run_eq_ok hRun with
    ⟨selection, benchmarks, found, hValid, hFilter, hMade,
      hWorkers, hDiscover⟩
  have hGrows := hPlain.makeFolders_grows s.outputDir
  rcases (Disk.isFolder_iff _ _).mp
    (hPlain.isFolder_makeFolders hOutput hMade) with
    ⟨l, hFolder⟩
  have hApart :
      ∀ b ∈ benchmarks,
        Apart s b l (d.makeFolders s.outputDir).1 :=
    fun b hMem =>
      apart_of_discover hGrows.plain hValid hFolder hDiscover
        hMem
  have hRefl := Disk.DiffersIn.refl hGrows.plain l
  rcases run_of_discover hValid hFilter hMade hWorkers
      hDiscover with
    ⟨hResult, hDisk⟩
  have hTurns := writes_of_examineAll (hResult.symm.trans hRun)
  have hWrites := (writes_turns_iff hApart hRefl).mp hTurns
  refine
    ⟨l, selection, benchmarks, found, hValid, hFilter, hMade,
      hWorkers, hGrows, hFolder, hDiscover, hApart, hWrites,
      ?_, ?_⟩
  · rw [(examineAll_of_writes hTurns).1] at hResult
    cases hResult.symm.trans hRun
    exact gathered_turns hApart hWrites hRefl
  · rw [hDisk, examineAll_settled hApart hWrites hRefl]

namespace RunSettles

variable
  (hSettles :
    RunSettles engine root s d workers summary l selection
      benchmarks found)

include hSettles

/- After its folders were made, a run changes result files. -/
theorem differsIn :
    Disk.DiffersIn (d.makeFolders s.outputDir).1 l
      (run engine root s d workers).disk := by
  rw [hSettles.disk_eq]
  exact settled_differsIn hSettles.apart
    (.refl hSettles.grows.plain l)

theorem reports_eq :
    summary.reports =
      benchmarks.filterMap fun b =>
        reportAt? s (b, (d.makeFolders s.outputDir).1) := by
  rw [hSettles.summary_eq, gathered, List.filterMap_map]
  rfl

/- Result files hold the contents that are left last. -/
theorem entry?_eq
    (m : Location) :
    Disk.entry? (run engine root s d workers).disk m =
      ((lastContent? s l (d.makeFolders s.outputDir).1
          benchmarks m).map fun content =>
        .file (Stream.ofBytes content)).or
          (Disk.entry? (d.makeFolders s.outputDir).1 m) := by
  rw [hSettles.disk_eq, entry?_settled]

/- Any other place holds what it held before. -/
theorem entry?_or
    (m : Location) :
    Disk.entry? (run engine root s d workers).disk m =
        Disk.entry? (d.makeFolders s.outputDir).1 m ∨
      ∃ r ∈ summary.reports,
        m = Utf8.encode r.name :: l := by
  rw [hSettles.entry?_eq]
  cases hLast :
      lastContent? s l (d.makeFolders s.outputDir).1
        benchmarks m with
  | none => exact .inl rfl
  | some content =>
      rw [hSettles.reports_eq]
      exact .inr
        (exists_report_of_lastContent? hSettles.apart
          hSettles.writes hLast)

end RunSettles

------------------------------------------------------------
-- Input Files
------------------------------------------------------------

/-
  An input file stays what it was, on a disk that has grown
  before benchmarks were found and differs in the folder
  for the results since then.
-/
theorem input_file_iff
    {d₁ d₂ : Disk}
    {paths : List Path}
    (hGrows : d.Grows paths d₁)
    {b : Benchmark}
    (hApart : Apart s b l d₁)
    (hDiffers : d₁.DiffersIn l d₂)
    {p : Path}
    (hInput : p ∈ s.inputPaths b.dir)
    (m : Location)
    (content : Stream) :
    (d.resolve p = .ok (.present m (.file content)) →
      d₂.resolve p = .ok (.present m (.file content))) ∧
    (d₂.resolve p = .ok (.present m (.file content)) →
      d.entry? m = some (.file content)) := by
  rcases exists_of_mem_inputPaths hApart.valid hInput with
    ⟨name, hName, rfl⟩
  rcases hApart.folder with ⟨k, hAt, hOther⟩
  have hOutside : ∀ other, name :: k ≠ other :: l := by
    intro other hEq
    exact hOther (List.tail_eq_of_cons_eq hEq)
  have hSame := hDiffers.same hOutside
  constructor
  · intro hResolve
    have hOn : (Disk.Spot.present m (.file content)).IsOn d :=
      Disk.resolveTo_isOn hResolve
    have hEntry : d₁.entry? m = some (.file content) := by
      rcases hGrows.entry_or m with hEq | ⟨hNone, -⟩
      · exact hEq.trans hOn
      · cases hNone.symm.trans hOn
    have hResolve₁ : d₁.resolve (b.dir.join name) =
        .ok (.present m (.file content)) :=
      hGrows.keeps.resolve_eq hResolve hEntry
    have hPlace : m = name :: k :=
      hApart.plain.resolve_join_file hAt hName hResolve₁
    subst hPlace
    exact hDiffers.keeps.resolve_eq hResolve₁
      (hSame.trans hEntry)
  · intro hResolve
    have hOn :
        (Disk.Spot.present m (.file content)).IsOn d₂ :=
      Disk.resolveTo_isOn hResolve
    have hEntry : d₂.entry? m = some (.file content) := hOn
    have hPlace : m = name :: k :=
      hDiffers.plain.resolve_join_file
        (hAt.of_keeps hDiffers.keeps) hName hResolve
    subst hPlace
    rcases hGrows.entry_or (name :: k) with
      hEq | ⟨-, hFolder, -⟩
    · rw [← hEq, ← hSame, hEntry]
    · rw [hSame, hFolder] at hEntry
      cases hEntry

------------------------------------------------------------
-- The Whole Run
------------------------------------------------------------

/- A run gives a summary if its folders are there. -/
theorem exists_run_eq_ok
    (hPlain : d.IsPlain)
    (hNone : d.limits = [])
    (hRoot : d.IsFolder root)
    (hMade : (d.makeFolders s.outputDir).2 = none)
    (hValid : s.validate = .ok ())
    (hFilter : selectionOf engine s = .ok selection)
    (hWorkers : workers s.jobs = .ok ()) :
    ∃ summary,
      (run engine root s d workers).result = .ok summary := by
  have hGains := Disk.makeFolders_gains d s.outputDir
  have hUnlimited :=
    (Disk.Unlimited.of_plain hPlain hNone).of_keeps
      hGains.keeps
  rcases exists_discover_of_isFolder engine selection s hRoot
    with ⟨benchmarks, found, hDiscover⟩
  exact
    ⟨_, (run_of_discover hValid hFilter hMade hWorkers
      hDiscover).1.trans
        (examineAll_of_writes
          (hUnlimited.writes s benchmarks)).1⟩

/-
  A run on a plain disk that gives a summary changes the
  disk in two ways only: folders that were missing at or
  around the path of the folder for the results are there,
  and each name of a report has its result file in that
  folder, which holds the lines of the last report under
  this name and accounts for the checkpoints as the run
  found them. Every other location holds what it held. In
  particular, what is read for a benchmark is the same after
  the run, and each of its input files stands where it
  stood, with the same content.
-/
theorem run_changes_results_only
    (hPlain : d.IsPlain)
    (hOutput : s.outputDir ≠ [])
    (hRun :
      (run engine root s d workers).result = .ok summary) :
    let d₁ := (d.makeFolders s.outputDir).1
    let d₂ := (run engine root s d workers).disk
    ∃ l selection benchmarks found,
      selectionOf engine s = .ok selection ∧
      discover engine selection root (some s.outputDir) d₁ =
        .ok (benchmarks, found) ∧
      d₂.resolve s.outputDir = .ok (.present l .folder) ∧
      d₂.here = d.here ∧
      d₂.limits = d.limits ∧
      (∀ m, d₂.entry? m = d.entry? m ∨
        ((∃ p ∈ s.outputDir :: s.outputDir.around,
            d₂.locate? p = some m) ∧
          d.entry? m = none ∧ d₂.entry? m = some .folder) ∨
        ∃ r ∈ summary.reports,
          m = Utf8.encode r.name :: l) ∧
      (∀ front r back,
        summary.reports = front ++ r :: back →
        (∀ q ∈ back, q.name ≠ r.name) →
        ∃ b ∈ benchmarks, ∃ baseline content,
          b.name = r.name ∧
          loadBaseline d₁ (s.baselinePath b.dir) =
            .ok baseline ∧
          Accounts s b baseline d₁ r content ∧
          d₂.entry? (Utf8.encode r.name :: l) =
            some (.file (Stream.ofBytes content))) ∧
      ∀ b ∈ benchmarks, ∀ p ∈ s.inputPaths b.dir,
        d₂.read p = d₁.read p ∧
        ∀ m content,
          (d.resolve p = .ok (.present m (.file content)) →
            d₂.resolve p =
              .ok (.present m (.file content))) ∧
          (d₂.resolve p = .ok (.present m (.file content)) →
            d.entry? m = some (.file content)) := by
  intro d₁ d₂
  rcases exists_runSettles hPlain hOutput hRun with
    ⟨l, selection, benchmarks, found, hSettles⟩
  have hGrows : d.Grows _ d₁ := hSettles.grows
  have hDiffers : d₁.DiffersIn l d₂ := hSettles.differsIn
  refine
    ⟨l, selection, benchmarks, found, hSettles.filter,
      hSettles.discovers, ?_,
      hDiffers.keeps.here_eq.trans hGrows.keeps.here_eq,
      hDiffers.keeps.limits_eq.trans hGrows.keeps.limits_eq,
      ?_, ?_, ?_⟩
  · have hOn : (Disk.Spot.present l .folder).IsOn d₁ :=
      Disk.resolveTo_isOn hSettles.output
    exact hDiffers.keeps.resolve_eq hSettles.output
      (hDiffers.keeps.folder hOn)
  · intro m
    rcases hSettles.entry?_or m with hSame | hReport
    · rcases hGrows.entry_or m with
        hSame' | ⟨hNone, hNew, p, hMem, hLocate⟩
      · exact .inl (hSame.trans hSame')
      · exact .inr (.inl
          ⟨⟨p, hMem, hDiffers.keeps.locate?_eq hLocate⟩,
            hNone, hSame.trans hNew⟩)
    · exact .inr (.inr hReport)
  · intro front r back hReports hLast
    rcases lastContent?_of_last_report hSettles.apart
        hSettles.writes
        (hSettles.reports_eq.symm.trans hReports) hLast with
      ⟨b, hMem, baseline, content, hName, hLoad, hAccounts,
        hContent⟩
    refine
      ⟨b, hMem, baseline, content, hName, hLoad, hAccounts,
        (hSettles.entry?_eq _).trans ?_⟩
    rw [hContent]
    rfl
  · intro b hMem p hInput
    have hApart := hSettles.apart b hMem
    refine
      ⟨?_, input_file_iff hGrows hApart hDiffers hInput⟩
    rcases exists_of_mem_inputPaths hApart.valid hInput with
      ⟨name, hName, rfl⟩
    exact (hApart.alike_of_differsIn hDiffers).read_eq _ hName

end Runs

/- A run on a small disk leaves its inputs alone. -/
theorem run_changes_results_only_smallDisk :
    let s := { smallSettings with outputDir := "new" }
    smallDisk.IsPlain ∧
      s.outputDir ≠ [] ∧
      ∃ summary l,
        (run Pattern.engine "in" s smallDisk).result =
          .ok summary ∧
        ∀ m,
          Disk.entry?
              (run Pattern.engine "in" s smallDisk).disk m =
            smallDisk.entry? m ∨
            smallDisk.entry? m = none ∨
            ∃ r ∈ summary.reports,
              m = Utf8.encode r.name :: l := by
  intro s
  have hPlain : smallDisk.IsPlain := by decide
  have hOutput : s.outputDir ≠ [] := by decide
  have hMade : (smallDisk.makeFolders s.outputDir).2 = none := by
    decide
  rcases @exists_run_eq_ok _ Pattern.engine Selection.all "in"
      s smallDisk Workers.atHand hPlain rfl (by decide) hMade
      rfl rfl rfl with
    ⟨summary, hRun⟩
  rcases run_changes_results_only hPlain hOutput hRun with
    ⟨l, _, _, _, _, _, _, _, _, hEntry, _⟩
  refine ⟨hPlain, hOutput, summary, l, hRun, ?_⟩
  intro m
  rcases hEntry m with hSame | ⟨-, hNone, -⟩ | hReport
  · exact .inl hSame
  · exact .inr (.inl hNone)
  · exact .inr (.inr hReport)

------------------------------------------------------------
-- Results Of One Name
------------------------------------------------------------

/-
  A disk with two benchmarks whose names are shown alike,
  each with a baseline and a checkpoint of its own.
-/
def blurredLogsDisk : Disk :=
  { entries :=
      [ (["in"], .folder),
        ([[0xFE], "in"], .folder),
        (["10M.csv", [0xFE], "in"],
          .file (Stream.ofBytes (Utf8.encode "p,t\n"))),
        (["100M.csv", [0xFE], "in"],
          .file (Stream.ofBytes (Utf8.encode "p,t,1\n"))),
        ([[0xFF], "in"], .folder),
        (["10M.csv", [0xFF], "in"],
          .file (Stream.ofBytes (Utf8.encode "p,t\n"))),
        (["100M.csv", [0xFF], "in"],
          .file (Stream.ofBytes (Utf8.encode "p,t,2\n"))),
        (["out"], .folder) ] }

/- Both have a report, and only the lines of one are left. -/
theorem run_loses_lines_blurredLogsDisk :
    let s := smallSettings
    let first : Benchmark :=
      ⟨blurredName, Path.join "in" [0xFE]⟩
    let second : Benchmark :=
      ⟨blurredName, Path.join "in" [0xFF]⟩
    let place : Location := [Utf8.encode blurredName, "out"]
    let lines (text : Text) : Option Entry :=
      some (.file (Stream.ofBytes (Utf8.encode text)))
    let report (b : Benchmark) : Report :=
      { name := blurredName
        output := s.outputPath blurredName
        linesWritten := 2
        skipped := [s.checkpointPath b.dir 2]
        malformed := [] }
    blurredLogsDisk.IsPlain ∧
      s.outputDir ≠ [] ∧
      s.validate = .ok () ∧
      selectionOf Pattern.engine s = .ok Selection.all ∧
      discover Pattern.engine Selection.all "in"
          (some s.outputDir) blurredLogsDisk =
        .ok ([first, second], []) ∧
      (run Pattern.engine "in" s blurredLogsDisk).result =
        .ok { reports := [report first, report second] } ∧
      Disk.entry? (examine s first blurredLogsDisk).disk
          place =
        lines "0 0 1\n0 0 0\n" ∧
      Disk.entry? (examine s second blurredLogsDisk).disk
          place =
        lines "0 0 2\n0 0 0\n" ∧
      Disk.entry?
          (run Pattern.engine "in" s blurredLogsDisk).disk
          place =
        lines "0 0 2\n0 0 0\n" := by
  intro s first second place lines report
  have hMade :
      blurredLogsDisk.makeFolders s.outputDir =
        (blurredLogsDisk, none) := rfl
  have hDiscover :
      discover Pattern.engine Selection.all "in"
          (some s.outputDir) blurredLogsDisk =
        .ok ([first, second], []) :=
    discover_of_sorted Pattern.engine Selection.all _
      [[0xFE], [0xFF]] rfl (by decide)
  rcases @run_of_discover _ Pattern.engine Selection.all "in"
      s blurredLogsDisk Workers.atHand rfl rfl (by rw [hMade])
      rfl _ _ hDiscover with
    ⟨hResult, hDisk⟩
  refine
    ⟨by decide, by decide, rfl, rfl, hDiscover, ?_, ?_, ?_,
      ?_⟩
  · rw [hResult]
    exact Step.result_of_toOption (by decide +kernel)
  · decide +kernel
  · decide +kernel
  · rw [hDisk]
    decide +kernel

end PageHeat
