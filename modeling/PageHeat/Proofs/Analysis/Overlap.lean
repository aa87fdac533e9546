import PageHeat.Proofs.Analysis.Frame
import PageHeat.Proofs.Disk.Lexical

/-
  A folder for the results that overlaps the root.

  A run creates the folder for the results, with those
  around it, before it looks into the root. If this creates
  the root, a run without a root comes to a summary. If it
  creates a folder in the root, this folder is taken for a
  benchmark unless it is the one for the results. Nothing
  else that is created makes a difference to what is found.

  Key lemmas include:
    * `mem_discover_iff`
    * `mem_listed_of_isFolder`
    * `mem_or_output_of_mem_listed`
    * `IsPlain.exists_around_of_new`
    * `run_without_root`
    * `run_finds_listed_or_created`
-/

------------------------------------------------------------
-- A Root That Is Missing
------------------------------------------------------------

namespace PageHeat

variable {α : Type} {engine : PatternEngine α}
variable {selection : Selection α}
variable {root : Path} {s : Settings} {d d' : Disk}
variable {workers : Workers}

/- Something that is no folder cannot be searched. -/
theorem discover_of_not_isFolder
    (engine : PatternEngine α)
    (selection : Selection α)
    (output : Option Path)
    (hRoot : ¬ d.IsFolder root) :
    ∃ cause,
      discover engine selection root output d =
        .error (.brokenDevice root cause) := by
  rw [discover]
  cases hList : d.list root with
  | error cause => exact ⟨cause, rfl⟩
  | ok names =>
      exfalso
      apply hRoot
      unfold Disk.list at hList
      split at hList
      · cases hList
      · cases hList
      · rename_i l hResolve
        exact (Disk.isFolder_iff d root).mpr ⟨l, hResolve⟩
      · cases hList

/- A run whose folder for the results cannot be created. -/
theorem run_of_makeFolders_error
    (hValid : s.validate = .ok ())
    (hFilter : selectionOf engine s = .ok selection)
    {cause : DeviceFault}
    (hMade : (d.makeFolders s.outputDir).2 = some cause) :
    (run engine root s d workers).result =
      .error (.brokenDevice s.outputDir cause) := by
  rw [run, hValid, hFilter]
  simp only
  split
  · rename_i d₁ fault hPair
    rw [hPair] at hMade
    cases hMade
    rfl
  · rename_i d₁ hPair
    rw [hPair] at hMade
    cases hMade

/- A run whose root is still missing after that. -/
theorem run_of_not_isFolder
    (hValid : s.validate = .ok ())
    (hFilter : selectionOf engine s = .ok selection)
    (hMade : (d.makeFolders s.outputDir).2 = none)
    (hRoot : ¬ (d.makeFolders s.outputDir).1.IsFolder root) :
    ∃ cause,
      (run engine root s d workers).result =
        .error (.brokenDevice root cause) := by
  rcases discover_of_not_isFolder engine selection
      (some s.outputDir) hRoot with ⟨cause, hDiscover⟩
  refine ⟨cause, ?_⟩
  rw [run_eq_runSelected hValid hFilter hMade, runSelected,
    hDiscover]

/-
  On a plain disk, what is created is the folder for the
  results and folders around it. So a root that was missing
  and is there now is one of them.
-/
theorem Disk.IsPlain.root_around_output
    (hPlain : d.IsPlain)
    {output : Path}
    (hInward :
      Path.outward ∉ root.names ∧
        Path.outward ∉ output.names)
    (hRoot : ¬ d.IsFolder root)
    (hCreated : (d.makeFolders output).1.IsFolder root) :
    root.placeFrom d.here <:+ output.placeFrom d.here := by
  have hGrows := hPlain.makeFolders_grows output
  have hHere := hGrows.keeps.here_eq
  rcases (Disk.isFolder_iff _ root).mp hCreated with
    ⟨m, hResolve⟩
  have hOn : (Disk.Spot.present m .folder).IsOn _ :=
    Disk.resolveTo_isOn hResolve
  have hPlace : m = root.placeFrom d.here := by
    rw [← hHere]
    exact hGrows.plain.place_of_resolve hResolve
  rw [← hPlace]
  rcases hPlain.entry?_makeFolders_or hInward.2 m with
    hSame | hSuffix
  · -- the root would have been there before
    exfalso
    apply hRoot
    exact (Disk.isFolder_iff d root).mpr
      ⟨m, hPlain.resolve_of_folder hGrows.plain hHere
        hInward.1 hResolve (hSame.symm.trans hOn)⟩
  · exact hSuffix

/-
  A run whose root is no folder ends with a fatal fault,
  unless creating the folder for the results has created
  the root as well. If nothing limits what is written and
  there are workers, it then comes to a summary. On a plain
  disk, this is not so if the folder for the results is
  neither the root nor inside of it by the names on both
  paths.
-/
theorem run_without_root
    (hRoot : ¬ d.IsFolder root)
    (hValid : s.validate = .ok ())
    (hFilter : selectionOf engine s = .ok selection) :
    let made := d.makeFolders s.outputDir
    let last := run engine root s d workers
    ((∃ fault, last.result = .error fault ∧ fault.IsFatal) ∨
      made.2 = none ∧ made.1.IsFolder root) ∧
    (d.Unlimited →
      workers s.jobs = .ok () →
        ((∃ summary, last.result = .ok summary) ↔
          made.2 = none ∧ made.1.IsFolder root)) ∧
    (d.IsPlain →
      Path.outward ∉ root.names ∧
          Path.outward ∉ s.outputDir.names →
        ¬ root.placeFrom d.here <:+
            s.outputDir.placeFrom d.here →
          ∃ fault,
            last.result = .error fault ∧ fault.IsFatal) := by
  intro made last
  have hEither :
      (∃ fault, last.result = .error fault ∧ fault.IsFatal) ∨
        made.2 = none ∧ made.1.IsFolder root := by
    cases hMade : made.2 with
    | some cause =>
        exact .inl ⟨_,
          run_of_makeFolders_error hValid hFilter hMade,
          trivial⟩
    | none =>
        by_cases hCreated : made.1.IsFolder root
        · exact .inr ⟨rfl, hCreated⟩
        · rcases run_of_not_isFolder hValid hFilter hMade
              hCreated with ⟨cause, hResult⟩
          exact .inl ⟨_, hResult, trivial⟩
  refine ⟨hEither, ?_, ?_⟩
  · intro hUnlimited hWorkers
    constructor
    · rintro ⟨summary, hOk⟩
      rcases hEither with ⟨fault, hError, -⟩ | hCreated
      · cases hOk.symm.trans hError
      · exact hCreated
    · rintro ⟨hMade, hCreated⟩
      have hGains := Disk.makeFolders_gains d s.outputDir
      rcases discover_of_isFolder engine selection
          (some s.outputDir) hCreated with
        ⟨benchmarks, found, hDiscover⟩
      have hResult :=
        (run_of_discover hValid hFilter hMade hWorkers
          hDiscover).1
      have hWrites :=
        (hUnlimited.of_keeps hGains.keeps).writes s benchmarks
      exact ⟨_,
        hResult.trans (examineAll_of_writes hWrites).1⟩
  · intro hPlain hInward hApart
    rcases hEither with hFault | ⟨-, hCreated⟩
    · exact hFault
    · exact absurd
        (hPlain.root_around_output hInward hRoot hCreated)
        hApart

/- Without its root, a run into another folder fails. -/
theorem run_without_root_smallDisk :
    ¬ smallDisk.IsFolder "gone" ∧
      smallSettings.validate = .ok () ∧
      selectionOf Pattern.engine smallSettings =
        .ok Selection.all ∧
      ∃ fault,
        (run Pattern.engine "gone" smallSettings
            smallDisk).result = .error fault ∧
          fault.IsFatal := by
  have hRoot : ¬ smallDisk.IsFolder "gone" := by decide
  have hValid : smallSettings.validate = .ok () := rfl
  have hFilter :
      selectionOf Pattern.engine smallSettings =
        .ok Selection.all := rfl
  exact
    ⟨hRoot, hValid, hFilter,
      (run_without_root hRoot hValid hFilter).2.2 (by decide)
        (by decide) (by decide)⟩

/- Settings that put the results into a missing folder. -/
def insideSettings : Settings :=
  { outputDir := "missing/out", checkpoints := 1 }

/- The disk with this folder and the one around it. -/
def missingRootDisk : Disk :=
  { entries :=
      [ (["missing"], .folder),
        (["out", "missing"], .folder) ] }

/-
  With the one around it as its root, a run over an empty
  disk comes to an empty summary.
-/
theorem run_creates_its_root :
    ¬ Disk.IsFolder { } "missing" ∧
      insideSettings.validate = .ok () ∧
      selectionOf Pattern.engine insideSettings =
        .ok Selection.all ∧
      (run Pattern.engine "missing" insideSettings
          { }).result =
        .ok { } := by
  have hRoot : ¬ Disk.IsFolder { } "missing" := by decide
  have hValid : insideSettings.validate = .ok () := rfl
  have hFilter :
      selectionOf Pattern.engine insideSettings =
        .ok Selection.all := rfl
  have hPair :
      Disk.makeFolders { } insideSettings.outputDir =
        (missingRootDisk, none) := by
    decide +kernel
  have hMade :
      (Disk.makeFolders { } insideSettings.outputDir).2 =
        none := by
    rw [hPair]
  have hDiscover :
      ∃ found,
        discover Pattern.engine Selection.all "missing"
            (some insideSettings.outputDir)
            missingRootDisk =
          .ok ([], found) :=
    ⟨_, discover_of_sorted Pattern.engine Selection.all _
      ["out"] rfl (List.pairwise_singleton _ _)⟩
  rcases hDiscover with ⟨found, hDiscover⟩
  refine ⟨hRoot, hValid, hFilter, ?_⟩
  rw [run_eq_runSelected hValid hFilter hMade, hPair,
    runSelected, hDiscover]
  rfl

------------------------------------------------------------
-- Benchmarks That Are Created
------------------------------------------------------------

section Listings

variable {output : Path} {r : Location}
variable {benchmarks listed : List Benchmark}
variable {found found' : List Event}

/- What is found are the entries of the root that count. -/
theorem mem_discover_iff
    (hRoot : d.resolve root = .ok (.present r .folder))
    (hDiscover :
      discover engine selection root (some output) d =
        .ok (benchmarks, found))
    (b : Benchmark) :
    b ∈ benchmarks ↔
      ∃ n, (∃ e, d.entry? (n :: r) = some e) ∧
        standing engine selection root (d.locate? output) d
            n =
          .benchmark ∧
        b = benchmarkOf root n := by
  rcases benchmarks_of_discover hDiscover with
    ⟨l, hResolve, rfl⟩
  cases hRoot.symm.trans hResolve
  simp only [mem_benchmarksOf_iff, Disk.mem_children_iff,
    Option.bind_some]

/-
  A folder in the root that was there has its entry there,
  if it has one after folders were gained.
-/
theorem Disk.GainsFolders.exists_entry
    (hGains : d.GainsFolders d')
    (hRoot : d.resolve root = .ok (.present r .folder))
    {name : Name}
    (hFolder : d.IsFolder (root.join name))
    {e : Entry}
    (hEntry : d'.entry? (name :: r) = some e) :
    ∃ e', d.entry? (name :: r) = some e' := by
  rcases hGains.entry_or (name :: r) with
    hSame | ⟨hNone, -, _, _, hEq, hProper⟩
  · exact ⟨e, hSame.symm.trans hEntry⟩
  · exfalso
    rw [← List.head_eq_of_cons_eq hEq] at hProper
    rcases (Disk.isFolder_iff d _).mp hFolder with
      ⟨m, hResolve⟩
    have hPlace :=
      Disk.place_of_resolve_join hRoot hProper
        (by simp [hNone]) hResolve
    have hOn : (Disk.Spot.present m .folder).IsOn d :=
      Disk.resolveTo_isOn hResolve
    rw [show m = name :: r from hPlace] at hOn
    cases hNone.symm.trans hOn

/-
  A benchmark that is found after folders were gained was
  found before, if it was a folder.
-/
theorem mem_listed_of_isFolder
    (hGains : d.GainsFolders d')
    (hRoot : d.IsFolder root)
    (hListed :
      discover engine selection root (some output) d =
        .ok (listed, found))
    (hDiscover :
      discover engine selection root (some output) d' =
        .ok (benchmarks, found'))
    {b : Benchmark}
    (hMem : b ∈ benchmarks)
    (hFolder : d.IsFolder b.dir) :
    b ∈ listed := by
  rcases (Disk.isFolder_iff d root).mp hRoot with
    ⟨r, hResolve⟩
  have hResolve' : d'.resolve root = .ok (.present r .folder) :=
    hGains.keeps.resolve_eq hResolve
      (hGains.keeps.folder (Disk.resolveTo_isOn hResolve))
  rcases (mem_discover_iff hResolve' hDiscover b).mp hMem with
    ⟨n, ⟨e, hEntry⟩, hStanding, rfl⟩
  rcases standing_eq_benchmark_iff.mp hStanding with
    ⟨hShown, -, hOther, hSelects⟩
  refine (mem_discover_iff hResolve hListed _).mpr
    ⟨n, hGains.exists_entry hResolve hFolder hEntry, ?_, rfl⟩
  refine standing_eq_benchmark_iff.mpr
    ⟨hShown, hFolder, ?_, hSelects⟩
  -- what was the folder for the results still is
  rintro ⟨hSome, hLocate⟩
  rcases Option.ne_none_iff_exists'.mp hSome with
    ⟨l, hOutput⟩
  have hOutput' := hGains.keeps.locate?_eq hOutput
  apply hOther
  rw [hOutput']
  exact ⟨Option.some_ne_none l,
    hGains.keeps.locate?_eq (hLocate.trans hOutput)⟩

/-
  A benchmark that was found is found after folders were
  gained, unless it is the folder for the results then.
-/
theorem mem_or_output_of_mem_listed
    (hGains : d.GainsFolders d')
    (hListed :
      discover engine selection root (some output) d =
        .ok (listed, found))
    (hDiscover :
      discover engine selection root (some output) d' =
        .ok (benchmarks, found'))
    {b : Benchmark}
    (hMem : b ∈ listed) :
    b ∈ benchmarks ∨
      d'.locate? b.dir = d'.locate? output := by
  rcases benchmarks_of_discover hListed with
    ⟨r, hResolve, -⟩
  have hResolve' : d'.resolve root = .ok (.present r .folder) :=
    hGains.keeps.resolve_eq hResolve
      (hGains.keeps.folder (Disk.resolveTo_isOn hResolve))
  rcases (mem_discover_iff hResolve hListed b).mp hMem with
    ⟨n, ⟨e, hEntry⟩, hStanding, rfl⟩
  rcases standing_eq_benchmark_iff.mp hStanding with
    ⟨hShown, hFolder, -, hSelects⟩
  by_cases hOutput :
      d'.locate? output ≠ none ∧
        d'.locate? (root.join n) = d'.locate? output
  · exact .inr hOutput.2
  · rcases hGains.keeps.kept _ e hEntry with ⟨e', hEntry', -⟩
    exact .inl
      ((mem_discover_iff hResolve' hDiscover _).mpr
        ⟨n, ⟨e', hEntry'⟩,
          standing_eq_benchmark_iff.mpr
            ⟨hShown, hGains.keeps.isFolder hFolder, hOutput,
              hSelects⟩,
          rfl⟩)

/-
  On a plain disk, a benchmark that was no folder was
  created around the folder for the results.
-/
theorem Disk.IsPlain.exists_around_of_new
    (hPlain : d.IsPlain)
    (hRoot : d.IsFolder root)
    (hDiscover :
      discover engine selection root (some output)
          (d.makeFolders output).1 =
        .ok (benchmarks, found))
    {b : Benchmark}
    (hMem : b ∈ benchmarks)
    (hNew : ¬ d.IsFolder b.dir) :
    ∃ m, d.entry? m = none ∧
      (d.makeFolders output).1.resolve b.dir =
        .ok (.present m .folder) ∧
      ∃ p ∈ output.around,
        (d.makeFolders output).1.locate? p = some m := by
  have hGrows := hPlain.makeFolders_grows output
  rcases standsIn_of_mem_discover hGrows.plain hDiscover with
    ⟨r, hRootAt', hFound⟩
  rcases hFound b hMem with ⟨n, rfl, hProper, -, hResolve⟩
  have hAt' := hGrows.plain.folderAt_of_resolve hRootAt'
  rcases hGrows.entry_or (n :: r) with
    hSame | ⟨hNone, -, p, hPath, hLocate⟩
  · -- the benchmark would have been there before
    exfalso
    apply hNew
    rcases (Disk.isFolder_iff d root).mp hRoot with
      ⟨l, hRootAt⟩
    have hAt := hPlain.folderAt_of_resolve hRootAt
    cases hAt'.unique (hAt.of_keeps hGrows.keeps)
    rw [benchmarkOf, hPlain.resolve_join_congr hGrows.plain
      hAt hAt' hProper.1 hSame] at hResolve
    exact (Disk.isFolder_iff d _).mpr ⟨_, hResolve⟩
  · refine ⟨_, hNone, hResolve, p, ?_, hLocate⟩
    rcases List.mem_cons.mp hPath with rfl | hAround
    · have hSelf := (Disk.locate?_eq_some_iff _ _ _).mpr
        ⟨_, hResolve⟩
      exact absurd hSelf
        (ne_output_of_mem_discover hDiscover hLocate hMem)
    · exact hAround

end Listings

/-
  What a run finds in its root is compared with what is
  listed there before the run. A summary has the names of
  all benchmarks that are found, and no others. A benchmark
  that was listed is found unless it is the folder for the
  results after this was created. A benchmark that was not
  listed was no folder before. On a plain disk, it is a
  folder that was missing and is created around the folder
  for the results; so only listed benchmarks are found if
  nothing around that folder is missing in the root.
-/
theorem run_finds_listed_or_created
    (hRoot : d.IsFolder root)
    (hValid : s.validate = .ok ())
    (hFilter : selectionOf engine s = .ok selection)
    (hMade : (d.makeFolders s.outputDir).2 = none) :
    let d₁ := (d.makeFolders s.outputDir).1
    let last := run engine root s d workers
    ∃ listed benchmarks found found',
      discover engine selection root (some s.outputDir) d =
        .ok (listed, found) ∧
      discover engine selection root (some s.outputDir) d₁ =
        .ok (benchmarks, found') ∧
      (workers s.jobs = .ok () →
        last.result =
            (examineAll s benchmarks { } d₁).result ∧
          last.disk =
            (examineAll s benchmarks { } d₁).disk) ∧
      (∀ summary,
        last.result = .ok summary →
          summary.names.Perm (benchmarks.map Benchmark.name)) ∧
      (∀ b ∈ listed,
        b ∈ benchmarks ∨
          d₁.locate? b.dir = d₁.locate? s.outputDir) ∧
      (∀ b ∈ benchmarks, b ∈ listed ∨ ¬ d.IsFolder b.dir) ∧
      (d.IsPlain →
        ∀ b ∈ benchmarks,
          b ∈ listed ∨
            ∃ m, d.entry? m = none ∧
              d₁.resolve b.dir = .ok (.present m .folder) ∧
              ∃ p ∈ s.outputDir.around,
                d₁.locate? p = some m) := by
  intro d₁ last
  have hGains : d.GainsFolders d₁ :=
    Disk.makeFolders_gains d s.outputDir
  rcases discover_of_isFolder engine selection
      (some s.outputDir) hRoot with
    ⟨listed, found, hListed⟩
  rcases discover_of_isFolder engine selection
      (some s.outputDir) (hGains.keeps.isFolder hRoot) with
    ⟨benchmarks, found', hDiscover⟩
  have hListedOrNew :
      ∀ b ∈ benchmarks, b ∈ listed ∨ ¬ d.IsFolder b.dir := by
    intro b hMem
    by_cases hFolder : d.IsFolder b.dir
    · exact .inl
        (mem_listed_of_isFolder hGains hRoot hListed hDiscover
          hMem hFolder)
    · exact .inr hFolder
  refine
    ⟨listed, benchmarks, found, found', hListed, hDiscover,
      fun hWorkers =>
        run_of_discover hValid hFilter hMade hWorkers
          hDiscover,
      ?_, ?_, hListedOrNew, ?_⟩
  · intro summary hOk
    rcases run_eq_ok hOk with
      ⟨_, _, _, -, -, -, hWorkers, -⟩
    have hExamined :
        (examineAll s benchmarks { } d₁).result =
          .ok summary :=
      (run_of_discover hValid hFilter hMade hWorkers
        hDiscover).1.symm.trans hOk
    have hSummary :=
      (examineAll_of_writes
        (writes_of_examineAll hExamined)).1
    cases hExamined.symm.trans hSummary
    exact gathered_names_perm s benchmarks d₁
  · intro b hMem
    exact mem_or_output_of_mem_listed hGains hListed hDiscover
      hMem
  · intro hPlain b hMem
    rcases hListedOrNew b hMem with hOld | hNew
    · exact .inl hOld
    · exact .inr
        (hPlain.exists_around_of_new hRoot hDiscover hMem hNew)

def emptyRootDisk : Disk :=
  { entries := [(["in"], .folder)] }

/- Settings that put the results deep into this root. -/
def deepSettings : Settings :=
  { outputDir := "in/a/out", checkpoints := 1 }

/- The disk with the folder for these results. -/
def filledRootDisk : Disk :=
  { entries :=
      [ (["in"], .folder),
        (["a", "in"], .folder),
        (["out", "a", "in"], .folder) ] }

/- The folder that was created in the root. -/
def createdBenchmark : Benchmark :=
  ⟨"a", "in/a"⟩

/- A folder between the root and the results is created. -/
theorem makeFolders_emptyRootDisk :
    emptyRootDisk.makeFolders deepSettings.outputDir =
      (filledRootDisk, none) := by
  decide +kernel

theorem discover_emptyRootDisk :
    discover Pattern.engine Selection.all "in"
        (some deepSettings.outputDir) emptyRootDisk =
      .ok ([], []) :=
  discover_of_sorted Pattern.engine Selection.all _ [] rfl
    List.Pairwise.nil

/- All that the run finds there is what it has created. -/
theorem run_finds_created_emptyRootDisk :
    emptyRootDisk.IsFolder "in" ∧
      deepSettings.validate = .ok () ∧
      selectionOf Pattern.engine deepSettings =
        .ok Selection.all ∧
      emptyRootDisk.makeFolders deepSettings.outputDir =
        (filledRootDisk, none) ∧
      ∃ benchmarks found,
        discover Pattern.engine Selection.all "in"
            (some deepSettings.outputDir) filledRootDisk =
          .ok (benchmarks, found) ∧
        ∀ b ∈ benchmarks,
          ∃ m, emptyRootDisk.entry? m = none ∧
            filledRootDisk.resolve b.dir =
              .ok (.present m .folder) := by
  have hRoot : emptyRootDisk.IsFolder "in" := by decide
  have hValid : deepSettings.validate = .ok () := rfl
  have hFilter :
      selectionOf Pattern.engine deepSettings =
        .ok Selection.all := rfl
  have hMade :
      (emptyRootDisk.makeFolders
        deepSettings.outputDir).2 = none := by
    rw [makeFolders_emptyRootDisk]
  have hFinds :=
    @run_finds_listed_or_created _ Pattern.engine
      Selection.all "in" deepSettings emptyRootDisk
      Workers.atHand hRoot hValid hFilter hMade
  rw [makeFolders_emptyRootDisk] at hFinds
  rcases hFinds with
    ⟨listed, benchmarks, _, found', hListed, hDiscover, -, -,
      -, -, hPlain⟩
  refine
    ⟨hRoot, hValid, hFilter, makeFolders_emptyRootDisk,
      benchmarks, found', hDiscover, ?_⟩
  intro b hMem
  cases discover_emptyRootDisk.symm.trans hListed
  rcases hPlain (by decide) b hMem with
    hOld | ⟨m, hNone, hResolve, -⟩
  · cases hOld
  · exact ⟨m, hNone, hResolve⟩

/- It is reported as a benchmark without a baseline. -/
theorem run_reports_what_it_created :
    emptyRootDisk.IsFolder "in" ∧
      deepSettings.validate = .ok () ∧
      selectionOf Pattern.engine deepSettings =
        .ok Selection.all ∧
      discover Pattern.engine Selection.all "in"
          (some deepSettings.outputDir) emptyRootDisk =
        .ok ([], []) ∧
      (run Pattern.engine "in" deepSettings
          emptyRootDisk).result =
        .ok
          { failures :=
              [⟨createdBenchmark.name,
                (Fault.missingBaseline
                  "in/a/10M.csv").message⟩] } := by
  have hRoot : emptyRootDisk.IsFolder "in" := by decide
  have hValid : deepSettings.validate = .ok () := rfl
  have hFilter :
      selectionOf Pattern.engine deepSettings =
        .ok Selection.all := rfl
  have hMade :
      (emptyRootDisk.makeFolders
        deepSettings.outputDir).2 = none := by
    rw [makeFolders_emptyRootDisk]
  have hDiscover :
      discover Pattern.engine Selection.all "in"
          (some deepSettings.outputDir) filledRootDisk =
        .ok ([createdBenchmark], []) :=
    discover_of_sorted Pattern.engine Selection.all _ ["a"]
      rfl (List.pairwise_singleton _ _)
  have hLoad :
      loadBaseline filledRootDisk
          (deepSettings.baselinePath createdBenchmark.dir) =
        .error (.missingBaseline "in/a/10M.csv") := rfl
  refine
    ⟨hRoot, hValid, hFilter, discover_emptyRootDisk, ?_⟩
  rw [run_eq_runSelected hValid hFilter hMade,
    makeFolders_emptyRootDisk, runSelected, hDiscover]
  simp only [examineAll, examine_of_load_error hLoad]
  rfl

end PageHeat
