import PageHeat.Proofs.Analysis.Results

/-
  What a second run on a plain disk comes to.

  Everything that the first run has left stays as it is. The
  folder for the results is there, the same benchmarks are
  found, since the result files are no folders, and they are
  read as before. Each result file gets the contents that it
  got, in the same order. So the second run gives the same
  summary and leaves the disk of the first one.

  Key lemmas include:
    * `settled_settled`
    * `exists_children_settled`
    * `standing_of_differsIn`
    * `discover_of_differsIn`
    * `RunSettles.discover_again`
    * `run_again`
-/

------------------------------------------------------------
-- Leaving The Same Results
------------------------------------------------------------

namespace PageHeat

section Leaving

variable {s : Settings} {benchmarks : List Benchmark}
variable {l : Location} {d e : Disk}

/- Where a result is left already, no location is new. -/
theorem map_fst_settled
    (hThere :
      ∀ b ∈ benchmarks, contentAt? s b d ≠ none →
        e.entry? (b.place l) ≠ none) :
    (settled s l d benchmarks e).entries.map Prod.fst =
      e.entries.map Prod.fst := by
  induction benchmarks generalizing e with
  | nil => rfl
  | cons b rest ih =>
      rw [List.forall_mem_cons] at hThere
      rw [settled, List.foldl_cons, ← settled]
      cases hContent : contentAt? s b d with
      | none => exact ih hThere.2
      | some content =>
          have hNe : b.place l ≠ [] := List.cons_ne_nil _ _
          rw [hContent] at hThere
          have hEntry := hThere.1 (Option.some_ne_none _)
          rw [Disk.leave, ih ?_]
          · rw [← Option.isSome_iff_ne_none,
              Disk.entry?_of_ne_nil e hNe,
              Disk.isSome_lookup_iff] at hEntry
            rw [Disk.put, Disk.map_fst_setEntry,
              if_pos hEntry]
          · intro c hMem hSome
            rw [Disk.entry?_put e hNe]
            split
            · exact Option.some_ne_none _
            · exact hThere.2 c hMem hSome

/- A result that is left has an entry. -/
theorem entry?_place_settled
    (s : Settings)
    (l : Location)
    (d e : Disk)
    {b : Benchmark}
    (hMem : b ∈ benchmarks)
    (hContent : contentAt? s b d ≠ none) :
    Disk.entry? (settled s l d benchmarks e) (b.place l) ≠
      none := by
  rw [entry?_settled]
  cases hLast : lastContent? s l d benchmarks (b.place l) with
  | some content => exact Option.some_ne_none _
  | none =>
      exfalso
      rw [lastContent?, List.getLast?_eq_none_iff,
        List.filterMap_eq_nil_iff] at hLast
      refine hContent (hLast b ?_)
      rw [List.mem_filter]
      exact ⟨hMem, decide_eq_true rfl⟩

/- Leaving the same results again changes nothing. -/
theorem settled_settled
    (hApart : ∀ b ∈ benchmarks, Apart s b l d)
    (hPlain : d.IsPlain) :
    settled s l d benchmarks (settled s l d benchmarks d) =
      settled s l d benchmarks d := by
  have hOnce : d.DiffersIn l (settled s l d benchmarks d) :=
    settled_differsIn hApart (.refl hPlain l)
  have hTwice := settled_differsIn hApart hOnce
  have hEntries :
      (settled s l d benchmarks
          (settled s l d benchmarks d)).entries =
        (settled s l d benchmarks d).entries := by
    refine Disk.eq_of_lookup
      (map_fst_settled fun b hMem hContent =>
        entry?_place_settled s l d d hMem hContent)
      hOnce.plain.distinct ?_
    intro m hMem
    -- on a plain disk, the top is no location of a list
    have hNe : m ≠ [] := by
      rintro rfl
      rcases List.mem_map.mp hMem with ⟨entry, hIn, hEq⟩
      have hFits := hOnce.plain.fits entry hIn
      rw [hEq] at hFits
      exact hFits
    rw [← Disk.entry?_of_ne_nil _ hNe,
      ← Disk.entry?_of_ne_nil _ hNe, entry?_settled,
      entry?_settled, ← Option.or_assoc, Option.or_self]
  have hHere :=
    hTwice.keeps.here_eq.trans hOnce.keeps.here_eq.symm
  have hLimits :=
    hTwice.keeps.limits_eq.trans hOnce.keeps.limits_eq.symm
  exact Disk.eq_of_parts hEntries hHere hLimits

/- New names in a folder come behind the others. -/
theorem exists_children_settled
    (s : Settings)
    (l : Location)
    (d : Disk)
    (benchmarks : List Benchmark)
    (e : Disk)
    (r : Location) :
    ∃ more,
      (settled s l d benchmarks e).children r =
        e.children r ++ more ∧
      ∀ n ∈ more, e.entry? (n :: r) = none := by
  induction benchmarks generalizing e with
  | nil => exact ⟨[], (List.append_nil _).symm, by simp⟩
  | cons b rest ih =>
      rw [settled, List.foldl_cons, ← settled]
      cases hContent : contentAt? s b d with
      | none => exact ih e
      | some content =>
          rw [Disk.leave]
          have hNe : b.place l ≠ [] := List.cons_ne_nil _ _
          rcases e.children_put (Utf8.encode b.name) l r
              (.file (Stream.ofBytes content)) with
            ⟨first, hFirst, hNew⟩
          rcases ih
              (e.put (b.place l)
                (.file (Stream.ofBytes content))) with
            ⟨others, hOthers, hNew'⟩
          refine ⟨first ++ others, ?_, ?_⟩
          · rw [hOthers, Benchmark.place, hFirst,
              List.append_assoc]
          · intro n hMem
            rcases List.mem_append.mp hMem with hIn | hIn
            · exact hNew n hIn
            · have hFree := hNew' n hIn
              rw [Disk.entry?_put e hNe] at hFree
              split at hFree
              · cases hFree
              · exact hFree

end Leaving

------------------------------------------------------------
-- Finding The Same Benchmarks
------------------------------------------------------------

section Discovery

variable {α : Type} {engine : PatternEngine α}
variable {selection : Selection α}
variable {root : Path} {d d' : Disk} {l r : Location}

/- Benchmarks are told by what the names are judged. -/
theorem benchmarksOf_congr
    (root : Path)
    {judge judge' : Name → Standing}
    {names : List Name}
    (hJudge : ∀ name ∈ names, judge' name = judge name) :
    benchmarksOf root judge' names =
      benchmarksOf root judge names := by
  unfold benchmarksOf
  congr 2
  apply List.filter_congr
  intro name hMem
  rw [hJudge name hMem]

/- So are the events of finding them. -/
theorem discoveryEvents_congr
    (root : Path)
    {judge judge' : Name → Standing}
    {names : List Name}
    (hJudge : ∀ name ∈ names, judge' name = judge name) :
    discoveryEvents root judge' names =
      discoveryEvents root judge names := by
  unfold discoveryEvents
  apply List.filterMap_congr
  intro name hMem
  rw [hJudge name hMem]

/- Nothing is found, or told, at names that are no folders. -/
theorem discovery_append
    (root : Path)
    {judge : Name → Standing}
    (names : List Name)
    {more : List Name}
    (hMore :
      ∀ n ∈ more, judge n = .hidden ∨ judge n = .noFolder) :
    benchmarksOf root judge (names ++ more) =
        benchmarksOf root judge names ∧
      discoveryEvents root judge (names ++ more) =
        discoveryEvents root judge names := by
  have hNone :
      more.filter (fun n => judge n = .benchmark) = [] := by
    rw [List.filter_eq_nil_iff]
    intro n hMem
    rcases hMore n hMem with hJudge | hJudge
    · simp [hJudge]
    · simp [hJudge]
  constructor
  · rw [benchmarksOf, List.filter_append, hNone,
      List.append_nil]
    rfl
  · unfold discoveryEvents
    rw [List.filterMap_append, List.append_right_eq_self,
      List.filterMap_eq_nil_iff]
    intro n hMem
    rcases hMore n hMem with hJudge | hJudge
    · rw [hJudge]
    · rw [hJudge]

/- An entry of the root is looked at by where it leads. -/
theorem standing_congr
    (output : Option Location)
    {name : Name}
    (hResolve :
      d'.resolve (root.join name) =
        d.resolve (root.join name)) :
    standing engine selection root output d' name =
      standing engine selection root output d name := by
  have hFolder :
      d'.IsFolder (root.join name) ↔
        d.IsFolder (root.join name) := by
    rw [Disk.isFolder_iff, Disk.isFolder_iff, hResolve]
  have hLocate :
      d'.locate? (root.join name) =
        d.locate? (root.join name) := by
    rw [Disk.locate?, Disk.locate?, hResolve]
  unfold standing
  simp only [hFolder, hLocate]

/- An entry that is no folder is hidden, or not looked at. -/
theorem standing_of_not_folder
    (engine : PatternEngine α)
    (selection : Selection α)
    (output : Option Location)
    {name : Name}
    (hOther : ¬ d.IsFolder (root.join name)) :
    standing engine selection root output d name =
      if (Path.shown name).head? = some '.' then .hidden
      else .noFolder := by
  simp only [standing, if_pos hOther]

/- On a plain disk, a name in a folder is told by its entry. -/
theorem Disk.IsPlain.not_isFolder_join
    (hPlain : d.IsPlain)
    (hAt : d.FolderAt root r)
    {name : Name}
    (hProper : Path.IsProper name)
    (hOther : d.entry? (name :: r) ≠ some .folder) :
    ¬ d.IsFolder (root.join name) := by
  intro hFolder
  rcases (Disk.isFolder_iff d _).mp hFolder with
    ⟨m, hResolve⟩
  have hPlace :=
    hPlain.place_of_resolve_join hAt hProper hResolve
  have hOn : (Disk.Spot.present m .folder).IsOn d :=
    Disk.resolveTo_isOn hResolve
  cases hPlace
  exact hOther hOn

/-
  Files that change in one folder make no entry of the root
  look different: at most a file takes the place of another,
  or of nothing.
-/
theorem standing_of_differsIn
    (engine : PatternEngine α)
    (selection : Selection α)
    (hPlain : d.IsPlain)
    (hDiffers : d.DiffersIn l d')
    (hAt : d.FolderAt root r)
    (output : Option Location)
    {name : Name}
    (hProper : Path.IsProper name) :
    standing engine selection root output d' name =
      standing engine selection root output d name := by
  have hAt' := hAt.of_keeps hDiffers.keeps
  rcases hDiffers.same_or (name :: r) with
    hSame | ⟨_, content, -, hFile⟩
  · exact standing_congr output
      (hPlain.resolve_join_congr hDiffers.plain hAt hAt'
        hProper.1 hSame)
  · have hOther' :
        d'.entry? (name :: r) ≠ some .folder := by
      rw [hFile]
      exact fun hFalse => by cases hFalse
    have hOther : d.entry? (name :: r) ≠ some .folder :=
      fun hFolder =>
        hOther' ((hDiffers.folder_iff _).mpr hFolder)
    rw [standing_of_not_folder engine selection output
        (hPlain.not_isFolder_join hAt hProper hOther),
      standing_of_not_folder engine selection output
        (hDiffers.plain.not_isFolder_join hAt' hProper
          hOther')]

/-
  Where files change in the folder for the results, and new
  names come behind the others, the same is found.
-/
theorem discover_of_differsIn
    (engine : PatternEngine α)
    (selection : Selection α)
    (hPlain : d.IsPlain)
    (hDiffers : d.DiffersIn l d')
    {output : Path}
    (hOutput : d.resolve output = .ok (.present l .folder))
    (hRoot : d.resolve root = .ok (.present r .folder))
    {more : List Name}
    (hChildren : d'.children r = d.children r ++ more)
    (hNew : ∀ n ∈ more, d.entry? (n :: r) = none) :
    discover engine selection root (some output) d' =
      discover engine selection root (some output) d := by
  have hLocate : d.locate? output = some l :=
    (Disk.locate?_eq_some_iff d _ l).mpr ⟨_, hOutput⟩
  have hLocate' := hDiffers.keeps.locate?_eq hLocate
  have hAt := hPlain.folderAt_of_resolve hRoot
  have hRoot' :=
    hDiffers.keeps.resolve_eq hRoot
      (hDiffers.keeps.folder hAt.entry?_eq)
  have hProper (n : Name) (hMem : n ∈ d'.children r) :
      Path.IsProper n := by
    rcases (Disk.mem_children_iff d' r n).mp hMem with
      ⟨e, hEntry⟩
    exact hDiffers.plain.isProper hEntry
  rw [hChildren] at hProper
  have hJudge (n : Name) (hMem : n ∈ d.children r ++ more) :=
    standing_of_differsIn engine selection hPlain hDiffers hAt
      (some l) (hProper n hMem)
  have hMore (n : Name) (hMem : n ∈ more) :
      standing engine selection root (some l) d n =
          .hidden ∨
        standing engine selection root (some l) d n =
          .noFolder := by
    have hOther : d.entry? (n :: r) ≠ some .folder := by
      rw [hNew n hMem]
      exact (Option.some_ne_none _).symm
    rw [standing_of_not_folder engine selection (some l)
      (hPlain.not_isFolder_join hAt
        (hProper n (List.mem_append_right _ hMem)) hOther)]
    split
    · exact .inl rfl
    · exact .inr rfl
  rcases discovery_append root (d.children r) hMore with
    ⟨hBenchmarks, hEvents⟩
  rw [discover_of_list engine selection (some output)
      (Disk.list_eq_ok_iff.mpr ⟨r, hRoot, rfl⟩),
    discover_of_list engine selection (some output)
      (Disk.list_eq_ok_iff.mpr ⟨r, hRoot', rfl⟩),
    hChildren]
  simp only [Option.bind_some, hLocate, hLocate']
  rw [benchmarksOf_congr root hJudge,
    discoveryEvents_congr root hJudge, hBenchmarks, hEvents]

end Discovery

------------------------------------------------------------
-- Running Again
------------------------------------------------------------

section Runs

variable {α : Type} {engine : PatternEngine α}
variable {selection : Selection α}
variable {root : Path} {s : Settings} {d : Disk}
variable {workers : Workers} {summary : Summary}
variable {benchmarks : List Benchmark} {found : List Event}
variable {l : Location}

/-
  The same benchmarks are found in the root after they were
  examined.
-/
theorem RunSettles.discover_again
    (hSettles :
      RunSettles engine root s d workers summary l selection
        benchmarks found) :
    discover engine selection root (some s.outputDir)
        (run engine root s d workers).disk =
      .ok (benchmarks, found) := by
  rcases benchmarks_of_discover hSettles.discovers with
    ⟨r, hRoot, -⟩
  rcases exists_children_settled s l
      (d.makeFolders s.outputDir).1 benchmarks
      (d.makeFolders s.outputDir).1 r with
    ⟨more, hChildren, hNew⟩
  rw [← hSettles.disk_eq] at hChildren
  exact
    (discover_of_differsIn engine selection
      hSettles.grows.plain hSettles.differsIn hSettles.output
      hRoot hChildren hNew).trans hSettles.discovers

/- Such a run is repeated step by step. -/
theorem RunSettles.run_eq
    (hSettles :
      RunSettles engine root s d workers summary l selection
        benchmarks found)
    (hOutput : s.outputDir ≠ []) :
    Disk.makeFolders (run engine root s d workers).disk
        s.outputDir =
      ((run engine root s d workers).disk, none) ∧
    run engine root s (run engine root s d workers).disk
        workers =
      run engine root s d workers := by
  have hDiffers := hSettles.differsIn
  have hThere :
      Disk.IsFolder (run engine root s d workers).disk
        s.outputDir :=
    hDiffers.keeps.isFolder
      ((Disk.isFolder_iff _ _).mpr ⟨l, hSettles.output⟩)
  have hMade :=
    hDiffers.plain.makeFolders_of_isFolder hOutput hThere
  refine ⟨hMade, ?_⟩
  have hFirst :
      run engine root s d workers =
        runSelected engine selection root s
          (d.makeFolders s.outputDir).1 workers :=
    run_eq_runSelected hSettles.valid hSettles.filter
      hSettles.made
  have hSecond :
      run engine root s (run engine root s d workers).disk
          workers =
        runSelected engine selection root s
          (Disk.makeFolders (run engine root s d workers).disk
            s.outputDir).1
          workers :=
    run_eq_runSelected hSettles.valid hSettles.filter
      (congrArg Prod.snd hMade)
  have hRefl := Disk.DiffersIn.refl hSettles.grows.plain l
  have hExamined :
      examineAll s benchmarks { }
          (run engine root s d workers).disk =
        examineAll s benchmarks { }
          (d.makeFolders s.outputDir).1 := by
    rw [examineAll_settled hSettles.apart hSettles.writes
        hDiffers,
      examineAll_settled hSettles.apart hSettles.writes hRefl]
    simp only [hSettles.disk_eq,
      settled_settled hSettles.apart hSettles.grows.plain]
  rw [hMade] at hSecond
  refine (hSecond.trans ?_).trans hFirst.symm
  rw [runSelected, runSelected, hSettles.discover_again,
    hSettles.discovers]
  simp only [hExamined, hSettles.has_workers]

/-
  A run on a plain disk that gives a summary gives the same
  summary when it is repeated on the disk that it has left,
  and it leaves this disk as it is. It finds the same
  benchmarks, and tells the same.
-/
theorem run_again
    (hPlain : d.IsPlain)
    (hOutput : s.outputDir ≠ [])
    (hRun :
      (run engine root s d workers).result = .ok summary) :
    let first := run engine root s d workers
    let second := run engine root s first.disk workers
    second.result = .ok summary ∧
      second.disk = first.disk ∧
      second.events = first.events ∧
      ∃ selection found,
        selectionOf engine s = .ok selection ∧
        discover engine selection root (some s.outputDir)
            (d.makeFolders s.outputDir).1 =
          .ok found ∧
        discover engine selection root (some s.outputDir)
            (first.disk.makeFolders s.outputDir).1 =
          .ok found := by
  intro first second
  rcases exists_runSettles hPlain hOutput hRun with
    ⟨l, selection, benchmarks, found, hSettles⟩
  rcases hSettles.run_eq hOutput with ⟨hMade, hSame⟩
  have hEq : second = first := hSame
  refine
    ⟨by rw [hEq, hRun], by rw [hEq], by rw [hEq], selection,
      (benchmarks, found), hSettles.filter,
      hSettles.discovers, ?_⟩
  rw [hMade]
  exact hSettles.discover_again

end Runs

/- A small disk whose results are put inside a benchmark. -/
theorem run_again_smallDisk :
    let s := { smallSettings with outputDir := "in/b/new" }
    let first := run Pattern.engine "in" s smallDisk
    let second := run Pattern.engine "in" s first.disk
    smallDisk.IsPlain ∧
      s.outputDir ≠ [] ∧
      ∃ summary,
        first.result = .ok summary ∧
        second.result = .ok summary ∧
        second.disk = first.disk := by
  intro s first second
  have hPlain : smallDisk.IsPlain := by decide
  have hOutput : s.outputDir ≠ [] := by decide
  have hMade : (smallDisk.makeFolders s.outputDir).2 = none := by
    decide
  rcases @exists_run_eq_ok _ Pattern.engine Selection.all "in"
      s smallDisk Workers.atHand hPlain rfl (by decide) hMade
      rfl rfl rfl with
    ⟨summary, hRun⟩
  rcases run_again hPlain hOutput hRun with
    ⟨hResult, hDisk, -, -⟩
  exact ⟨hPlain, hOutput, summary, hRun, hResult, hDisk⟩

end PageHeat
