import Mathlib.Data.List.Nodup
import PageHeat.Analysis.Discovery
import PageHeat.Proofs.Disk.Folders
import PageHeat.Proofs.Text.Order

/-
  Which benchmarks are found.

  The benchmarks belong to the names in the root that are
  judged so, one to each. They are ordered by their names,
  and those of one name are in the order of the listing. On
  a plain disk, each of them is a folder of the root, and
  none of them is the folder for the results.

  Key definitions include:
    * `Benchmark.StandsIn`

  Key lemmas include:
    * `discover_of_list`
    * `discover_of_isFolder`
    * `mem_benchmarksOf_iff`
    * `nodup_of_discover`
    * `pairwise_atMost_discover`
    * `filter_name_benchmarksOf`
    * `standsIn_of_mem_discover`
    * `ne_output_of_mem_discover`
-/

------------------------------------------------------------
-- Listing
------------------------------------------------------------

namespace PageHeat

variable {α : Type} {engine : PatternEngine α}
variable {selection : Selection α}
variable {root : Path} {output : Option Path}
variable {d : Disk}
variable {benchmarks : List Benchmark} {found : List Event}

/- What is found where the root can be listed. -/
theorem discover_of_list
    (engine : PatternEngine α)
    (selection : Selection α)
    (output : Option Path)
    {names : List Name}
    (hList : d.list root = .ok names) :
    let judge :=
      standing engine selection root (output.bind d.locate?) d
    discover engine selection root output d =
      .ok
        (benchmarksOf root judge names,
          discoveryEvents root judge names) := by
  rw [discover, hList]

/- A folder can be searched for benchmarks. -/
theorem discover_of_isFolder
    (engine : PatternEngine α)
    (selection : Selection α)
    (output : Option Path)
    (hRoot : d.IsFolder root) :
    ∃ benchmarks found,
      discover engine selection root output d =
        .ok (benchmarks, found) := by
  rcases (Disk.isFolder_iff d root).mp hRoot with
    ⟨l, hResolve⟩
  have hList := Disk.list_eq_ok_iff.mpr ⟨l, hResolve, rfl⟩
  exact ⟨_, _, discover_of_list engine selection output hList⟩

/- What was found are the judged children of the root. -/
theorem benchmarks_of_discover
    (hDiscover :
      discover engine selection root output d =
        .ok (benchmarks, found)) :
    ∃ l,
      d.resolve root = .ok (.present l .folder) ∧
        benchmarks =
          benchmarksOf root
            (standing engine selection root
              (output.bind d.locate?) d)
            (d.children l) := by
  cases hList : d.list root with
  | error fault =>
      rw [discover, hList] at hDiscover
      cases hDiscover
  | ok names =>
      rw [discover_of_list engine selection output hList]
        at hDiscover
      cases hDiscover
      rcases Disk.list_eq_ok_iff.mp hList with
        ⟨l, hResolve, rfl⟩
      exact ⟨l, hResolve, rfl⟩

/- The benchmarks belong to the names that are judged so. -/
theorem mem_benchmarksOf_iff
    (root : Path)
    (judge : Name → Standing)
    (names : List Name)
    (b : Benchmark) :
    b ∈ benchmarksOf root judge names ↔
      ∃ n ∈ names, judge n = .benchmark ∧
        b = benchmarkOf root n := by
  rw [benchmarksOf, List.mem_mergeSort, List.mem_map]
  constructor
  · rintro ⟨n, hMem, rfl⟩
    rw [List.mem_filter] at hMem
    exact ⟨n, hMem.1, of_decide_eq_true hMem.2, rfl⟩
  · rintro ⟨n, hName, hJudge, rfl⟩
    refine ⟨n, ?_, rfl⟩
    rw [List.mem_filter]
    exact ⟨hName, decide_eq_true hJudge⟩

/- Each of these names gives one benchmark. -/
theorem benchmarksOf_perm_map
    (root : Path)
    (judge : Name → Standing)
    (names : List Name) :
    (benchmarksOf root judge names).Perm
      ((names.filter fun n => judge n = .benchmark).map
        (benchmarkOf root)) :=
  List.mergeSort_perm _ _

/- Benchmarks of some names are called by what is shown. -/
theorem perm_names
    {names : List Name}
    (hPerm : benchmarks.Perm (names.map (benchmarkOf root))) :
    (benchmarks.map Benchmark.name).Perm
      (names.map Path.shown) := by
  refine (hPerm.map Benchmark.name).trans (.of_eq ?_)
  rw [List.map_map]
  rfl

/- Where all names are texts, no benchmarks share a name. -/
theorem nodup_of_discover
    (hDiscover :
      discover engine selection root output d =
        .ok (benchmarks, found))
    {names : List Name}
    (hList : d.list root = .ok names)
    (hNodup : names.Nodup)
    (hText : ∀ n ∈ names, Utf8.encode (Path.shown n) = n) :
    (benchmarks.map Benchmark.name).Nodup := by
  rw [discover_of_list engine selection output hList]
    at hDiscover
  cases hDiscover
  have hPerm :=
    perm_names
      (benchmarksOf_perm_map root
        (standing engine selection root
          (output.bind d.locate?) d)
        names)
  refine
    hPerm.nodup_iff.mpr
      (Path.nodup_shown (hNodup.filter _) ?_)
  intro n hMem
  exact hText n (List.mem_of_mem_filter hMem)

/- Benchmarks are ordered by their names. -/
theorem pairwise_atMost_benchmarksOf
    (root : Path)
    (judge : Name → Standing)
    (names : List Name) :
    (benchmarksOf root judge names).Pairwise
      fun a b => Text.atMost a.name b.name = true :=
  Text.pairwise_atMost_mergeSort Benchmark.name _

theorem pairwise_atMost_discover
    (hDiscover :
      discover engine selection root output d =
        .ok (benchmarks, found)) :
    (benchmarks.map Benchmark.name).Pairwise
      (fun t u => Text.atMost t u = true) := by
  rcases benchmarks_of_discover hDiscover with ⟨l, -, rfl⟩
  exact List.pairwise_map.mpr
    (pairwise_atMost_benchmarksOf root _ _)

/- Benchmarks of one name are in the order of the listing. -/
theorem filter_name_benchmarksOf
    (root : Path)
    (judge : Name → Standing)
    (names : List Name)
    (t : Text) :
    ((benchmarksOf root judge names).filter
        fun b => b.name = t) =
      ((names.filter fun n => judge n = .benchmark).map
        (benchmarkOf root)).filter fun b => b.name = t :=
  Text.filter_mergeSort Benchmark.name _ t

/- Names that are listed in order are left in this order. -/
theorem benchmarksOf_of_sorted
    (root : Path)
    (judge : Name → Standing)
    {names : List Name}
    (hSorted :
      names.Pairwise fun m n =>
        Text.atMost (Path.shown m) (Path.shown n) = true) :
    benchmarksOf root judge names =
      (names.filter fun n => judge n = .benchmark).map
        (benchmarkOf root) := by
  rw [benchmarksOf, List.mergeSort_of_pairwise]
  exact List.pairwise_map.mpr (hSorted.filter _)

/- So what is found there is known without sorting it. -/
theorem discover_of_sorted
    (engine : PatternEngine α)
    (selection : Selection α)
    (output : Option Path)
    (names : List Name)
    (hList : d.list root = .ok names)
    (hSorted :
      names.Pairwise fun m n =>
        Text.atMost (Path.shown m) (Path.shown n) = true) :
    let judge :=
      standing engine selection root (output.bind d.locate?) d
    discover engine selection root output d =
      .ok
        ((names.filter fun n => judge n = .benchmark).map
          (benchmarkOf root),
        discoveryEvents root judge names) := by
  intro judge
  rw [discover_of_list engine selection output hList,
    benchmarksOf_of_sorted root judge hSorted]

/- The order of the listing gives the same benchmarks. -/
theorem benchmarksOf_perm
    (root : Path)
    (judge : Name → Standing)
    {names names' : List Name}
    (hPerm : names'.Perm names) :
    (benchmarksOf root judge names').Perm
      (benchmarksOf root judge names) :=
  (benchmarksOf_perm_map root judge names').trans
    (((hPerm.filter _).map _).trans
      (benchmarksOf_perm_map root judge names).symm)

/-
  Benchmarks of different names that are ordered by them are
  in the same order if they are the same.
-/
theorem eq_of_perm_of_nodup
    {more : List Benchmark}
    (hPerm : more.Perm benchmarks)
    (hMore :
      (more.map Benchmark.name).Pairwise
        fun t u => Text.atMost t u = true)
    (hOrder :
      (benchmarks.map Benchmark.name).Pairwise
        fun t u => Text.atMost t u = true)
    (hNodup : (benchmarks.map Benchmark.name).Nodup) :
    more = benchmarks := by
  refine hPerm.eq_of_pairwise ?_ (List.pairwise_map.mp hMore)
    (List.pairwise_map.mp hOrder)
  intro a b hA hB hAtMost hAtLeast
  exact
    List.inj_on_of_nodup_map hNodup (hPerm.subset hA) hB
      (Text.atMost_antisymm hAtMost hAtLeast)

/- What makes an entry of the root a benchmark. -/
theorem standing_eq_benchmark_iff
    {location : Option Location}
    {name : Name} :
    standing engine selection root location d name =
        .benchmark ↔
      (Path.shown name).head? ≠ some '.' ∧
        d.IsFolder (root.join name) ∧
        ¬ (location ≠ none ∧
          d.locate? (root.join name) = location) ∧
        selection.Selects engine (Path.shown name) := by
  unfold standing
  simp only
  constructor
  · intro hStanding
    split at hStanding
    · cases hStanding
    rename_i hShown
    split at hStanding
    · cases hStanding
    rename_i hFolder
    split at hStanding
    · cases hStanding
    rename_i hOther
    split at hStanding
    · cases hStanding
    rename_i hSelects
    exact
      ⟨hShown, Decidable.not_not.mp hFolder, hOther,
        Decidable.not_not.mp hSelects⟩
  · rintro ⟨hShown, hFolder, hOther, hSelects⟩
    rw [if_neg hShown, if_neg (not_not_intro hFolder),
      if_neg hOther, if_neg (not_not_intro hSelects)]

------------------------------------------------------------
-- Discovery On Plain Disks
------------------------------------------------------------

/-
  A benchmark that is found is a folder of the root, under a
  name of its own, and its result is called by what is shown
  for this name.
-/
structure Benchmark.StandsIn
    (b : Benchmark)
    (root : Path)
    (r : Location)
    (d : Disk)
    (n : Name) : Prop where
  eq_of : b = benchmarkOf root n
  proper : Path.IsProper n
  result : Path.IsProper (Utf8.encode b.name)
  resolves : d.resolve b.dir = .ok (.present (n :: r) .folder)

/- A benchmark is a folder of the root. -/
theorem standsIn_of_mem_discover
    (hPlain : d.IsPlain)
    (hDiscover :
      discover engine selection root output d =
        .ok (benchmarks, found)) :
    ∃ r, d.resolve root = .ok (.present r .folder) ∧
      ∀ b ∈ benchmarks, ∃ n, b.StandsIn root r d n := by
  rcases benchmarks_of_discover hDiscover with
    ⟨r, hRoot, rfl⟩
  have hAt := hPlain.folderAt_of_resolve hRoot
  refine ⟨r, hRoot, ?_⟩
  intro b hMem
  rcases (mem_benchmarksOf_iff root _ _ b).mp hMem with
    ⟨n, hName, hStanding, rfl⟩
  rcases (Disk.mem_children_iff d r _).mp hName with
    ⟨e, hEntry⟩
  have hProper := hPlain.isProper hEntry
  rcases standing_eq_benchmark_iff.mp hStanding with
    ⟨hDot, hFolder, -, -⟩
  rcases (Disk.isFolder_iff d _).mp hFolder with
    ⟨m, hResolve⟩
  have hPlace :=
    hPlain.place_of_resolve_join hAt hProper hResolve
  refine
    ⟨n, rfl, hProper,
      Path.isProper_encode hProper.1.encode_shown hDot, ?_⟩
  rw [benchmarkOf, hResolve, ← hPlace]
  rfl

/- No benchmark is the folder for the results. -/
theorem ne_output_of_mem_discover
    {outputDir : Path}
    (hDiscover :
      discover engine selection root (some outputDir) d =
        .ok (benchmarks, found))
    {l : Location}
    (hOutput : d.locate? outputDir = some l)
    {b : Benchmark}
    (hMem : b ∈ benchmarks) :
    d.locate? b.dir ≠ some l := by
  rcases benchmarks_of_discover hDiscover with ⟨m, -, rfl⟩
  rcases (mem_benchmarksOf_iff root _ _ b).mp hMem with
    ⟨n, -, hStanding, rfl⟩
  rcases standing_eq_benchmark_iff.mp hStanding with
    ⟨-, -, hOther, -⟩
  intro hLocate
  apply hOther
  rw [Option.bind_some, hOutput]
  exact ⟨Option.some_ne_none l, hLocate⟩

end PageHeat
