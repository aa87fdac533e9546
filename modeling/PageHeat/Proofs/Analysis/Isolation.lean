import PageHeat.Proofs.Analysis.Rerun
import PageHeat.Proofs.Disk.Lexical

/-
  Two runs that differ in one benchmark.

  If two plain disks differ below the folder of a benchmark
  only, and the results are put somewhere else, two runs
  find the same benchmarks. All others come to the same
  report or failure, since both disks are alike for them. A
  result file is the same unless the one benchmark shares
  its name, or the root is listed in another order on the
  other disk.

  Key definitions include:
    * `Disk.AgreesOff`
    * `Below`

  Key lemmas include:
    * `not_below_inside`
    * `Apart.gathered_alike`
    * `discover_twins`
    * `Disk.AgreesOff.makeFolders`
    * `RunSettles.alike`
    * `RunSettles.read_result_eq`
    * `run_isolates_benchmarks`
    * `run_shares_result_blurredDisk`
-/

------------------------------------------------------------
-- Disks That Agree
------------------------------------------------------------

namespace PageHeat

/- Two disks that agree except at some locations. -/
structure Disk.AgreesOff
    (d : Disk)
    (P : Location → Prop)
    (d' : Disk) : Prop where
  here_eq : d'.here = d.here
  same : ∀ m, ¬ P m → d'.entry? m = d.entry? m

/- Inside of a location, but not at it. -/
def Below (k m : Location) : Prop :=
  k <:+ m ∧ m ≠ k

instance (k m : Location) : Decidable (Below k m) :=
  inferInstanceAs (Decidable (_ ∧ _))

section Locations

variable {x y : Name} {r l : Location}

theorem not_cons_suffix (name : Name) (r : Location) :
    ¬ (name :: r) <:+ r := by
  intro hSuffix
  have hLength := hSuffix.length_le
  rw [List.length_cons] at hLength
  omega

theorem not_below_cons
    (hOutside : ¬ (x :: r) <:+ l)
    (name : Name) :
    ¬ Below (x :: r) (name :: l) := by
  rintro ⟨hSuffix, hNe⟩
  rcases List.suffix_cons_iff.mp hSuffix with hEq | hInner
  · exact hNe hEq.symm
  · exact hOutside hInner

/- What is in the folder of another name is not below. -/
theorem not_below_inside
    (hOther : y ≠ x)
    (name : Name) :
    ¬ Below (x :: r) (name :: y :: r) := by
  apply not_below_cons
  intro hSuffix
  rcases List.suffix_cons_iff.mp hSuffix with hEq | hInner
  · exact hOther (List.head_eq_of_cons_eq hEq).symm
  · exact not_cons_suffix x r hInner

end Locations

------------------------------------------------------------
-- Alike For A Benchmark
------------------------------------------------------------

section Both

variable {s : Settings} {b : Benchmark} {l : Location}
variable {d e : Disk}

/-
  A benchmark for which two disks are alike comes to the
  same report or failure on both.
-/
theorem Apart.gathered_alike
    (hApart : Apart s b l d)
    (hApart' : Apart s b l e)
    (hAlike : Alike b l d e)
    (hWrites : ∀ cause, ¬ WriteFails s b d cause)
    (hWrites' : ∀ cause, ¬ WriteFails s b e cause) :
    reportAt? s (b, e) = reportAt? s (b, d) ∧
      failureAt? s (b, e) = failureAt? s (b, d) := by
  have hExamined :=
    hApart.examine_alike hAlike hApart' hWrites hWrites'
  unfold reportAt? failureAt?
  rw [hExamined]
  exact ⟨rfl, rfl⟩

theorem place_eq_iff
    {b c : Benchmark}
    {l : Location} :
    c.place l = b.place l ↔ c.name = b.name := by
  rw [Benchmark.place, Benchmark.place, List.cons.injEq,
    Utf8.encode_inj, and_iff_left rfl]

/-
  The last content under a name depends on the benchmarks
  of this name, and on what they come to.
-/
theorem lastContent?_congr
    {benchmarks benchmarks' : List Benchmark}
    (hSame :
      (benchmarks'.filter fun c => c.name = b.name) =
        benchmarks.filter fun c => c.name = b.name)
    (hContent :
      ∀ c ∈ benchmarks, c.name = b.name →
        contentAt? s c e = contentAt? s c d) :
    lastContent? s l e benchmarks' (b.place l) =
      lastContent? s l d benchmarks (b.place l) := by
  unfold lastContent?
  simp only [place_eq_iff, hSame]
  congr 1
  apply List.filterMap_congr
  intro c hMem
  rw [List.mem_filter] at hMem
  exact hContent c hMem.1 (of_decide_eq_true hMem.2)

end Both

------------------------------------------------------------
-- Two Discoveries
------------------------------------------------------------

section Runs

variable {α : Type} {engine : PatternEngine α}
variable {selection : Selection α}
variable {root : Path} {s : Settings} {x : Name}
variable {d d' : Disk} {workers workers' : Workers}
variable {summary summary' : Summary}
variable {benchmarks benchmarks' : List Benchmark}
variable {found found' : List Event}
variable {l r : Location}

/-
  Two plain disks with the same entries in the root give
  the same benchmarks, and in the same order if the root is
  listed alike.
-/
theorem discover_twins
    (hPlain : d.IsPlain)
    (hPlain' : d'.IsPlain)
    (hRoot : d.resolve root = .ok (.present r .folder))
    (hRoot' : d'.resolve root = .ok (.present r .folder))
    (hSame :
      ∀ name, d'.entry? (name :: r) = d.entry? (name :: r))
    {output : Path}
    (hOutput : d'.locate? output = d.locate? output)
    (hDiscover :
      discover engine selection root (some output) d =
        .ok (benchmarks, found))
    (hDiscover' :
      discover engine selection root (some output) d' =
        .ok (benchmarks', found')) :
    benchmarks'.Perm benchmarks ∧
      (d'.list root = d.list root →
        benchmarks' = benchmarks) := by
  rcases benchmarks_of_discover hDiscover with
    ⟨m, hResolve, rfl⟩
  rcases benchmarks_of_discover hDiscover' with
    ⟨m', hResolve', rfl⟩
  cases hRoot.symm.trans hResolve
  cases hRoot'.symm.trans hResolve'
  have hAt := hPlain.folderAt_of_resolve hRoot
  have hAt' := hPlain'.folderAt_of_resolve hRoot'
  have hPerm : (d'.children r).Perm (d.children r) := by
    rw [List.perm_ext_iff_of_nodup
      (Disk.nodup_children hPlain'.distinct r)
      (Disk.nodup_children hPlain.distinct r)]
    intro name
    rw [Disk.mem_children_iff, Disk.mem_children_iff,
      hSame name]
  -- every name is judged on the second disk as on the first
  have hJudge :
      ∀ name ∈ d'.children r,
        standing engine selection root (d.locate? output) d'
            name =
          standing engine selection root (d.locate? output) d
            name := by
    intro name hMem
    rcases (Disk.mem_children_iff d' r name).mp hMem with
      ⟨e, hEntry⟩
    exact standing_congr _
      (hPlain.resolve_join_congr hPlain' hAt hAt'
        (hPlain'.isProper hEntry).1 (hSame name))
  rw [Option.bind_some, Option.bind_some, hOutput,
    benchmarksOf_congr root hJudge]
  refine ⟨benchmarksOf_perm root _ hPerm, ?_⟩
  intro hList
  rw [Disk.list_eq_ok_iff.mpr ⟨r, hRoot, rfl⟩,
    Disk.list_eq_ok_iff.mpr ⟨r, hRoot', rfl⟩,
    Except.ok.injEq] at hList
  rw [hList]

/-
  After the folder for the results was created somewhere
  else, two disks differ where they did before.
-/
theorem Disk.AgreesOff.makeFolders
    {k : Location}
    (hAgrees : d.AgreesOff (Below k) d')
    (hPlain : d.IsPlain)
    (hPlain' : d'.IsPlain)
    {output : Path}
    (hSome : output ≠ [])
    (hInward : Path.outward ∉ output.names)
    (hMade : (d.makeFolders output).2 = none)
    (hMade' : (d'.makeFolders output).2 = none) :
    (d.makeFolders output).1.AgreesOff (Below k)
      (d'.makeFolders output).1 := by
  have hHere :=
    (hPlain.makeFolders_grows output).keeps.here_eq
  have hHere' :=
    (hPlain'.makeFolders_grows output).keeps.here_eq
  refine
    ⟨hHere'.trans (hAgrees.here_eq.trans hHere.symm), ?_⟩
  intro m hNot
  rw [hPlain.entry?_makeFolders hSome hInward hMade,
    hPlain'.entry?_makeFolders hSome hInward hMade',
    hAgrees.here_eq, hAgrees.same m hNot]

------------------------------------------------------------
-- Two Runs
------------------------------------------------------------

namespace RunSettles

variable
  (hSettles :
    RunSettles engine root s d workers summary l selection
      benchmarks found)

include hSettles

/- The results are put where the names of the path lead. -/
theorem output_eq : l = s.outputDir.placeFrom d.here := by
  rw [← hSettles.grows.keeps.here_eq]
  exact hSettles.grows.plain.place_of_resolve hSettles.output

/- The root is where the names of its path lead. -/
theorem stands_in_root :
    Disk.resolve (d.makeFolders s.outputDir).1 root =
        .ok (.present (root.placeFrom d.here) .folder) ∧
      ∀ b ∈ benchmarks, ∃ n,
        b.StandsIn root (root.placeFrom d.here)
          (d.makeFolders s.outputDir).1 n := by
  rcases standsIn_of_mem_discover hSettles.grows.plain
      hSettles.discovers with
    ⟨r, hRoot, hStands⟩
  have hPlace : r = root.placeFrom d.here := by
    rw [← hSettles.grows.keeps.here_eq]
    exact hSettles.grows.plain.place_of_resolve hRoot
  subst hPlace
  exact ⟨hRoot, hStands⟩

/- The disk is alike for all benchmarks but the one. -/
theorem alike
    (hSettles' :
      RunSettles engine root s d' workers' summary' l selection
        benchmarks' found')
    (hHere : d'.here = d.here)
    (hAgrees :
      (d.makeFolders s.outputDir).1.AgreesOff
        (Below (x :: root.placeFrom d.here))
        (d'.makeFolders s.outputDir).1)
    (hOutside : ¬ (x :: root.placeFrom d.here) <:+ l)
    {b : Benchmark}
    (hMem : b ∈ benchmarks)
    (hMem' : b ∈ benchmarks')
    (hOther : b ≠ benchmarkOf root x) :
    Alike b l (d.makeFolders s.outputDir).1
      (d'.makeFolders s.outputDir).1 := by
  have hPlain := hSettles.grows.plain
  have hPlain' := hSettles'.grows.plain
  rcases hSettles.stands_in_root.2 b hMem with ⟨n, hStands⟩
  rcases hSettles'.stands_in_root.2 b hMem' with
    ⟨n', hStands'⟩
  have hName : n' = n := by
    have hEq := hStands'.eq_of.symm.trans hStands.eq_of
    rw [benchmarkOf, benchmarkOf, Benchmark.mk.injEq] at hEq
    exact (Path.join_inj root hStands'.proper.1
      hStands.proper.1).mp hEq.2
  subst hName
  have hResolve' := hStands'.resolves
  rw [hHere] at hResolve'
  have hAt := hPlain.folderAt_of_resolve hStands.resolves
  have hAt' := hPlain'.folderAt_of_resolve hResolve'
  have hDiffer : n' ≠ x := by
    rintro rfl
    exact hOther hStands.eq_of
  constructor
  · intro name hIsName
    exact hPlain.read_join_congr hPlain' hAt hAt' hIsName
      (hAgrees.same _ (not_below_inside hDiffer name))
  · rw [Benchmark.place,
      hAgrees.same _ (not_below_cons hOutside _)]

/-
  The file of a name holds the same after both runs if the
  benchmarks of this name come to the same contents, one
  after the other.
-/
theorem read_result_eq
    (hSettles' :
      RunSettles engine root s d' workers' summary' l selection
        benchmarks' found')
    {b : Benchmark}
    (hMem : b ∈ benchmarks)
    (hMem' : b ∈ benchmarks')
    (hSame :
      Disk.entry? (d'.makeFolders s.outputDir).1 (b.place l) =
        Disk.entry? (d.makeFolders s.outputDir).1
          (b.place l))
    (hFilter :
      (benchmarks'.filter fun c => c.name = b.name) =
        benchmarks.filter fun c => c.name = b.name)
    (hContent :
      ∀ c ∈ benchmarks, c.name = b.name →
        contentAt? s c (d'.makeFolders s.outputDir).1 =
          contentAt? s c (d.makeFolders s.outputDir).1) :
    Disk.read (run engine root s d' workers').disk
        (s.outputPath b.name) =
      Disk.read (run engine root s d workers).disk
        (s.outputPath b.name) := by
  have hEntry :
      Disk.entry? (run engine root s d' workers').disk
          (b.place l) =
        Disk.entry? (run engine root s d workers).disk
          (b.place l) := by
    rw [hSettles'.entry?_eq, hSettles.entry?_eq, hSame,
      lastContent?_congr hFilter hContent]
  have hDiffers := hSettles.differsIn
  have hDiffers' := hSettles'.differsIn
  exact hDiffers.plain.read_join_congr hDiffers'.plain
    ((hSettles.apart b hMem).output.of_keeps hDiffers.keeps)
    ((hSettles'.apart b hMem').output.of_keeps
      hDiffers'.keeps)
    (hSettles.apart b hMem).proper.1 hEntry

end RunSettles

/-
  Two runs on plain disks that differ at most below the
  folder of one name in the root find the same benchmarks,
  if both give a summary and the folder for the results is
  neither that folder nor inside of it. They are in the same
  order if their names differ, as names that are texts do,
  or if the root is listed in the same order. All benchmarks but the one come to the
  same report, or to the same failure, whatever becomes of
  the one. Their result files hold the same if the one does
  not share their name and all that share it are in the same
  order.
-/
theorem run_isolates_benchmarks
    (hPlain : d.IsPlain)
    (hPlain' : d'.IsPlain)
    (hAgrees :
      d.AgreesOff (Below (x :: root.placeFrom d.here)) d')
    (hOutput : s.outputDir ≠ [])
    (hInward : Path.outward ∉ s.outputDir.names)
    (hOutside :
      ¬ (x :: root.placeFrom d.here) <:+
          s.outputDir.placeFrom d.here)
    (hRun :
      (run engine root s d workers).result = .ok summary)
    (hRun' :
      (run engine root s d' workers').result = .ok summary') :
    let d₁ := (d.makeFolders s.outputDir).1
    let d₁' := (d'.makeFolders s.outputDir).1
    let last := (run engine root s d workers).disk
    let last' := (run engine root s d' workers').disk
    ∃ selection benchmarks benchmarks' found found',
      selectionOf engine s = .ok selection ∧
      discover engine selection root (some s.outputDir) d₁ =
        .ok (benchmarks, found) ∧
      discover engine selection root (some s.outputDir) d₁' =
        .ok (benchmarks', found') ∧
      benchmarks'.Perm benchmarks ∧
      ((benchmarks.map Benchmark.name).Nodup →
        benchmarks' = benchmarks) ∧
      (d₁'.list root = d₁.list root →
        benchmarks' = benchmarks) ∧
      (∀ listed,
        d₁.list root = .ok listed →
          (∀ n ∈ listed, Utf8.encode (Path.shown n) = n) →
            (benchmarks.map Benchmark.name).Nodup) ∧
      summary = gathered s (benchmarks.map fun b => (b, d₁)) ∧
      summary' =
        gathered s (benchmarks'.map fun b => (b, d₁')) ∧
      ∀ b ∈ benchmarks,
        b ≠ benchmarkOf root x →
          reportAt? s (b, d₁') = reportAt? s (b, d₁) ∧
          failureAt? s (b, d₁') = failureAt? s (b, d₁) ∧
          ((∀ c ∈ benchmarks,
              c.name = b.name → c ≠ benchmarkOf root x) →
            ((benchmarks'.filter fun c => c.name = b.name) =
              benchmarks.filter fun c => c.name = b.name) →
            last'.read (s.outputPath b.name) =
              last.read (s.outputPath b.name)) := by
  intro d₁ d₁' last last'
  rcases exists_runSettles hPlain hOutput hRun with
    ⟨l, selection, benchmarks, found, hSettles⟩
  rcases exists_runSettles hPlain' hOutput hRun' with
    ⟨l', selection', benchmarks', found', hSettles'⟩
  cases hSettles.filter.symm.trans hSettles'.filter
  have hPlace := hSettles.output_eq
  have hPlace' : l' = l := by
    rw [hSettles'.output_eq, hAgrees.here_eq, hPlace]
  subst hPlace'
  have hAgrees₁ :=
    hAgrees.makeFolders hPlain hPlain' hOutput hInward
      hSettles.made hSettles'.made
  rw [← hPlace] at hOutside
  have hRoot := hSettles.stands_in_root.1
  have hRoot' := hSettles'.stands_in_root.1
  rw [hAgrees.here_eq] at hRoot'
  have hPlain₁ := hSettles.grows.plain
  have hPlain₁' := hSettles'.grows.plain
  have hLocate {e : Disk}
      (hResolve :
        e.resolve s.outputDir = .ok (.present l' .folder)) :
      e.locate? s.outputDir = some l' :=
    (Disk.locate?_eq_some_iff e _ _).mpr ⟨_, hResolve⟩
  rcases discover_twins hPlain₁ hPlain₁' hRoot hRoot'
      (fun name =>
        hAgrees₁.same _
          (not_below_cons (not_cons_suffix x _) name))
      ((hLocate hSettles'.output).trans
        (hLocate hSettles.output).symm)
      hSettles.discovers hSettles'.discovers with
    ⟨hPerm, hOrder⟩
  have hAlike (b : Benchmark) (hMem : b ∈ benchmarks) :=
    hSettles.alike hSettles' hAgrees.here_eq hAgrees₁ hOutside
      hMem (hPerm.mem_iff.mpr hMem)
  refine
    ⟨selection, benchmarks, benchmarks', found, found',
      hSettles.filter, hSettles.discovers,
      hSettles'.discovers, hPerm, ?_, hOrder, ?_,
      hSettles.summary_eq, hSettles'.summary_eq, ?_⟩
  · exact eq_of_perm_of_nodup hPerm
      (pairwise_atMost_discover hSettles'.discovers)
      (pairwise_atMost_discover hSettles.discovers)
  · intro listed hList
    rcases Disk.list_eq_ok_iff.mp hList with ⟨r, -, rfl⟩
    exact nodup_of_discover hSettles.discovers hList
      (Disk.nodup_children hPlain₁.distinct r)
  · intro b hMem hOther
    have hMem' := hPerm.mem_iff.mpr hMem
    have hApart := hSettles.apart b hMem
    rcases hApart.gathered_alike (hSettles'.apart b hMem')
        (hAlike b hMem hOther) (hSettles.writes b hMem)
        (hSettles'.writes b hMem') with
      ⟨hReport, hFailure⟩
    refine ⟨hReport, hFailure, ?_⟩
    intro hAlone hFilter
    refine
      hSettles.read_result_eq hSettles' hMem hMem'
        (hAgrees₁.same _ (not_below_cons hOutside _)) hFilter
        ?_
    intro c hIn hName
    exact (hSettles.apart c hIn).contentAt?_alike
      (hAlike c hIn (hAlone c hIn hName))
      (hSettles'.apart c (hPerm.mem_iff.mpr hIn))

end Runs

/-
  A disk with two benchmarks, of which the first one has no
  baseline.
-/
def pairDisk : Disk :=
  { entries :=
      [ (["in"], .folder),
        (["a", "in"], .folder),
        (["b", "in"], .folder),
        (["10M.csv", "b", "in"],
          .file (Stream.ofBytes (Utf8.encode "x,t\n"))),
        (["out"], .folder) ] }

/- The same disk with a baseline for it. -/
def mendedPairDisk : Disk :=
  pairDisk.put ["10M.csv", "a", "in"]
    (.file (Stream.ofBytes (Utf8.encode "y,u\n")))

/- A disk differs below the folder of what is put there. -/
theorem Disk.agreesOff_put
    (d : Disk)
    {k m : Location}
    (hBelow : Below k m)
    (e : Entry) :
    d.AgreesOff (Below k) (d.put m e) := by
  have hNe : m ≠ [] := by
    rintro rfl
    exact hBelow.2 (List.suffix_nil.mp hBelow.1).symm
  refine ⟨rfl, ?_⟩
  intro other hNot
  refine Disk.entry?_put_of_ne d hNe ?_ e
  rintro rfl
  exact hNot hBelow

/- The folder of the first benchmark. -/
def firstOfPair : Location :=
  ["a", "in"]

/- The two benchmarks of these disks. -/
def pairBenchmarks : List Benchmark :=
  [⟨"a", Path.join "in" "a"⟩, ⟨"b", Path.join "in" "b"⟩]

theorem discover_pairDisk :
    discover Pattern.engine Selection.all "in"
        (some smallSettings.outputDir)
        (pairDisk.makeFolders smallSettings.outputDir).1 =
      .ok (pairBenchmarks, []) :=
  discover_of_sorted Pattern.engine Selection.all _
    ["a", "b"] rfl (by decide)

/- The first benchmark fails in one of two runs only. -/
theorem run_isolates_pairDisk :
    let s := smallSettings
    let first := run Pattern.engine "in" s pairDisk
    let second := run Pattern.engine "in" s mendedPairDisk
    pairDisk.IsPlain ∧
      mendedPairDisk.IsPlain ∧
      pairDisk.AgreesOff (Below firstOfPair)
        mendedPairDisk ∧
      s.outputDir ≠ [] ∧
      Path.outward ∉ s.outputDir.names ∧
      (¬ firstOfPair <:+
          s.outputDir.placeFrom pairDisk.here) ∧
      ∃ summary summary',
        first.result = .ok summary ∧
        second.result = .ok summary' ∧
        second.disk.read (s.outputPath "b") =
          first.disk.read (s.outputPath "b") := by
  intro s first second
  have hPlain : pairDisk.IsPlain := by decide
  have hPlain' : mendedPairDisk.IsPlain := by decide
  have hAgrees :
      pairDisk.AgreesOff (Below firstOfPair)
        mendedPairDisk :=
    pairDisk.agreesOff_put (by decide) _
  have hOutput : s.outputDir ≠ [] := by decide
  have hInward : Path.outward ∉ s.outputDir.names := by
    decide
  have hOutside :
      ¬ firstOfPair <:+
          s.outputDir.placeFrom pairDisk.here := by
    decide
  rcases @exists_run_eq_ok _ Pattern.engine Selection.all "in"
      s pairDisk Workers.atHand hPlain rfl (by decide)
      (by decide) rfl rfl rfl
    with ⟨summary, hRun⟩
  rcases @exists_run_eq_ok _ Pattern.engine Selection.all "in"
      s mendedPairDisk Workers.atHand hPlain' rfl (by decide)
      (by decide) rfl rfl rfl
    with ⟨summary', hRun'⟩
  rcases
    @run_isolates_benchmarks _ Pattern.engine "in" s "a"
      pairDisk mendedPairDisk Workers.atHand Workers.atHand
      summary summary' hPlain hPlain' hAgrees hOutput hInward
      hOutside hRun hRun' with
    ⟨selection, benchmarks, benchmarks', found, found',
      hFilter, hDiscover, -, -, hNodup, -, -, -, -, hSame⟩
  cases hFilter
  cases hDiscover.symm.trans discover_pairDisk
  have hEq : benchmarks' = pairBenchmarks :=
    hNodup (by decide)
  subst hEq
  have hResult :=
    (hSame ⟨"b", Path.join "in" "b"⟩ (by decide)
      (by decide)).2.2 (by decide) rfl
  exact
    ⟨hPlain, hPlain', hAgrees, hOutput, hInward, hOutside,
      summary, summary', hRun, hRun', hResult⟩

------------------------------------------------------------
-- A Shared Name
------------------------------------------------------------

/- The disk with names that are no text, and one baseline. -/
def mendedBlurredDisk : Disk :=
  blurredDisk.put ["10M.csv", [0xFE], "in"]
    (.file (Stream.ofBytes (Utf8.encode "p,t\n")))

/-
  Whether the one benchmark succeeds decides about the file
  that has the name of the other one.
-/
theorem run_shares_result_blurredDisk :
    let s := smallSettings
    let other : Benchmark :=
      ⟨blurredName, Path.join "in" [0xFF]⟩
    let first := run Pattern.engine "in" s blurredDisk
    let second := run Pattern.engine "in" s mendedBlurredDisk
    blurredDisk.IsPlain ∧
      mendedBlurredDisk.IsPlain ∧
      blurredDisk.AgreesOff (Below [[0xFE], "in"])
        mendedBlurredDisk ∧
      s.outputDir ≠ [] ∧
      Path.outward ∉ s.outputDir.names ∧
      (¬ [[0xFE], "in"] <:+
          s.outputDir.placeFrom blurredDisk.here) ∧
      s.validate = .ok () ∧
      selectionOf Pattern.engine s = .ok Selection.all ∧
      other ∈ blurredBenchmarks ∧
      other ≠ benchmarkOf "in" [0xFE] ∧
      discover Pattern.engine Selection.all "in"
          (some s.outputDir) blurredDisk =
        .ok (blurredBenchmarks, []) ∧
      discover Pattern.engine Selection.all "in"
          (some s.outputDir) mendedBlurredDisk =
        .ok (blurredBenchmarks, []) ∧
      (∃ summary, first.result = .ok summary) ∧
      (∃ summary', second.result = .ok summary') ∧
      first.disk.read (s.outputPath other.name) =
        .error .noSuchFile ∧
      second.disk.read (s.outputPath other.name) =
        .ok
          (Stream.ofBytes (Utf8.encode "0 0 0\n0 0 0\n")) := by
  intro s other first second
  have hPlain : blurredDisk.IsPlain := by decide
  have hPlain' : mendedBlurredDisk.IsPlain := by decide
  have hMade :
      (blurredDisk.makeFolders s.outputDir).2 = none := by
    decide
  have hMade' :
      (mendedBlurredDisk.makeFolders s.outputDir).2 =
        none := by
    decide
  have hDiscover' :
      discover Pattern.engine Selection.all "in"
          (some s.outputDir) mendedBlurredDisk =
        .ok (blurredBenchmarks, []) :=
    discover_of_sorted Pattern.engine Selection.all _
      [[0xFE], [0xFF]] rfl (by decide)
  refine
    ⟨hPlain, hPlain',
      blurredDisk.agreesOff_put (by decide) _, by decide,
      by decide, by decide, rfl, rfl, by decide, by decide,
      discover_blurredDisk, hDiscover', ?_, ?_, ?_, ?_⟩
  · exact exists_run_eq_ok hPlain rfl (by decide) hMade rfl
      rfl rfl
  · exact exists_run_eq_ok hPlain' rfl (by decide) hMade' rfl
      rfl rfl
  · rw [(run_of_discover rfl rfl hMade rfl
      discover_blurredDisk).2]
    decide +kernel
  · rw [(run_of_discover rfl rfl hMade' rfl hDiscover').2]
    decide +kernel

end PageHeat
