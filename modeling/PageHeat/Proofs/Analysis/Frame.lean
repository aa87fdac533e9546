import PageHeat.Proofs.Analysis.Turns
import PageHeat.Proofs.Settings.Inputs

/-
  What a run on a plain disk depends on, and what it leaves.

  Result files are created in the folder for the results
  only, under the names of benchmarks. No benchmark that is
  found is that folder, so no result file is an input file.
  Every benchmark comes to what it would come to if it was
  examined first, and each result file holds the lines of
  the last benchmark with its name that has a report.

  Key definitions include:
    * `Disk.DiffersIn`
    * `Apart`
    * `Alike`
    * `contentAt?`
    * `settled`

  Key lemmas include:
    * `Apart.examine_of_writes`
    * `Apart.examine_alike`
    * `examineAll_settled`
    * `entry?_settled`
    * `exists_of_run`
-/

------------------------------------------------------------
-- What Depends On Readings
------------------------------------------------------------

namespace PageHeat

section Readings

variable {s : Settings} {benchmark : Benchmark}
variable {d d' : Disk} {path : Path}

theorem loadBaseline_congr
    (hRead : d'.read path = d.read path) :
    loadBaseline d' path = loadBaseline d path := by
  rw [loadBaseline, loadBaseline, hRead]

theorem readingEvents_congr
    {β : Type}
    (reader : Except LineFault Text → Except LineFault β)
    (event : Nat → LineFault → Event)
    (hRead : d'.read path = d.read path) :
    readingEvents reader event d' path =
      readingEvents reader event d path := by
  rw [readingEvents, readingEvents, hRead]

theorem outcomes_congr
    (b : Baseline)
    {dir : Path}
    (hRead :
      ∀ i, d'.read (s.checkpointPath dir i) =
        d.read (s.checkpointPath dir i)) :
    outcomes s b d' dir = outcomes s b d dir := by
  unfold outcomes compareAt
  simp only [hRead]

theorem comparisonEvents_congr
    (b : Baseline)
    (hRead :
      ∀ i, d'.read (s.checkpointPath benchmark.dir i) =
        d.read (s.checkpointPath benchmark.dir i)) :
    comparisonEvents s benchmark b d'
        (outcomes s b d benchmark.dir) =
      comparisonEvents s benchmark b d
        (outcomes s b d benchmark.dir) := by
  unfold comparisonEvents
  congr 2
  unfold outcomes
  rw [List.flatMap_map, List.flatMap_map]
  congr 1
  funext i
  exact readingEvents_congr _ _ (hRead i)

/- An examination without a baseline changes nothing. -/
theorem examine_of_load_error
    {fault : Fault}
    (hLoad :
      loadBaseline d (s.baselinePath benchmark.dir) =
        .error fault) :
    examine s benchmark d =
      { result := .error fault
        disk := d
        events :=
          baselineEvents d (s.baselinePath benchmark.dir) } := by
  rw [examine, hLoad]

/- Nor does one whose result file cannot be created. -/
theorem examine_of_create_error
    {b : Baseline}
    {fault : DeviceFault}
    (hLoad :
      loadBaseline d (s.baselinePath benchmark.dir) = .ok b)
    (hCreate :
      d.create (s.outputPath benchmark.name) = .error fault) :
    examine s benchmark d =
      { result :=
          .error
            (.uncreatable (s.outputPath benchmark.name) fault)
        disk := d
        events :=
          baselineEvents d (s.baselinePath benchmark.dir) ++
            [.baselineLoaded benchmark.name b.size] } := by
  rw [examine, hLoad]
  simp only
  rw [hCreate]

/- Any other one writes its result file, if there is room. -/
theorem examine_of_hasRoom
    {b : Baseline}
    {target : Location}
    (hLoad :
      loadBaseline d (s.baselinePath benchmark.dir) = .ok b)
    (hCreate :
      d.create (s.outputPath benchmark.name) =
        .ok (target, d'))
    (hRoom :
      d'.HasRoom target
        (contentOf s (outcomes s b d' benchmark.dir))) :
    examine s benchmark d =
      { result :=
          .ok
            (reportOf s benchmark b
              (outcomes s b d' benchmark.dir)
              (talliesOf s.missing
                (outcomes s b d' benchmark.dir)).length)
        disk :=
          d'.store target
            { received :=
                contentOf s (outcomes s b d' benchmark.dir) }
        events :=
          baselineEvents d (s.baselinePath benchmark.dir) ++
              [.baselineLoaded benchmark.name b.size] ++
            comparisonEvents s benchmark b d'
              (outcomes s b d' benchmark.dir) } := by
  rcases writeOutcomes_of_hasRoom s benchmark b hRoom with
    ⟨hResult, hDisk⟩
  rw [examine, hLoad]
  simp only
  rw [hCreate]
  simp only [hResult, hDisk]
  rfl

end Readings

------------------------------------------------------------
-- Changes In One Folder
------------------------------------------------------------

/- Leave a file with some content, if there is any. -/
def Disk.leave
    (d : Disk)
    (l : Location) : Option Bytes → Disk
  | none => d
  | some content => d.put l (.file (Stream.ofBytes content))

/-
  A plain disk that keeps another one and differs from it
  at most in files directly in one folder.
-/
structure Disk.DiffersIn
    (d : Disk)
    (l : Location)
    (d' : Disk) : Prop where
  plain : d'.IsPlain
  keeps : d.Keeps d'
  same_or :
    ∀ m, d'.entry? m = d.entry? m ∨
      ∃ name content, m = name :: l ∧
        d'.entry? m = some (.file content)

namespace Disk.DiffersIn

variable {d d' d'' : Disk} {l : Location}

theorem refl
    (hPlain : d.IsPlain)
    (l : Location) :
    d.DiffersIn l d :=
  ⟨hPlain, Keeps.refl d, fun _ => .inl rfl⟩

/- Changes in a folder may follow each other. -/
theorem trans
    (hFirst : d.DiffersIn l d')
    (hSecond : d'.DiffersIn l d'') :
    d.DiffersIn l d'' := by
  refine
    ⟨hSecond.plain, hFirst.keeps.trans hSecond.keeps, ?_⟩
  intro m
  rcases hSecond.same_or m with hSame | hFile
  · rw [hSame]
    exact hFirst.same_or m
  · exact .inr hFile

theorem same
    (hDiffers : d.DiffersIn l d')
    {m : Location}
    (hOutside : ∀ name, m ≠ name :: l) :
    d'.entry? m = d.entry? m := by
  rcases hDiffers.same_or m with
    hSame | ⟨name, content, hEq, -⟩
  · exact hSame
  · exact absurd hEq (hOutside name)

/- Folders are the same everywhere. -/
theorem folder_iff
    (hDiffers : d.DiffersIn l d')
    (m : Location) :
    d'.entry? m = some .folder ↔
      d.entry? m = some .folder := by
  constructor
  · intro hFolder
    rcases hDiffers.same_or m with
      hSame | ⟨name, content, -, hFile⟩
    · exact hSame.symm.trans hFolder
    · cases hFolder.symm.trans hFile
  · exact hDiffers.keeps.folder

/- In another folder, the same is read. -/
theorem read_eq
    (hDiffers : d.DiffersIn l d')
    (hPlain : d.IsPlain)
    {dir : Path}
    {m : Location}
    (hAt : d.FolderAt dir m)
    (hOther : m ≠ l)
    {name : Name}
    (hName : Path.IsName name) :
    d'.read (dir.join name) = d.read (dir.join name) := by
  have hOutside : ∀ other, name :: m ≠ other :: l := by
    intro other hEq
    exact hOther (List.tail_eq_of_cons_eq hEq)
  exact hPlain.read_join_congr hDiffers.plain hAt
    (hAt.of_keeps hDiffers.keeps) hName
    (hDiffers.same hOutside)

/- A file that is put where none but a file may be. -/
theorem put
    (hPlain : d.IsPlain)
    {name : Name}
    (hProper : Path.IsProper name)
    (hFolder : d.entry? l = some .folder)
    (hFree : d.entry? (name :: l) ≠ some .folder)
    (content : Stream) :
    d.DiffersIn l (d.put (name :: l) (.file content)) := by
  have hKeeps :
      d.Keeps (d.put (name :: l) (.file content)) := by
    cases hEntry : d.entry? (name :: l) with
    | none =>
        exact Keeps.put_of_none hEntry (.inr ⟨content, rfl⟩)
    | some e =>
        rcases hPlain.kinds hEntry with rfl | hFile
        · exact absurd hEntry hFree
        · exact Keeps.put_of_isFile hEntry hFile ⟨content, rfl⟩
  have hFits : d.Fits (.file content) (name :: l) :=
    ⟨hProper, hFolder, .inr ⟨content, rfl⟩⟩
  refine ⟨hPlain.put hFits hKeeps, hKeeps, ?_⟩
  intro m
  by_cases hEq : m = name :: l
  · refine .inr ⟨name, content, hEq, ?_⟩
    rw [hEq]
    exact entry?_put_self d (List.cons_ne_nil _ _) _
  · exact .inl
      (entry?_put_of_ne d (List.cons_ne_nil _ _) hEq _)

end Disk.DiffersIn

------------------------------------------------------------
-- Benchmarks Apart From The Results
------------------------------------------------------------

/- Where the result of a benchmark stands in a folder. -/
def Benchmark.place
    (b : Benchmark)
    (l : Location) : Location :=
  Utf8.encode b.name :: l

/-
  A benchmark on a plain disk whose folder is not the folder
  for the results.
-/
structure Apart
    (s : Settings)
    (b : Benchmark)
    (l : Location)
    (d : Disk) : Prop where
  plain : d.IsPlain
  valid : s.validate = .ok ()
  output : d.FolderAt s.outputDir l
  proper : Path.IsProper (Utf8.encode b.name)
  folder : ∃ m, d.FolderAt b.dir m ∧ m ≠ l

/-
  Two disks that are alike for a benchmark: its logs are
  read alike, and its result can be put in the same place.
-/
structure Alike
    (b : Benchmark)
    (l : Location)
    (d e : Disk) : Prop where
  read_eq :
    ∀ name, Path.IsName name →
      e.read (b.dir.join name) = d.read (b.dir.join name)
  folder_iff :
    e.entry? (b.place l) = some .folder ↔
      d.entry? (b.place l) = some .folder

theorem Alike.symm
    {b : Benchmark}
    {l : Location}
    {d e : Disk}
    (hAlike : Alike b l d e) :
    Alike b l e d :=
  ⟨fun name hName => (hAlike.read_eq name hName).symm,
    hAlike.folder_iff.symm⟩

/- The result lines of a benchmark that can be examined. -/
def contentAt?
    (s : Settings)
    (b : Benchmark)
    (d : Disk) : Option Bytes :=
  match loadBaseline d (s.baselinePath b.dir) with
  | .error _ => none
  | .ok baseline =>
      match d.create (s.outputPath b.name) with
      | .error _ => none
      | .ok _ =>
          some (contentOf s (outcomes s baseline d b.dir))

namespace Apart

variable {s : Settings} {b : Benchmark} {l : Location}
variable {d d' e : Disk} {target : Location}
variable {baseline : Baseline}

/- A benchmark stays apart while the results change. -/
theorem of_differsIn
    (hApart : Apart s b l d)
    (hDiffers : d.DiffersIn l e) :
    Apart s b l e := by
  refine
    ⟨hDiffers.plain, hApart.valid,
      hApart.output.of_keeps hDiffers.keeps, hApart.proper,
      ?_⟩
  rcases hApart.folder with ⟨m, hAt, hOther⟩
  exact ⟨m, hAt.of_keeps hDiffers.keeps, hOther⟩

/- For such a benchmark, all is as it was. -/
theorem alike_of_differsIn
    (hApart : Apart s b l d)
    (hDiffers : d.DiffersIn l e) :
    Alike b l d e := by
  rcases hApart.folder with ⟨m, hAt, hOther⟩
  exact
    ⟨fun name hName =>
      hDiffers.read_eq hApart.plain hAt hOther hName,
      hDiffers.folder_iff _⟩

/- A result file is created in its place, and is empty. -/
theorem create_eq
    (hApart : Apart s b l d)
    (hCreate :
      d.create (s.outputPath b.name) = .ok (target, d')) :
    target = b.place l ∧
      d' = d.put (b.place l) Disk.emptyFile ∧
      d.entry? (b.place l) ≠ some .folder := by
  have hTarget : target = b.place l :=
    hApart.plain.create_join hApart.output hApart.proper
      hCreate
  subst hTarget
  exact
    ⟨rfl, (hApart.plain.create_eq_put hCreate).1,
      (Disk.create_creates hCreate).not_folder⟩

/- Creating it leaves the rest of the disk as it was. -/
theorem create_differsIn
    (hApart : Apart s b l d)
    (hCreate :
      d.create (s.outputPath b.name) = .ok (target, d')) :
    d.DiffersIn l d' := by
  rcases hApart.create_eq hCreate with ⟨-, rfl, hFree⟩
  exact .put hApart.plain hApart.proper
    hApart.output.entry?_eq hFree _

/- Checkpoints are read as before it was created. -/
theorem read_created
    (hApart : Apart s b l d)
    (hCreate :
      d.create (s.outputPath b.name) = .ok (target, d'))
    (i : Nat) :
    d'.read (s.checkpointPath b.dir i) =
      d.read (s.checkpointPath b.dir i) :=
  (hApart.alike_of_differsIn
    (hApart.create_differsIn hCreate)).read_eq _
      (isName_checkpointName s i)

/- Whether writing fails is told by the limit of the place. -/
theorem writeFails_iff
    (hApart : Apart s b l d)
    (hLoad :
      loadBaseline d (s.baselinePath b.dir) = .ok baseline)
    (hCreate :
      d.create (s.outputPath b.name) = .ok (target, d'))
    {cause : DeviceFault} :
    WriteFails s b d cause ↔
      ∃ limit, d.limits.lookup (b.place l) = some limit ∧
        limit.room <
          (contentOf s (outcomes s baseline d b.dir)).length ∧
        limit.fault = cause := by
  have hRead := hApart.read_created hCreate
  have hNe : b.place l ≠ [] := List.cons_ne_nil _ _
  rw [writeFails_iff_short hLoad hCreate,
    outcomes_congr baseline hRead]
  rcases hApart.create_eq hCreate with ⟨rfl, rfl, -⟩
  have hLimit :
      (d.put (b.place l) Disk.emptyFile).limitAt?
          (b.place l) =
        d.limits.lookup (b.place l) :=
    Disk.limitAt?_of_file (Disk.entry?_put_self d hNe _)
  rw [hLimit]

/-
  If writing does not fail, an examination comes to what the
  disk was at its start, and leaves the result lines.
-/
theorem examine_of_writes
    (hApart : Apart s b l d)
    (hWrites : ∀ cause, ¬ WriteFails s b d cause)
    (hLoad :
      loadBaseline d (s.baselinePath b.dir) = .ok baseline)
    (hCreate :
      d.create (s.outputPath b.name) = .ok (target, d')) :
    examine s b d =
      { result :=
          .ok
            (reportOf s b baseline
              (outcomes s baseline d b.dir)
              (talliesOf s.missing
                (outcomes s baseline d b.dir)).length)
        disk :=
          d.leave (b.place l)
            (some
              (contentOf s (outcomes s baseline d b.dir)))
        events :=
          baselineEvents d (s.baselinePath b.dir) ++
              [.baselineLoaded b.name baseline.size] ++
            comparisonEvents s b baseline d
              (outcomes s baseline d b.dir) } := by
  have hRead := hApart.read_created hCreate
  have hRoom := hasRoom_of_writes hLoad hCreate hWrites
  have hNe : b.place l ≠ [] := List.cons_ne_nil _ _
  rw [examine_of_hasRoom hLoad hCreate hRoom,
    outcomes_congr baseline hRead,
    comparisonEvents_congr baseline hRead]
  rcases hApart.create_eq hCreate with ⟨rfl, rfl, -⟩
  rw [Disk.store, Disk.entry?_put_self d hNe,
    Disk.leave]
  simp only [Disk.emptyFile, Disk.put_put]

section Both

variable (hApart : Apart s b l d) (hAlike : Alike b l d e)

include hApart hAlike

theorem loadBaseline_alike :
    loadBaseline e (s.baselinePath b.dir) =
      loadBaseline d (s.baselinePath b.dir) :=
  loadBaseline_congr
    (hAlike.read_eq _ (isName_baseline hApart.valid))

variable (hApart' : Apart s b l e)

include hApart'

theorem create_alike :
    e.create (s.outputPath b.name) =
      (d.create (s.outputPath b.name)).map
        fun created =>
          (created.1, e.put created.1 Disk.emptyFile) :=
  hApart.plain.create_join_congr hApart'.plain hApart.output
    hApart'.output hApart.proper hAlike.folder_iff

/- With the same limits, writing fails on both or on none. -/
theorem writeFails_alike
    (hLimits : e.limits = d.limits)
    {cause : DeviceFault}
    (hFails : WriteFails s b d cause) :
    WriteFails s b e cause := by
  have hOpened := hFails
  rcases hOpened with ⟨baseline, target, d', hLoad, hCreate, -⟩
  have hLoad' := hApart.loadBaseline_alike hAlike
  have hCreate' := hApart.create_alike hAlike hApart'
  rw [hLoad] at hLoad'
  rw [hCreate] at hCreate'
  rw [hApart'.writeFails_iff hLoad' hCreate', hLimits,
    outcomes_congr baseline fun i =>
      hAlike.read_eq _ (isName_checkpointName s i)]
  exact (hApart.writeFails_iff hLoad hCreate).mp hFails

/- The benchmark has the same result lines on both. -/
theorem contentAt?_alike :
    contentAt? s b e = contentAt? s b d := by
  unfold contentAt?
  rw [hApart.loadBaseline_alike hAlike,
    hApart.create_alike hAlike hApart']
  cases loadBaseline d (s.baselinePath b.dir) with
  | error fault => rfl
  | ok baseline =>
      cases d.create (s.outputPath b.name) with
      | error fault => rfl
      | ok created =>
          simp only [Except.map]
          rw [outcomes_congr baseline fun i =>
            hAlike.read_eq _ (isName_checkpointName s i)]

/-
  If writing does not fail, an examination comes to the same
  on both disks, and leaves the same result lines.
-/
theorem examine_alike
    (hWrites : ∀ cause, ¬ WriteFails s b d cause)
    (hWrites' : ∀ cause, ¬ WriteFails s b e cause) :
    examine s b e =
      { examine s b d with
        disk := e.leave (b.place l) (contentAt? s b d) } := by
  have hLoad' := hApart.loadBaseline_alike hAlike
  have hCreate' := hApart.create_alike hAlike hApart'
  have hReading :
      baselineEvents e (s.baselinePath b.dir) =
        baselineEvents d (s.baselinePath b.dir) :=
    readingEvents_congr _ _
      (hAlike.read_eq _ (isName_baseline hApart.valid))
  have hRead (i : Nat) :
      e.read (s.checkpointPath b.dir i) =
        d.read (s.checkpointPath b.dir i) :=
    hAlike.read_eq _ (isName_checkpointName s i)
  unfold contentAt?
  cases hLoad : loadBaseline d (s.baselinePath b.dir) with
  | error fault =>
      rw [hLoad] at hLoad'
      rw [examine_of_load_error hLoad',
        examine_of_load_error hLoad, hReading]
      rfl
  | ok baseline =>
      rw [hLoad] at hLoad'
      cases hCreate : d.create (s.outputPath b.name) with
      | error fault =>
          rw [hCreate] at hCreate'
          rw [examine_of_create_error hLoad' hCreate',
            examine_of_create_error hLoad hCreate, hReading]
          rfl
      | ok created =>
          rw [hCreate] at hCreate'
          rw [hApart'.examine_of_writes hWrites' hLoad'
              hCreate',
            hApart.examine_of_writes hWrites hLoad hCreate,
            hReading, outcomes_congr baseline hRead,
            comparisonEvents_congr baseline hRead]

end Both

/- Writing fails as before while the results change. -/
theorem writeFails_of_differsIn
    (hApart : Apart s b l d)
    (hDiffers : d.DiffersIn l e)
    (cause : DeviceFault) :
    WriteFails s b e cause ↔ WriteFails s b d cause := by
  have hAlike := hApart.alike_of_differsIn hDiffers
  have hApart' := hApart.of_differsIn hDiffers
  have hLimits := hDiffers.keeps.limits_eq
  exact
    ⟨hApart'.writeFails_alike hAlike.symm hApart hLimits.symm,
      hApart.writeFails_alike hAlike hApart' hLimits⟩

/-
  So an examination comes to what it would have come to, if
  writing does not fail.
-/
theorem examine_of_differsIn
    (hApart : Apart s b l d)
    (hDiffers : d.DiffersIn l e)
    (hWrites : ∀ cause, ¬ WriteFails s b d cause) :
    examine s b e =
      { examine s b d with
        disk := e.leave (b.place l) (contentAt? s b d) } :=
  hApart.examine_alike (hApart.alike_of_differsIn hDiffers)
    (hApart.of_differsIn hDiffers) hWrites fun cause =>
      mt (hApart.writeFails_of_differsIn hDiffers cause).mp
        (hWrites cause)

end Apart

------------------------------------------------------------
-- All Examinations
------------------------------------------------------------

/-
  What is left of the results of benchmarks, as far as they
  can be examined on one disk, in a folder of another.
-/
def settled
    (s : Settings)
    (l : Location)
    (d : Disk)
    (benchmarks : List Benchmark)
    (e : Disk) : Disk :=
  benchmarks.foldl
    (fun e b => e.leave (b.place l) (contentAt? s b d)) e

section All

variable {s : Settings} {benchmarks : List Benchmark}
variable {b : Benchmark} {l m : Location} {d e : Disk}

/- What is left of one benchmark is a file in its place. -/
theorem Apart.leave_differsIn
    (hApart : Apart s b l d)
    (hDiffers : d.DiffersIn l e) :
    d.DiffersIn l (e.leave (b.place l) (contentAt? s b d)) := by
  have hApart' := hApart.of_differsIn hDiffers
  cases hContent : contentAt? s b d with
  | none => exact hDiffers
  | some content =>
      have hFree : d.entry? (b.place l) ≠ some .folder := by
        unfold contentAt? at hContent
        split at hContent
        · cases hContent
        · split at hContent
          · cases hContent
          · rename_i hCreate
            exact (hApart.create_eq hCreate).2.2
      refine hDiffers.trans
        (.put hApart'.plain hApart.proper
          hApart'.output.entry?_eq ?_ _)
      exact fun hFolder =>
        hFree ((hDiffers.folder_iff _).mp hFolder)

/- So is what is left of many. -/
theorem settled_differsIn
    (hApart : ∀ b ∈ benchmarks, Apart s b l d)
    (hDiffers : d.DiffersIn l e) :
    d.DiffersIn l (settled s l d benchmarks e) := by
  induction benchmarks generalizing e with
  | nil => exact hDiffers
  | cons b rest ih =>
      rw [List.forall_mem_cons] at hApart
      exact ih hApart.2 (hApart.1.leave_differsIn hDiffers)

section Turns

variable (hApart : ∀ b ∈ benchmarks, Apart s b l d)

include hApart

/-
  At its turn, writing fails for a benchmark exactly if it
  would have failed at the start.
-/
theorem writes_turns_iff
    (hDiffers : d.DiffersIn l e) :
    Writes s (turns s benchmarks e) ↔
      ∀ b ∈ benchmarks, ∀ cause, ¬ WriteFails s b d cause := by
  induction benchmarks generalizing e with
  | nil => simp [turns, writes_nil]
  | cons b rest ih =>
      rw [List.forall_mem_cons] at hApart
      simp only [turns, writes_cons_iff, List.forall_mem_cons,
        hApart.1.writeFails_of_differsIn hDiffers]
      refine and_congr_right fun hWrites => ?_
      rw [hApart.1.examine_of_differsIn hDiffers hWrites]
      exact ih hApart.2 (hApart.1.leave_differsIn hDiffers)

variable
  (hWrites :
    ∀ b ∈ benchmarks, ∀ cause, ¬ WriteFails s b d cause)

include hWrites

/-
  So every benchmark comes to the report or the failure that
  it would have come to at the start.
-/
theorem gathered_turns
    (hDiffers : d.DiffersIn l e) :
    gathered s (turns s benchmarks e) =
      gathered s (benchmarks.map fun b => (b, d)) := by
  induction benchmarks generalizing e with
  | nil => rfl
  | cons b rest ih =>
      rw [List.forall_mem_cons] at hApart hWrites
      have hExamined :=
        hApart.1.examine_of_differsIn hDiffers hWrites.1
      have hRest := ih hApart.2 hWrites.2
        (hApart.1.leave_differsIn hDiffers)
      rw [turns, List.map_cons, hExamined]
      cases hResult : (examine s b d).result with
      | ok report =>
          have hResult' :
              (examine s b e).result = .ok report := by
            rw [hExamined]
            exact hResult
          rw [gathered_cons_of_ok hResult',
            gathered_cons_of_ok hResult, hRest]
      | error fault =>
          have hResult' :
              (examine s b e).result = .error fault := by
            rw [hExamined]
            exact hResult
          rw [gathered_cons_of_error hResult',
            gathered_cons_of_error hResult, hRest]

/-
  Examining benchmarks after some results have changed comes
  to the same as before, and leaves the same results.
-/
theorem examineAll_settled
    (hDiffers : d.DiffersIn l e)
    (summary : Summary) :
    examineAll s benchmarks summary e =
      { examineAll s benchmarks summary d with
        disk := settled s l d benchmarks e } := by
  induction benchmarks generalizing e summary with
  | nil => rfl
  | cons b rest ih =>
      rw [List.forall_mem_cons] at hApart hWrites
      have hRefl := Disk.DiffersIn.refl hApart.1.plain l
      have hExamined {k : Disk} (hChanged : d.DiffersIn l k) :=
        hApart.1.examine_of_differsIn hChanged hWrites.1
      have hDisk :
          (examine s b d).disk =
            d.leave (b.place l) (contentAt? s b d) :=
        congrArg Step.disk (hExamined hRefl)
      -- the others do not look at the first result
      have hLater (next : Summary) :
          examineAll s rest next
              (e.leave (b.place l) (contentAt? s b d)) =
            { examineAll s rest next (examine s b d).disk with
              disk := settled s l d (b :: rest) e } := by
        rw [hDisk,
          ih hApart.2 hWrites.2
            (hApart.1.leave_differsIn hDiffers),
          ih hApart.2 hWrites.2
            (hApart.1.leave_differsIn hRefl)]
        rfl
      rw [examineAll, examineAll, hExamined hDiffers]
      cases hResult : (examine s b d).result with
      | ok report => simp only [hLater]
      | error fault =>
          have hFirst := examine_examined s b d
          rw [hResult] at hFirst
          have hMild := (hFirst.failed_of_writes hWrites.1).2
          simp only [hLater, if_neg hMild]

end Turns

/- The content that is left at a location, if there is one. -/
def lastContent?
    (s : Settings)
    (l : Location)
    (d : Disk)
    (benchmarks : List Benchmark)
    (m : Location) : Option Bytes :=
  ((benchmarks.filter fun b => b.place l = m).filterMap
    fun b => contentAt? s b d).getLast?

/- The last content is that of the others, if they have one. -/
theorem lastContent?_cons
    (s : Settings)
    (l : Location)
    (d : Disk)
    (b : Benchmark)
    (rest : List Benchmark)
    (m : Location) :
    lastContent? s l d (b :: rest) m =
      (lastContent? s l d rest m).or
        (if b.place l = m then contentAt? s b d else none) := by
  unfold lastContent?
  by_cases hHere : b.place l = m
  · rw [if_pos hHere,
      List.filter_cons_of_pos (by simpa using hHere)]
    cases hContent : contentAt? s b d with
    | none =>
        simp only [List.filterMap_cons, hContent,
          Option.or_none]
    | some content =>
        simp only [List.filterMap_cons, hContent,
          List.getLast?_cons, Option.or_some]
  · rw [if_neg hHere, Option.or_none,
      List.filter_cons_of_neg (by simpa using hHere)]

/- Each location holds the last content that was left there. -/
theorem entry?_settled
    (s : Settings)
    (l : Location)
    (d : Disk)
    (benchmarks : List Benchmark)
    (e : Disk)
    (m : Location) :
    Disk.entry? (settled s l d benchmarks e) m =
      ((lastContent? s l d benchmarks m).map fun content =>
        .file (Stream.ofBytes content)).or (e.entry? m) := by
  induction benchmarks generalizing e with
  | nil => rfl
  | cons b rest ih =>
      have hNe : b.place l ≠ [] := List.cons_ne_nil _ _
      rw [settled, List.foldl_cons, ← settled, ih,
        lastContent?_cons]
      cases hLast : lastContent? s l d rest m with
      | some content => rfl
      | none =>
          rw [Option.none_or]
          by_cases hHere : b.place l = m
          · rw [if_pos hHere]
            subst hHere
            cases contentAt? s b d with
            | none => rfl
            | some content =>
                exact Disk.entry?_put_self e hNe _
          · rw [if_neg hHere]
            cases contentAt? s b d with
            | none => rfl
            | some content =>
                exact Disk.entry?_put_of_ne e hNe
                  (Ne.symm hHere) _

end All

end PageHeat
