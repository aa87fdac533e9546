import PageHeat.Proofs.Analysis.Frame
import PageHeat.Proofs.Analysis.Policies

/-
  The faults of an examination.

  The baseline is read to its end before the result file is
  created, and creating the file comes before any result
  line. So whatever is wrong with the baseline, or with
  creating the file, leaves the disk as it was. Behind that
  only the result lines can fail to be written: a checkpoint
  that cannot be read is skipped.

  Key definitions include:
    * `Obstacle`

  Key lemmas include:
    * `faultAt?_eq_some_iff`
    * `examine_eq_error_iff`
    * `examine_fails_before_it_writes`
-/

------------------------------------------------------------
-- Obstacles
------------------------------------------------------------

namespace PageHeat

/-
  What keeps a benchmark from being examined: its baseline
  is missing, cannot be opened for another cause or breaks
  off, or its result file cannot be created.
-/
inductive Obstacle
    (s : Settings)
    (benchmark : Benchmark)
    (d : Disk) : Fault → Prop
  | missing
      (hRead :
        d.read (s.baselinePath benchmark.dir) =
          .error .noSuchFile) :
      Obstacle s benchmark d
        (.missingBaseline (s.baselinePath benchmark.dir))
  | unopened
      (cause : DeviceFault)
      (hOther : cause ≠ .noSuchFile)
      (hRead :
        d.read (s.baselinePath benchmark.dir) =
          .error cause) :
      Obstacle s benchmark d
        (.unreadable (s.baselinePath benchmark.dir) cause)
  | broken
      (bytes : Bytes)
      (cause : DeviceFault)
      (hRead :
        d.read (s.baselinePath benchmark.dir) =
          .ok ⟨bytes, some cause⟩) :
      Obstacle s benchmark d
        (.unreadable (s.baselinePath benchmark.dir) cause)
  | uncreatable
      (bytes : Bytes)
      (cause : DeviceFault)
      (hRead :
        d.read (s.baselinePath benchmark.dir) =
          .ok (Stream.ofBytes bytes))
      (hCreate :
        d.create (s.outputPath benchmark.name) =
          .error cause) :
      Obstacle s benchmark d
        (.uncreatable (s.outputPath benchmark.name) cause)

section Examinations

variable {s : Settings} {benchmark : Benchmark} {d : Disk}

/- The obstacle is the fault that a benchmark has. -/
theorem faultAt?_eq_some_iff
    {fault : Fault} :
    faultAt? s benchmark d = some fault ↔
      Obstacle s benchmark d fault := by
  constructor
  · intro hFault
    unfold faultAt? at hFault
    simp only at hFault
    split at hFault
    · rename_i hRead
      cases hFault
      exact .missing hRead
    · rename_i cause hOther hRead
      cases hFault
      exact .unopened cause hOther hRead
    · rename_i bytes cause hRead
      cases hFault
      exact .broken bytes cause hRead
    · rename_i bytes hRead
      split at hFault
      · rename_i cause hCreate
        cases hFault
        exact .uncreatable bytes cause hRead hCreate
      · cases hFault
  · intro hObstacle
    unfold faultAt?
    cases hObstacle with
    | missing hRead =>
        simp only [hRead]
        rfl
    | unopened cause hOther hRead =>
        simp only [hRead]
        split
        · rename_i hEq
          cases hEq
          exact absurd rfl hOther
        · rename_i hEq
          cases hEq
          rfl
        · rename_i hEq
          cases hEq
        · rename_i hEq
          cases hEq
    | broken bytes cause hRead => simp only [hRead]
    | uncreatable bytes cause hRead hCreate =>
        simp only [hRead, hCreate, Stream.ofBytes]

/-
  An examination fails exactly if there is an obstacle or
  its result lines cannot be written.
-/
theorem examine_eq_error_iff
    {fault : Fault} :
    (examine s benchmark d).result = .error fault ↔
      Obstacle s benchmark d fault ∨
        ∃ cause,
          fault =
              .brokenDevice (s.outputPath benchmark.name)
                cause ∧
            WriteFails s benchmark d cause := by
  constructor
  · intro hResult
    by_cases hWrites : ∃ cause, WriteFails s benchmark d cause
    · rcases hWrites with ⟨cause, hFails⟩
      rw [result_of_writeFails hFails] at hResult
      cases hResult
      exact .inr ⟨cause, rfl, hFails⟩
    · have hExamined := examine_examined s benchmark d
      rw [hResult] at hExamined
      have hFault :=
        (hExamined.failed_of_writes
          (not_exists.mp hWrites)).1
      exact .inl (faultAt?_eq_some_iff.mp hFault)
  · rintro (hObstacle | ⟨cause, rfl, hFails⟩)
    · exact
        (examine_of_fault
          (faultAt?_eq_some_iff.mpr hObstacle)).1
    · exact result_of_writeFails hFails

------------------------------------------------------------
-- Each Fault
------------------------------------------------------------

/- A missing baseline is one that opening does not find. -/
theorem examine_missingBaseline_iff
    {p : Path} :
    (examine s benchmark d).result =
        .error (.missingBaseline p) ↔
      p = s.baselinePath benchmark.dir ∧
        d.read (s.baselinePath benchmark.dir) =
          .error .noSuchFile := by
  rw [examine_eq_error_iff]
  constructor
  · rintro (hObstacle | ⟨cause, hEq, -⟩)
    · cases hObstacle with
      | missing hRead => exact ⟨rfl, hRead⟩
    · cases hEq
  · rintro ⟨rfl, hRead⟩
    exact .inl (.missing hRead)

/- An unreadable one is not opened otherwise, or breaks. -/
theorem examine_unreadable_iff
    {p : Path}
    {cause : DeviceFault} :
    (examine s benchmark d).result =
        .error (.unreadable p cause) ↔
      p = s.baselinePath benchmark.dir ∧
        (cause ≠ .noSuchFile ∧
            d.read (s.baselinePath benchmark.dir) =
              .error cause ∨
          ∃ bytes,
            d.read (s.baselinePath benchmark.dir) =
              .ok ⟨bytes, some cause⟩) := by
  rw [examine_eq_error_iff]
  constructor
  · rintro (hObstacle | ⟨cause, hEq, -⟩)
    · cases hObstacle with
      | unopened _ hOther hRead =>
          exact ⟨rfl, .inl ⟨hOther, hRead⟩⟩
      | broken bytes _ hRead =>
          exact ⟨rfl, .inr ⟨bytes, hRead⟩⟩
    · cases hEq
  · rintro ⟨rfl, ⟨hOther, hRead⟩ | ⟨bytes, hRead⟩⟩
    · exact .inl (.unopened cause hOther hRead)
    · exact .inl (.broken bytes cause hRead)

/- The result file is created behind a whole baseline. -/
theorem examine_uncreatable_iff
    {p : Path}
    {cause : DeviceFault} :
    (examine s benchmark d).result =
        .error (.uncreatable p cause) ↔
      p = s.outputPath benchmark.name ∧
        (∃ bytes,
          d.read (s.baselinePath benchmark.dir) =
            .ok (Stream.ofBytes bytes)) ∧
        d.create (s.outputPath benchmark.name) =
          .error cause := by
  rw [examine_eq_error_iff]
  constructor
  · rintro (hObstacle | ⟨cause, hEq, -⟩)
    · cases hObstacle with
      | uncreatable bytes _ hRead hCreate =>
          exact ⟨rfl, ⟨bytes, hRead⟩, hCreate⟩
    · cases hEq
  · rintro ⟨rfl, ⟨bytes, hRead⟩, hCreate⟩
    exact .inl (.uncreatable bytes cause hRead hCreate)

/- A broken device is one that takes no result lines. -/
theorem examine_brokenDevice_iff
    {p : Path}
    {cause : DeviceFault} :
    (examine s benchmark d).result =
        .error (.brokenDevice p cause) ↔
      p = s.outputPath benchmark.name ∧
        WriteFails s benchmark d cause := by
  rw [examine_eq_error_iff]
  constructor
  · rintro (hObstacle | ⟨cause, hEq, hFails⟩)
    · cases hObstacle
    · cases hEq
      exact ⟨rfl, hFails⟩
  · rintro ⟨rfl, hFails⟩
    exact .inr ⟨cause, rfl, hFails⟩

/- A fault that ends a run is the one of a broken device. -/
theorem examine_error_of_isFatal
    {fault : Fault}
    (hResult : (examine s benchmark d).result = .error fault)
    (hFatal : fault.IsFatal) :
    ∃ cause,
      fault =
        .brokenDevice (s.outputPath benchmark.name) cause := by
  rcases examine_eq_error_iff.mp hResult with
    hObstacle | ⟨cause, hEq, -⟩
  · have hFault := faultAt?_eq_some_iff.mpr hObstacle
    exact absurd hFatal (examine_of_fault hFault).2.2
  · exact ⟨cause, hEq⟩

/- Any other fault leaves the disk as it was. -/
theorem disk_of_examine_error
    {fault : Fault}
    (hResult : (examine s benchmark d).result = .error fault)
    (hOther : ∀ p cause, fault ≠ .brokenDevice p cause) :
    (examine s benchmark d).disk = d := by
  rcases examine_eq_error_iff.mp hResult with
    hObstacle | ⟨cause, hEq, -⟩
  · have hFault := faultAt?_eq_some_iff.mpr hObstacle
    exact (examine_of_fault hFault).2.1
  · exact absurd hEq (hOther _ cause)

/- Where writing does not fail, there is a report. -/
theorem examine_of_writes_skips
    {target : Location}
    {d' : Disk}
    (hRead :
      ∃ bytes,
        d.read (s.baselinePath benchmark.dir) =
          .ok (Stream.ofBytes bytes))
    (hCreate :
      d.create (s.outputPath benchmark.name) =
        .ok (target, d'))
    (hWrites : ∀ cause, ¬ WriteFails s benchmark d cause) :
    ∃ report,
      (examine s benchmark d).result = .ok report ∧
        ∀ i ∈ s.indices,
          s.Skips benchmark.dir report i ↔
            ¬ ∃ bytes,
              d'.read (s.checkpointPath benchmark.dir i) =
                .ok (Stream.ofBytes bytes) := by
  rcases (loadBaseline_eq_ok_iff d _).mpr hRead with
    ⟨b, hLoad⟩
  refine
    ⟨_, congrArg Step.result
      (examine_of_hasRoom hLoad hCreate
        (hasRoom_of_writes hLoad hCreate hWrites)), ?_⟩
  intro i hIndex
  have hAccounts := accounts_outcomes s benchmark b d'
  rw [hAccounts.skips_iff hIndex, ← compared?_isSome_iff b,
    Bool.not_eq_true, Option.isSome_eq_false_iff,
    Option.isNone_iff_eq_none]

end Examinations

------------------------------------------------------------
-- Faults Before Writing
------------------------------------------------------------

/-
  An examination fails because its baseline is missing, if
  opening it finds nothing, because the baseline cannot be
  opened otherwise or breaks off, or because the result file
  cannot be created. In all these cases the disk is left as
  it was. Besides that, it only fails if result lines cannot
  be written; where writing them does not fail, it gives a
  report, and the checkpoints that cannot be read to their
  ends are skipped in it.
-/
theorem examine_fails_before_it_writes
    (s : Settings)
    (benchmark : Benchmark)
    (d : Disk) :
    let step := examine s benchmark d
    let path := s.baselinePath benchmark.dir
    let output := s.outputPath benchmark.name
    (∀ p,
      step.result = .error (.missingBaseline p) ↔
        p = path ∧ d.read path = .error .noSuchFile) ∧
    (∀ p cause,
      step.result = .error (.unreadable p cause) ↔
        p = path ∧
          (cause ≠ .noSuchFile ∧ d.read path = .error cause ∨
            ∃ bytes, d.read path = .ok ⟨bytes, some cause⟩)) ∧
    (∀ p cause,
      step.result = .error (.uncreatable p cause) ↔
        p = output ∧
          (∃ bytes, d.read path = .ok (Stream.ofBytes bytes)) ∧
          d.create output = .error cause) ∧
    (∀ p cause,
      step.result = .error (.brokenDevice p cause) ↔
        p = output ∧ WriteFails s benchmark d cause) ∧
    (∀ reason,
      step.result ≠ .error (.badFilter reason) ∧
        step.result ≠ .error (.badSettings reason)) ∧
    (∀ fault,
      step.result = .error fault →
        (∀ p cause, fault ≠ .brokenDevice p cause) →
          step.disk = d) ∧
    ∀ target d',
      (∃ bytes, d.read path = .ok (Stream.ofBytes bytes)) →
        d.create output = .ok (target, d') →
          (∀ cause, ¬ WriteFails s benchmark d cause) →
            ∃ report,
              step.result = .ok report ∧
                ∀ i ∈ s.indices,
                  s.Skips benchmark.dir report i ↔
                    ¬ ∃ bytes,
                      d'.read
                          (s.checkpointPath benchmark.dir i) =
                        .ok (Stream.ofBytes bytes) := by
  intro step path output
  refine
    ⟨fun p => examine_missingBaseline_iff,
      fun p cause => examine_unreadable_iff,
      fun p cause => examine_uncreatable_iff,
      fun p cause => examine_brokenDevice_iff, ?_,
      fun fault => disk_of_examine_error,
      fun target d' => examine_of_writes_skips⟩
  intro reason
  constructor
  · intro hResult
    rcases examine_error_of_isFatal hResult trivial with
      ⟨cause, hEq⟩
    cases hEq
  · intro hResult
    rcases examine_error_of_isFatal hResult trivial with
      ⟨cause, hEq⟩
    cases hEq

/-
  A disk with the result file of an earlier run, and with a
  baseline that now breaks off behind its first line.
-/
def tornDisk : Disk :=
  let torn :=
    Stream.breakingAt 4 (.numbered 5) (Utf8.encode "x,t\ny,u\n")
  let earlier := Stream.ofBytes (Utf8.encode "1 4 4\n")
  (smallDisk.put ["10M.csv", "b", "in"] (.file torn)).put
    ["b", "out"] (.file earlier)

/-
  The earlier result file is kept, and the checkpoint that
  breaks off is skipped.
-/
theorem examine_tornDisk :
    let b : Benchmark := ⟨"b", "in/b"⟩
    let target : Location := ["b", "out"]
    let torn := examine smallSettings b tornDisk
    let step := examine gappySettings b gappyDisk
    let d' := gappyDisk.put target Disk.emptyFile
    torn.result =
        .error (.unreadable "in/b/10M.csv" (.numbered 5)) ∧
      torn.disk = tornDisk ∧
      torn.disk.read "out/b" =
        .ok (Stream.ofBytes (Utf8.encode "1 4 4\n")) ∧
      gappyDisk.create "out/b" = .ok (target, d') ∧
      (∀ cause, ¬ WriteFails gappySettings b gappyDisk cause) ∧
      ∃ report,
        step.result = .ok report ∧
          gappySettings.Skips "in/b" report 2 := by
  intro b target torn step d'
  have hTorn :=
    examine_fails_before_it_writes smallSettings b tornDisk
  have hGappy :=
    examine_fails_before_it_writes gappySettings b gappyDisk
  rcases hTorn with ⟨-, hUnreadable, -, -, -, hKept, -⟩
  rcases hGappy with ⟨-, -, -, -, -, -, hReport⟩
  have hResult :
      torn.result =
        .error (.unreadable "in/b/10M.csv" (.numbered 5)) :=
    (hUnreadable _ _).mpr ⟨rfl, .inr ⟨_, rfl⟩⟩
  have hDisk : torn.disk = tornDisk :=
    hKept _ hResult fun p cause hEq => by cases hEq
  have hCreate :
      gappyDisk.create (gappySettings.outputPath b.name) =
        .ok (target, d') := by
    rfl
  have hWrites :
      ∀ cause, ¬ WriteFails gappySettings b gappyDisk cause :=
    not_writeFails_of_no_limit hCreate rfl
  rcases hReport target d' ⟨_, rfl⟩ hCreate hWrites with
    ⟨report, hOk, hSkips⟩
  refine
    ⟨hResult, hDisk, by rw [hDisk]; rfl, hCreate, hWrites,
      report, hOk, (hSkips 2 (by decide)).mpr ?_⟩
  rintro ⟨bytes, hRead⟩
  cases hRead

end PageHeat
