import PageHeat.Proofs.Analysis.Turns
import PageHeat.Proofs.Disk.Changing

/-
  Where a run stops on any disk, also one with links, with
  devices, and with files that have no room.

  A run goes through the benchmarks up to the first one for
  which there is no room. Until then it changes nothing but
  files at the result paths of benchmarks that have a
  report. The result file of the one that breaks is left
  with as many octets as there was room for.

  Key definitions include:
    * `reporters`
    * `Untouched`
    * `Handled`
    * `Broken`

  Key lemmas include:
    * `exists_of_turns_eq_append`
    * `changesAt_of_turns`
    * `handled_of_turns`
    * `broken_of_writeFails`
    * `isFatal_of_run`
    * `run_stops_where_writing_fails`
-/

------------------------------------------------------------
-- Turns With Reports
------------------------------------------------------------

namespace PageHeat

/- Whether an examination gives a report. -/
def Step.HasReport (step : Step Report) : Prop :=
  match step.result with
  | .ok _ => True
  | .error _ => False

instance (step : Step Report) : Decidable step.HasReport := by
  unfold Step.HasReport
  split
  · exact .isTrue trivial
  · exact .isFalse id

/- The benchmarks that give a report at their turns. -/
def reporters
    (s : Settings)
    (turns : List (Benchmark × Disk)) : List Benchmark :=
  (turns.filter fun (b, e) => (examine s b e).HasReport).map
    Prod.fst

def resultPaths
    (s : Settings)
    (benchmarks : List Benchmark) : List Path :=
  benchmarks.map fun b => s.outputPath b.name

section Turns

variable {s : Settings} {benchmark : Benchmark}
variable {benchmarks : List Benchmark} {d : Disk}
variable {front back : List (Benchmark × Disk)}

/- A first turn counts if its benchmark gives a report. -/
theorem reporters_cons
    (s : Settings)
    (turn : Benchmark × Disk)
    (turns : List (Benchmark × Disk)) :
    reporters s (turn :: turns) =
      reporters s [turn] ++ reporters s turns := by
  rw [reporters, reporters, reporters, ← List.map_append,
    ← List.filter_append, List.singleton_append]

/- An examination changes the place of its report only. -/
theorem examine_changesAt
    (hWrites : ∀ cause, ¬ WriteFails s benchmark d cause) :
    d.ChangesAt
      (resultPaths s (reporters s [(benchmark, d)]))
      (examine s benchmark d).disk := by
  have hExamined := examine_examined s benchmark d
  generalize hResult : (examine s benchmark d).result = result
    at hExamined
  generalize (examine s benchmark d).disk = d' at hExamined ⊢
  cases hExamined with
  | failed _ _ _ => exact Disk.ChangesAt.refl _ _
  | broken _ _ _ _ _ _ _ _ _ _ _ hFails _ =>
      exact absurd hFails (hWrites _)
  | written b target d' report content _ _ hCreate _ _ =>
      have hReporters :
          reporters s [(benchmark, d)] = [benchmark] := by
        have hHas : (examine s benchmark d).HasReport := by
          rw [Step.HasReport, hResult]
          trivial
        rw [reporters, List.filter_cons,
          if_pos (decide_eq_true hHas)]
        rfl
      rw [hReporters]
      exact (Disk.changesAt_of_create hCreate _).1

/-
  The turns behind some others are turns again, on a disk
  that has changed at the result paths of the reports so
  far.
-/
theorem exists_of_turns_eq_append
    (hTurns : turns s benchmarks d = front ++ back)
    (hWrites : Writes s front) :
    ∃ rest e,
      back = turns s rest e ∧
        d.ChangesAt (resultPaths s (reporters s front)) e := by
  induction front generalizing benchmarks d with
  | nil =>
      exact ⟨benchmarks, d, hTurns.symm,
        Disk.ChangesAt.refl d _⟩
  | cons turn front ih =>
      cases benchmarks with
      | nil => cases hTurns
      | cons benchmark rest =>
          rw [turns, List.cons_append, List.cons.injEq]
            at hTurns
          rcases hTurns with ⟨rfl, hTail⟩
          rw [writes_cons_iff] at hWrites
          rcases ih hTail hWrites.2 with
            ⟨rest', e, hBack, hChanges⟩
          refine ⟨rest', e, hBack, ?_⟩
          rw [reporters_cons, resultPaths, List.map_append]
          exact (examine_changesAt hWrites.1).trans hChanges

/-
  The turns behind a first one are on the disk that its
  examination leaves.
-/
theorem turns_eq_cons
    {turn : Benchmark × Disk}
    (hTurns : turns s benchmarks d = turn :: back) :
    ∃ rest,
      turn.2 = d ∧
        back = turns s rest (examine s turn.1 turn.2).disk := by
  cases benchmarks with
  | nil => cases hTurns
  | cons benchmark rest =>
      rw [turns, List.cons.injEq] at hTurns
      rcases hTurns with ⟨rfl, rfl⟩
      exact ⟨rest, rfl, rfl⟩

theorem writes_append_iff :
    Writes s (front ++ back) ↔
      Writes s front ∧ Writes s back := by
  induction front with
  | nil => exact ⟨fun h => ⟨writes_nil s, h⟩, And.right⟩
  | cons turn front ih =>
      rcases turn with ⟨b, e⟩
      rw [List.cons_append, writes_cons_iff, writes_cons_iff,
        ih, and_assoc]

end Turns

------------------------------------------------------------
-- Benchmarks Whose Turns Have Passed
------------------------------------------------------------

/-
  A benchmark whose result path has the same file as on an
  earlier disk, or leads to the place of the result of one
  of some others.
-/
def Untouched
    (s : Settings)
    (others : List Benchmark)
    (d d' : Disk)
    (benchmark : Benchmark) : Prop :=
  d.SameFile (s.outputPath benchmark.name) d' ∨
    ∃ other ∈ others,
      d'.SharePlace (s.outputPath other.name)
        (s.outputPath benchmark.name)

/-
  What has become of a benchmark that was examined on a disk
  `e`, on a disk `d'` after later results. It has failed and
  is untouched since the start of the run, or its result
  file is complete, unless a device took it or a later
  result was put in its place.
-/
inductive Handled
    (s : Settings)
    (d : Disk)
    (touched : List Benchmark)
    (benchmark : Benchmark)
    (e : Disk)
    (later : List Benchmark)
    (d' : Disk) : Prop
  | failed
      (fault : Fault)
      (hResult : (examine s benchmark e).result = .error fault)
      (hFault : faultAt? s benchmark e = some fault)
      (hMild : ¬ fault.IsFatal)
      (hUntouched : Untouched s touched d d' benchmark)
  | written
      (b : Baseline)
      (target : Location)
      (e' : Disk)
      (report : Report)
      (content : Bytes)
      (hResult : (examine s benchmark e).result = .ok report)
      (hLoad :
        loadBaseline e (s.baselinePath benchmark.dir) = .ok b)
      (hCreate :
        e.create (s.outputPath benchmark.name) =
          .ok (target, e'))
      (hAccounts :
        Accounts s benchmark b e' report content)
      (hFile :
        d'.read (s.outputPath benchmark.name) =
            .ok (Stream.ofBytes content) ∨
          e'.entry? target = some .nullDevice ∨
          e'.entry? target = some .fullDevice ∨
          ∃ other ∈ later,
            d'.SharePlace (s.outputPath other.name)
              (s.outputPath benchmark.name))

/-
  What has become of a benchmark without room for its result
  lines: its result file holds as many octets of them as
  there was room for, unless a device took none.
-/
inductive Broken
    (s : Settings)
    (benchmark : Benchmark)
    (e : Disk)
    (cause : DeviceFault)
    (d' : Disk) : Prop
  | intro
      (b : Baseline)
      (target : Location)
      (e' : Disk)
      (report : Report)
      (content : Bytes)
      (limit : Limit)
      (hLoad :
        loadBaseline e (s.baselinePath benchmark.dir) = .ok b)
      (hCreate :
        e.create (s.outputPath benchmark.name) =
          .ok (target, e'))
      (hAccounts :
        Accounts s benchmark b e' report content)
      (hLimit : e'.limitAt? target = some limit)
      (hCause : limit.fault = cause)
      (hShort : limit.room < content.length)
      (hFile :
        d'.read (s.outputPath benchmark.name) =
            .ok (Stream.ofBytes (content.take limit.room)) ∨
          e'.entry? target = some .fullDevice ∧ d' = e)

section Stops

variable {s : Settings} {benchmarks : List Benchmark}
variable {d d₁ d' e : Disk} {benchmark b : Benchmark}
variable {earlier front back later : List (Benchmark × Disk)}
variable {cause : DeviceFault}

/-
  If writing fails, the place of the result has changed, and
  holds what there was room for.
-/
theorem broken_of_writeFails
    (hFails : WriteFails s b e cause) :
    e.ChangesAt (resultPaths s [b]) (examine s b e).disk ∧
      Broken s b e cause (examine s b e).disk := by
  have hResult := result_of_writeFails hFails
  have hExamined := examine_examined s b e
  rw [hResult] at hExamined
  generalize (examine s b e).disk = d' at hExamined ⊢
  cases hExamined with
  | failed _ _ hMild => exact absurd trivial hMild
  | broken baseline target e' report content limit _ hLoad
      hCreate hLimit hShort _ hAccounts =>
      refine ⟨(Disk.changesAt_of_create hCreate _).1, ?_⟩
      refine .intro baseline target e' report content limit
        hLoad hCreate hAccounts hLimit rfl hShort ?_
      rcases (Disk.create_creates hCreate).entry?_target with
        hFile | hNull | hFull
      · exact .inl (Disk.read_of_resolve
          (Disk.resolve_store hCreate hFile _))
      · rw [Disk.limitAt?_of_nullDevice hNull] at hLimit
        cases hLimit
      · refine .inr ⟨hFull, ?_⟩
        rw [Disk.store, hFull]
        exact Disk.eq_of_create_full hCreate hFull

-- there is room for a part of the first line
example :
    let d : Disk :=
      { smallDisk with
        limits := [(["b", "out"], ⟨3, .noSpace⟩)] }
    Disk.read
        (examine smallSettings ⟨"b", "in/b"⟩ d).disk
        "out/b" =
      .ok (Stream.ofBytes (Utf8.encode "1 4")) := by
  decide +kernel

/- Changes at results leave other results untouched. -/
theorem untouched_of_changesAt
    {others : List Benchmark}
    (hGains : d.GainsFolders d₁)
    (hChanges : d₁.ChangesAt (resultPaths s others) d')
    (benchmark : Benchmark) :
    Untouched s others d d' benchmark := by
  rcases Disk.sameFile_or_sharePlace hGains hChanges
      (s.outputPath benchmark.name) with
    hSame | ⟨q, hMem, hShare⟩
  · exact .inl hSame
  · rcases List.mem_map.mp hMem with ⟨other, hOther, rfl⟩
    exact .inr ⟨other, hOther, hShare⟩

/-
  Until some turn, the disk has changed at the result paths
  of the reports before it, and if writing fails there, at
  its own result path as well.
-/
theorem changesAt_of_turns
    (hTurns :
      turns s benchmarks d = earlier ++ (b, e) :: later)
    (hWrites : Writes s earlier)
    (hFails : WriteFails s b e cause) :
    d.ChangesAt (resultPaths s (reporters s earlier ++ [b]))
      (examine s b e).disk := by
  rcases exists_of_turns_eq_append hTurns hWrites with
    ⟨rest, k, hBack, hChanges⟩
  rcases turns_eq_cons hBack.symm with ⟨-, hEq, -⟩
  have hPlace : e = k := hEq
  subst hPlace
  rw [resultPaths, List.map_append]
  exact hChanges.trans (broken_of_writeFails hFails).1

/-
  A benchmark whose turn was before that of one that breaks
  is handled.
-/
theorem handled_of_turns
    (hGains : d.GainsFolders d₁)
    (hTurns :
      turns s benchmarks d₁ =
        (front ++ (benchmark, e) :: back) ++ (b, d') :: later)
    (hWrites : Writes s (front ++ (benchmark, e) :: back))
    (hFails : WriteFails s b d' cause) :
    Handled s d
      (reporters s (front ++ (benchmark, e) :: back) ++ [b])
      benchmark e (reporters s back ++ [b])
      (examine s b d').disk := by
  have hAll := changesAt_of_turns hTurns hWrites hFails
  rw [writes_append_iff, writes_cons_iff] at hWrites
  rcases hWrites with ⟨hFront, hSelf, hBehind⟩
  -- what has changed since the turn of the benchmark
  have hSince :
      (examine s benchmark e).disk.ChangesAt
        (resultPaths s (reporters s back ++ [b]))
        (examine s b d').disk := by
    rw [List.append_assoc, List.cons_append] at hTurns
    rcases exists_of_turns_eq_append hTurns hFront with
      ⟨rest, k, hBack, -⟩
    rcases turns_eq_cons hBack.symm with ⟨rest', -, hRest⟩
    exact changesAt_of_turns hRest.symm hBehind hFails
  have hExamined := examine_examined s benchmark e
  generalize hResult : (examine s benchmark e).result = result
    at hExamined
  generalize (examine s benchmark e).disk = k
    at hExamined hSince
  cases hExamined with
  | failed fault hFault hMild =>
      exact .failed fault hResult hFault hMild
        (untouched_of_changesAt hGains hAll benchmark)
  | broken _ _ _ _ _ _ _ _ _ _ _ hBreaks _ =>
      exact absurd hBreaks (hSelf _)
  | written baseline target e' report content _ hLoad hCreate
      _ hAccounts =>
      refine .written baseline target e' report content
        hResult hLoad hCreate hAccounts ?_
      rcases (Disk.create_creates hCreate).entry?_target with
        hFile | hDevice
      · have hStored := Disk.resolve_store hCreate hFile
          { received := content }
        rcases untouched_of_changesAt
            (Disk.GainsFolders.refl _) hSince benchmark with
          hSame | hShare
        · exact .inl (Disk.read_of_resolve
            ((hSame target _).1 hStored))
        · exact .inr (.inr (.inr hShare))
      · rcases hDevice with hNull | hFull
        · exact .inr (.inl hNull)
        · exact .inr (.inr (.inl hFull))

/-
  Before the turn of a benchmark come those with smaller
  names, and none with a larger one.
-/
theorem names_of_turns
    (hOrder :
      (benchmarks.map Benchmark.name).Pairwise
        (fun t u => Text.atMost t u = true))
    (hTurns :
      turns s benchmarks d = earlier ++ (b, e) :: later) :
    (∀ x ∈ benchmarks,
      Text.Before x.name b.name →
        x ∈ earlier.map Prod.fst) ∧
    ∀ x ∈ earlier.map Prod.fst,
      Text.atMost x.name b.name = true := by
  have hSplit :
      benchmarks =
        earlier.map Prod.fst ++ b :: later.map Prod.fst := by
    rw [← map_fst_turns s benchmarks d, hTurns,
      List.map_append, List.map_cons]
  rw [hSplit, List.map_append, List.map_cons,
    List.pairwise_append, List.pairwise_cons] at hOrder
  rcases hOrder with ⟨-, ⟨hLater, -⟩, hEarlier⟩
  constructor
  · intro x hMem hBefore
    rw [hSplit, List.mem_append, List.mem_cons] at hMem
    rcases hMem with hFront | rfl | hBack
    · exact hFront
    · exact absurd rfl hBefore.2
    · have hAtMost := hLater x.name (List.mem_map_of_mem hBack)
      exact absurd (Text.atMost_antisymm hBefore.1 hAtMost)
        hBefore.2
  · intro x hMem
    exact hEarlier x.name (List.mem_map_of_mem hMem) b.name
      List.mem_cons_self

end Stops

------------------------------------------------------------
-- The Whole Run
------------------------------------------------------------

variable {α : Type} {engine : PatternEngine α}
variable {selection : Selection α}
variable {root : Path} {s : Settings} {d : Disk}
variable {workers : Workers}

/- A root that cannot be listed ends the run. -/
theorem isFatal_of_discover
    {output : Option Path}
    {fault : Fault}
    (hDiscover :
      discover engine selection root output d =
        .error fault) :
    fault.IsFatal := by
  unfold discover at hDiscover
  split at hDiscover
  · cases hDiscover
    trivial
  · cases hDiscover

/- Every fault of a run is fatal. -/
theorem isFatal_of_run
    {fault : Fault}
    (hRun :
      (run engine root s d workers).result = .error fault) :
    fault.IsFatal := by
  unfold run at hRun
  split at hRun
  · cases hRun
    trivial
  split at hRun
  · cases hRun
    trivial
  split at hRun
  · cases hRun
    trivial
  unfold runSelected at hRun
  split at hRun
  · rename_i hDiscover
    cases hRun
    exact isFatal_of_discover hDiscover
  rename_i benchmarks found hDiscover
  split at hRun
  · cases hRun
    trivial
  rcases examineAll_stops s benchmarks { } _ with
    ⟨-, hOk, -⟩ | ⟨_, _, _, _, _, -, -, -, hError, -⟩
  · cases hOk.symm.trans hRun
  · cases hError.symm.trans hRun
    trivial

/-
  Every fault that ends a run is fatal. If the settings are
  not valid or the filter cannot be read, the run ends with
  this fault and the disk is as it was. Once benchmarks are
  found, a run without workers ends with this fault and has
  created nothing but folders. With workers, it gives a
  summary unless the result lines of some benchmark cannot
  be written. It then ends with this fault at the first such
  benchmark, whose result file holds what there was room
  for: all those with smaller names are handled, and those
  with larger names are untouched. Two results whose names
  are shown differently can only be in one place if a link,
  or a further name of a file, stands there.
-/
theorem run_stops_where_writing_fails
    (engine : PatternEngine α)
    (root : Path)
    (s : Settings)
    (d : Disk)
    (workers : Workers) :
    let last := run engine root s d workers
    let d₁ := (d.makeFolders s.outputDir).1
    (∀ fault, last.result = .error fault → fault.IsFatal) ∧
    (∀ fault,
      s.validate = .error fault →
        last.result = .error (.badSettings fault.message) ∧
          last.disk = d) ∧
    (∀ fault,
      s.validate = .ok () →
        selectionOf engine s = .error fault →
          last.result = .error fault.toFault ∧
            last.disk = d) ∧
    (∀ selection benchmarks found,
      s.validate = .ok () →
        selectionOf engine s = .ok selection →
        (d.makeFolders s.outputDir).2 = none →
        discover engine selection root (some s.outputDir) d₁ =
          .ok (benchmarks, found) →
          d.GainsFolders d₁ ∧
          (∀ reason,
            workers s.jobs = .error reason →
              last.result = .error (Workers.fault reason) ∧
                last.disk = d₁) ∧
          (workers s.jobs = .ok () →
            Writes s (turns s benchmarks d₁) ∧
              (∃ summary, last.result = .ok summary) ∨
            ∃ earlier b e later cause,
              turns s benchmarks d₁ =
                earlier ++ (b, e) :: later ∧
              WriteFails s b e cause ∧
              last.result =
                .error
                  (.brokenDevice (s.outputPath b.name)
                    cause) ∧
              Broken s b e cause last.disk ∧
              (∀ x ∈ benchmarks,
                Text.Before x.name b.name →
                  x ∈ earlier.map Prod.fst) ∧
              (∀ x ∈ earlier.map Prod.fst,
                Text.atMost x.name b.name = true) ∧
              (∀ front x ex back,
                earlier = front ++ (x, ex) :: back →
                  Handled s d (reporters s earlier ++ [b]) x
                    ex (reporters s back ++ [b])
                    last.disk) ∧
              ∀ c ∈ benchmarks,
                Text.Before b.name c.name →
                  Untouched s (reporters s earlier ++ [b]) d
                    last.disk c)) ∧
    ∀ l,
      last.disk.resolve s.outputDir =
          .ok (.present l .folder) →
        ∀ t u : Text,
          Path.IsProper (Utf8.encode t) ∧
              Path.IsProper (Utf8.encode u) →
            (∀ entry,
              last.disk.entry? (Utf8.encode t :: l) =
                    some entry ∨
                  last.disk.entry? (Utf8.encode u :: l) =
                    some entry →
                ¬ entry.IsLink) →
              last.disk.SharePlace (s.outputPath t)
                  (s.outputPath u) →
                t = u := by
  intro last d₁
  refine ⟨fun fault hRun => isFatal_of_run hRun, ?_, ?_, ?_, ?_⟩
  · intro fault hFault
    simp only [last, run, hFault, true_and]
  · intro fault hValid hFault
    simp only [last, run, hValid, hFault, true_and]
  · intro selection benchmarks found hValid hFilter hMade
      hDiscover
    have hGains : d.GainsFolders d₁ :=
      Disk.makeFolders_gains d s.outputDir
    refine ⟨hGains, fun reason hNone =>
      run_of_no_workers hValid hFilter hMade hNone hDiscover,
      ?_⟩
    intro hWorkers
    rcases run_of_discover hValid hFilter hMade hWorkers
        hDiscover with
      ⟨hResult, hDisk⟩
    rcases examineAll_stops s benchmarks { } d₁ with
      ⟨hWrites, hOk, -⟩ |
        ⟨earlier, b, e, later, cause, hTurns, hWrites,
          hFails, hError, hStopped⟩
    · exact .inl ⟨hWrites, _, hResult.trans hOk⟩
    · rcases names_of_turns
          (pairwise_atMost_discover hDiscover) hTurns with
        ⟨hSmaller, hAtMost⟩
      have hLast : last.disk = (examine s b e).disk :=
        hDisk.trans hStopped
      rw [hLast]
      refine .inr
        ⟨earlier, b, e, later, cause, hTurns, hFails,
          hResult.trans hError,
          (broken_of_writeFails hFails).2, hSmaller, hAtMost,
          ?_, ?_⟩
      · rintro front x ex back rfl
        exact handled_of_turns hGains hTurns hWrites hFails
      · intro c _ _
        exact untouched_of_changesAt hGains
          (changesAt_of_turns hTurns hWrites hFails) c
  · intro l hDir t u hProper hNoLink hShare
    exact Utf8.encode_inj.mp
      (hShare.name_eq hDir hProper hNoLink)

/- The fault that a step ends with. -/
def Step.fault? {α : Type} (step : Step α) : Option Fault :=
  match step.result with
  | .ok _ => none
  | .error fault => some fault

theorem Step.result_of_fault?
    {α : Type}
    {step : Step α}
    {fault : Fault}
    (hFault : step.fault? = some fault) :
    step.result = .error fault := by
  unfold Step.fault? at hFault
  split at hFault
  · cases hFault
  · rename_i hResult
    cases hFault
    exact hResult

/-
  A disk with three benchmarks. Two of their results lead
  through links: the second one to a full device, and the
  third one to the place of the first one.
-/
def linkedDisk : Disk :=
  let baseline : Entry :=
    .file (Stream.ofBytes (Utf8.encode "p,t\n"))
  let checkpoint : Entry :=
    .file (Stream.ofBytes (Utf8.encode "p,t,1\n"))
  { entries :=
      [ (["in"], .folder),
        (["a", "in"], .folder),
        (["10M.csv", "a", "in"], baseline),
        (["100M.csv", "a", "in"], checkpoint),
        (["b", "in"], .folder),
        (["10M.csv", "b", "in"], baseline),
        (["100M.csv", "b", "in"], checkpoint),
        (["c", "in"], .folder),
        (["dev"], .folder),
        (["full", "dev"], .fullDevice),
        (["out"], .folder),
        (["b", "out"], .link "/dev/full"),
        (["c", "out"], .link "a") ] }

def linkedSettings : Settings :=
  { outputDir := "out", checkpoints := 1 }

def linkedBenchmarks : List Benchmark :=
  [⟨"a", "in/a"⟩, ⟨"b", "in/b"⟩, ⟨"c", "in/c"⟩]

theorem discover_linkedDisk :
    discover Pattern.engine Selection.all "in"
        (some linkedSettings.outputDir) linkedDisk =
      .ok (linkedBenchmarks, []) :=
  discover_of_sorted Pattern.engine Selection.all _
    ["a", "b", "c"] rfl (by decide)

theorem makeFolders_linkedDisk :
    linkedDisk.makeFolders linkedSettings.outputDir =
      (linkedDisk, none) := rfl

/- All of them are examined, as long as none breaks. -/
theorem run_linkedDisk :
    let last := run Pattern.engine "in" linkedSettings linkedDisk
    let step :=
      examineAll linkedSettings linkedBenchmarks { } linkedDisk
    last.result = step.result ∧ last.disk = step.disk := by
  have hMade :
      (linkedDisk.makeFolders
        linkedSettings.outputDir).2 = none := by
    rw [makeFolders_linkedDisk]
  exact run_of_discover rfl rfl hMade rfl discover_linkedDisk

/- The result of the second one cannot be written. -/
theorem result_linkedDisk :
    (run Pattern.engine "in" linkedSettings
        linkedDisk).result =
      .error (.brokenDevice "out/b" .noSpace) := by
  have hFault :
      (examineAll linkedSettings linkedBenchmarks { }
          linkedDisk).fault? =
        some (.brokenDevice "out/b" .noSpace) := by
    decide +kernel
  rw [run_linkedDisk.1]
  exact Step.result_of_fault? hFault

/- All that the run leaves is the result of the first one. -/
theorem disk_linkedDisk :
    (run Pattern.engine "in" linkedSettings
        linkedDisk).disk =
      linkedDisk.put ["a", "out"]
        (.file (Stream.ofBytes (Utf8.encode "0 0 1\n"))) := by
  rw [run_linkedDisk.2]
  decide +kernel

/- The run over this disk stops there. -/
theorem run_stops_linkedDisk :
    let s := linkedSettings
    let last := run Pattern.engine "in" s linkedDisk
    s.validate = .ok () ∧
      selectionOf Pattern.engine s = .ok Selection.all ∧
      linkedDisk.makeFolders s.outputDir = (linkedDisk, none) ∧
      discover Pattern.engine Selection.all "in"
          (some s.outputDir) linkedDisk =
        .ok (linkedBenchmarks, []) ∧
      last.result = .error (.brokenDevice "out/b" .noSpace) ∧
      ∃ earlier b e later cause,
        turns s linkedBenchmarks linkedDisk =
          earlier ++ (b, e) :: later ∧
        WriteFails s b e cause ∧
        ∀ c ∈ linkedBenchmarks,
          Text.Before b.name c.name →
            Untouched s (reporters s earlier ++ [b])
              linkedDisk last.disk c := by
  have hValid : linkedSettings.validate = .ok () := rfl
  have hFilter :
      selectionOf Pattern.engine linkedSettings =
        .ok Selection.all := rfl
  refine
    ⟨hValid, hFilter, makeFolders_linkedDisk,
      discover_linkedDisk,
      result_linkedDisk, ?_⟩
  have hStops :=
    run_stops_where_writing_fails Pattern.engine "in"
      linkedSettings linkedDisk Workers.atHand
  rw [makeFolders_linkedDisk] at hStops
  rcases (hStops.2.2.2.1 Selection.all linkedBenchmarks []
      hValid hFilter rfl discover_linkedDisk).2.2 rfl with
    ⟨-, summary, hOk⟩ |
      ⟨earlier, b, e, later, cause, hTurns, hFails, -, -, -, -,
        -, hLarger⟩
  · cases hOk.symm.trans result_linkedDisk
  · exact
      ⟨earlier, b, e, later, cause, hTurns, hFails, hLarger⟩

/-
  Nothing was at the result path of the third benchmark, and
  the result of the first one is found there after the run.
-/
theorem result_behind_link_of_larger_name :
    (run Pattern.engine "in" linkedSettings
          linkedDisk).result =
        .error (.brokenDevice "out/b" .noSpace) ∧
      discover Pattern.engine Selection.all "in"
          (some linkedSettings.outputDir) linkedDisk =
        .ok (linkedBenchmarks, []) ∧
      Text.Before "b" "c" ∧
      linkedDisk.read "out/c" = .error .noSuchFile ∧
      (run Pattern.engine "in" linkedSettings
          linkedDisk).disk.read "out/c" =
        .ok (Stream.ofBytes (Utf8.encode "0 0 1\n")) := by
  have hBefore : Text.Before "b" "c" :=
    ⟨by decide, by decide⟩
  have hNothing :
      linkedDisk.read "out/c" = .error .noSuchFile := rfl
  have hSomething :
      (run Pattern.engine "in" linkedSettings
          linkedDisk).disk.read "out/c" =
        .ok (Stream.ofBytes (Utf8.encode "0 0 1\n")) := by
    rw [disk_linkedDisk]
    rfl
  exact
    ⟨result_linkedDisk, discover_linkedDisk, hBefore,
      hNothing, hSomething⟩

end PageHeat
