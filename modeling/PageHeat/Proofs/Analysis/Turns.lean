import PageHeat.Analysis.Run
import PageHeat.Proofs.Analysis.Discovery
import PageHeat.Proofs.Analysis.Examination
import PageHeat.Proofs.Disk.Linked

/-
  What a run does, turn by turn, on any disk.

  Examining a benchmark comes to one of three ends. It gives
  a fault that is not fatal and changes nothing, it writes a
  result file and gives a report, or it breaks because there
  is no room for all of the result lines. A run examines the
  benchmarks in turn up to the first one that breaks, and
  its summary has the reports and failures of their turns.

  Key definitions include:
    * `faultAt?`
    * `Examined`
    * `turns`
    * `after`
    * `Writes`
    * `gathered`

  Key lemmas include:
    * `faultAt?_eq_none_iff`
    * `examine_examined`
    * `examineAll_stops`
    * `gathered_names_perm`
    * `run_of_discover`
    * `run_eq_ok`
-/

------------------------------------------------------------
-- Obstacles
------------------------------------------------------------

namespace PageHeat

/- Why a benchmark cannot be examined, if it cannot. -/
def faultAt?
    (s : Settings)
    (benchmark : Benchmark)
    (d : Disk) : Option Fault :=
  let path := s.baselinePath benchmark.dir
  let output := s.outputPath benchmark.name
  match d.read path with
  | .error .noSuchFile => some (.missingBaseline path)
  | .error fault => some (.unreadable path fault)
  | .ok ⟨_, some fault⟩ => some (.unreadable path fault)
  | .ok ⟨_, none⟩ =>
      match d.create output with
      | .error fault => some (.uncreatable output fault)
      | .ok _ => none

/- A baseline loads exactly if it is read to its end. -/
theorem loadBaseline_eq_ok_iff
    (d : Disk)
    (path : Path) :
    (∃ b, loadBaseline d path = .ok b) ↔
      ∃ bytes, d.read path = .ok (Stream.ofBytes bytes) := by
  unfold loadBaseline
  split
  · rename_i hRead
    rw [hRead]
    constructor
    · rintro ⟨b, hOk⟩
      cases hOk
    · rintro ⟨bytes, hOk⟩
      cases hOk
  · rename_i fault _ hRead
    rw [hRead]
    constructor
    · rintro ⟨b, hOk⟩
      cases hOk
    · rintro ⟨bytes, hOk⟩
      cases hOk
  · rename_i stream hRead
    rcases stream with ⟨bytes, _ | fault⟩
    · exact ⟨fun _ => ⟨bytes, hRead⟩, fun _ => ⟨_, rfl⟩⟩
    · rw [hRead]
      constructor
      · rintro ⟨b, hOk⟩
        cases hOk
      · rintro ⟨bytes, hOk⟩
        cases hOk

/- A baseline that does not load has its fault. -/
theorem faultAt?_of_load_error
    {s : Settings}
    {benchmark : Benchmark}
    {d : Disk}
    {fault : Fault}
    (hLoad :
      loadBaseline d (s.baselinePath benchmark.dir) =
        .error fault) :
    faultAt? s benchmark d = some fault ∧ ¬ fault.IsFatal := by
  unfold loadBaseline at hLoad
  split at hLoad
  · rename_i hRead
    cases hLoad
    simp only [faultAt?, hRead]
    exact ⟨trivial, id⟩
  · rename_i cause hMissing hRead
    cases hLoad
    simp only [faultAt?, hRead]
    exact ⟨trivial, id⟩
  · rename_i stream hRead
    rcases stream with ⟨bytes, _ | cause⟩
    · cases hLoad
    · cases hLoad
      simp only [faultAt?, hRead]
      exact ⟨trivial, id⟩

/- A baseline that loads leaves the result file to create. -/
theorem faultAt?_of_load
    {s : Settings}
    {benchmark : Benchmark}
    {d : Disk}
    {b : Baseline}
    (hLoad :
      loadBaseline d (s.baselinePath benchmark.dir) = .ok b) :
    faultAt? s benchmark d =
      match d.create (s.outputPath benchmark.name) with
      | .error fault =>
          some
            (.uncreatable (s.outputPath benchmark.name) fault)
      | .ok _ => none := by
  rcases (loadBaseline_eq_ok_iff d _).mp ⟨b, hLoad⟩ with
    ⟨bytes, hRead⟩
  simp only [faultAt?, hRead, Stream.ofBytes]

/-
  A benchmark can be examined exactly if its baseline is
  read to its end and its result file can be created.
-/
theorem faultAt?_eq_none_iff
    (s : Settings)
    (benchmark : Benchmark)
    (d : Disk) :
    faultAt? s benchmark d = none ↔
      (∃ bytes,
        d.read (s.baselinePath benchmark.dir) =
          .ok (Stream.ofBytes bytes)) ∧
      ∃ target d',
        d.create (s.outputPath benchmark.name) =
          .ok (target, d') := by
  rw [← loadBaseline_eq_ok_iff]
  cases hLoad :
      loadBaseline d (s.baselinePath benchmark.dir) with
  | error fault =>
      rw [(faultAt?_of_load_error hLoad).1]
      constructor
      · intro hNone
        cases hNone
      · rintro ⟨⟨b, hOk⟩, -⟩
        cases hOk
  | ok b =>
      rw [faultAt?_of_load hLoad]
      cases d.create (s.outputPath benchmark.name) with
      | error fault =>
          constructor
          · intro hNone
            cases hNone
          · rintro ⟨-, target, d', hOk⟩
            cases hOk
      | ok created =>
          exact ⟨fun _ => ⟨⟨b, rfl⟩, created.1, created.2, rfl⟩,
            fun _ => rfl⟩

/- A fault is what comes out, and nothing changes. -/
theorem examine_of_fault
    {s : Settings}
    {benchmark : Benchmark}
    {d : Disk}
    {fault : Fault}
    (hFault : faultAt? s benchmark d = some fault) :
    (examine s benchmark d).result = .error fault ∧
      (examine s benchmark d).disk = d ∧
      ¬ fault.IsFatal := by
  cases hLoad :
      loadBaseline d (s.baselinePath benchmark.dir) with
  | error other =>
      rcases faultAt?_of_load_error hLoad with
        ⟨hOther, hMild⟩
      cases hFault.symm.trans hOther
      rw [examine, hLoad]
      exact ⟨rfl, rfl, hMild⟩
  | ok b =>
      rw [faultAt?_of_load hLoad] at hFault
      cases hCreate :
          d.create (s.outputPath benchmark.name) with
      | error cause =>
          rw [hCreate] at hFault
          cases hFault
          rw [examine, hLoad]
          simp only
          rw [hCreate]
          exact ⟨rfl, rfl, id⟩
      | ok created =>
          rw [hCreate] at hFault
          cases hFault

/- Without a fault, the result file is opened. -/
theorem exists_of_no_fault
    {s : Settings}
    {benchmark : Benchmark}
    {d : Disk}
    (hNone : faultAt? s benchmark d = none) :
    ∃ b target d',
      loadBaseline d (s.baselinePath benchmark.dir) = .ok b ∧
        d.create (s.outputPath benchmark.name) =
          .ok (target, d') := by
  rcases (faultAt?_eq_none_iff s benchmark d).mp hNone with
    ⟨hRead, target, d', hCreate⟩
  rcases (loadBaseline_eq_ok_iff d _).mpr hRead with
    ⟨b, hLoad⟩
  exact ⟨b, target, d', hLoad, hCreate⟩

------------------------------------------------------------
-- One Examination
------------------------------------------------------------

theorem Step.result_of_toOption
    {α : Type}
    {step : Step α}
    {value : α}
    (hValue : step.result.toOption = some value) :
    step.result = .ok value := by
  cases hResult : step.result with
  | error fault =>
      rw [hResult] at hValue
      cases hValue
  | ok other =>
      rw [hResult] at hValue
      cases hValue
      rfl

/-
  What examining a benchmark comes to: its result and the
  disk after it.
-/
inductive Examined
    (s : Settings)
    (benchmark : Benchmark)
    (d : Disk) : Except Fault Report → Disk → Prop
  | failed
      (fault : Fault)
      (hFault : faultAt? s benchmark d = some fault)
      (hMild : ¬ fault.IsFatal) :
      Examined s benchmark d (.error fault) d
  | written
      (b : Baseline)
      (target : Location)
      (d' : Disk)
      (report : Report)
      (content : Bytes)
      (hFault : faultAt? s benchmark d = none)
      (hLoad :
        loadBaseline d (s.baselinePath benchmark.dir) = .ok b)
      (hCreate :
        d.create (s.outputPath benchmark.name) =
          .ok (target, d'))
      (hRoom : d'.HasRoom target content)
      (hAccounts :
        Accounts s benchmark b d' report content) :
      Examined s benchmark d (.ok report)
        (d'.store target { received := content })
  | broken
      (b : Baseline)
      (target : Location)
      (d' : Disk)
      (report : Report)
      (content : Bytes)
      (limit : Limit)
      (hFault : faultAt? s benchmark d = none)
      (hLoad :
        loadBaseline d (s.baselinePath benchmark.dir) = .ok b)
      (hCreate :
        d.create (s.outputPath benchmark.name) =
          .ok (target, d'))
      (hLimit : d'.limitAt? target = some limit)
      (hShort : limit.room < content.length)
      (hFails : WriteFails s benchmark d limit.fault)
      (hAccounts :
        Accounts s benchmark b d' report content) :
      Examined s benchmark d
        (.error
          (.brokenDevice (s.outputPath benchmark.name)
            limit.fault))
        (d'.store target
          { received := content.take limit.room })

/- Every examination comes to one of these ends. -/
theorem examine_examined
    (s : Settings)
    (benchmark : Benchmark)
    (d : Disk) :
    Examined s benchmark d (examine s benchmark d).result
      (examine s benchmark d).disk := by
  cases hFault : faultAt? s benchmark d with
  | some fault =>
      rcases examine_of_fault hFault with
        ⟨hResult, hDisk, hMild⟩
      rw [hResult, hDisk]
      exact .failed fault hFault hMild
  | none =>
      rcases exists_of_no_fault hFault with
        ⟨b, target, d', hLoad, hCreate⟩
      rcases examine_of_create hLoad hCreate with
        ⟨hResult, hDisk⟩
      have hAccounts := accounts_outcomes s benchmark b d'
      rcases d'.hasRoom_or_short target
          (contentOf s (outcomes s b d' benchmark.dir)) with
        hRoom | ⟨limit, hLimit, hShort⟩
      · rcases writeOutcomes_of_hasRoom s benchmark b hRoom
          with ⟨hWritten, hStored⟩
        rw [hResult, hDisk, hWritten, hStored]
        exact .written b target d' _ _ hFault hLoad hCreate
          hRoom hAccounts
      · rcases
          writeOutcomes_of_short s benchmark b hLimit hShort
          with ⟨hBroken, hStored⟩
        have hFails :=
          (writeFails_iff_short hLoad hCreate).mpr
            ⟨limit, hLimit, hShort, rfl⟩
        rw [hResult, hDisk, hBroken, hStored]
        exact .broken b target d' _ _ limit hFault hLoad
          hCreate hLimit hShort hFails hAccounts

namespace Examined

variable {s : Settings} {benchmark : Benchmark}
variable {d d' : Disk} {report : Report} {fault : Fault}

theorem exists_accounts
    (hExamined : Examined s benchmark d (.ok report) d') :
    ∃ b e content, Accounts s benchmark b e report content := by
  cases hExamined with
  | written b _ e _ content _ _ _ _ hAccounts =>
      exact ⟨b, e, content, hAccounts⟩

theorem name_eq
    (hExamined : Examined s benchmark d (.ok report) d') :
    report.name = benchmark.name := by
  rcases hExamined.exists_accounts with ⟨_, _, _, hAccounts⟩
  exact hAccounts.name_eq

/- A fault is mild if writing does not fail. -/
theorem failed_of_writes
    (hExamined : Examined s benchmark d (.error fault) d')
    (hWrites : ∀ cause, ¬ WriteFails s benchmark d cause) :
    faultAt? s benchmark d = some fault ∧
      ¬ fault.IsFatal := by
  cases hExamined with
  | failed _ hFault hMild => exact ⟨hFault, hMild⟩
  | broken _ _ _ _ _ _ _ _ _ _ _ hFails _ =>
      exact absurd hFails (hWrites _)

/- An examination keeps what is on the disk. -/
theorem keeps
    {result : Except Fault Report}
    (hExamined : Examined s benchmark d result d') :
    d.Keeps d' := by
  cases hExamined with
  | failed _ _ _ => exact Disk.Keeps.refl d
  | written _ target e _ _ _ _ hCreate _ _ =>
      exact (Disk.create_creates hCreate).keeps.trans
        (Disk.keeps_store e target _)
  | broken _ target e _ _ _ _ _ hCreate _ _ _ _ =>
      exact (Disk.create_creates hCreate).keeps.trans
        (Disk.keeps_store e target _)

end Examined

/- If writing fails, so does the examination. -/
theorem result_of_writeFails
    {s : Settings}
    {benchmark : Benchmark}
    {d : Disk}
    {cause : DeviceFault}
    (hFails : WriteFails s benchmark d cause) :
    (examine s benchmark d).result =
      .error
        (.brokenDevice (s.outputPath benchmark.name) cause) := by
  have hOpened := hFails
  rcases hOpened with ⟨b, target, d', hLoad, hCreate, -⟩
  rcases (writeFails_iff_short hLoad hCreate).mp hFails with
    ⟨limit, hLimit, hShort, rfl⟩
  rw [(examine_of_create hLoad hCreate).1]
  exact (writeOutcomes_of_short s benchmark b hLimit hShort).1

------------------------------------------------------------
-- Turns
------------------------------------------------------------

/- Benchmarks in order, each with the disk at its turn. -/
def turns (s : Settings) :
    List Benchmark → Disk → List (Benchmark × Disk)
  | [], _ => []
  | benchmark :: rest, d =>
      (benchmark, d) ::
        turns s rest (examine s benchmark d).disk

def after (s : Settings) : List Benchmark → Disk → Disk
  | [], d => d
  | benchmark :: rest, d =>
      after s rest (examine s benchmark d).disk

/- Turns at which writing does not fail. -/
def Writes
    (s : Settings)
    (turns : List (Benchmark × Disk)) : Prop :=
  ∀ b e cause, (b, e) ∈ turns → ¬ WriteFails s b e cause

/- The report of a turn, if it has one. -/
def reportAt?
    (s : Settings)
    (turn : Benchmark × Disk) : Option Report :=
  (examine s turn.1 turn.2).result.toOption

/- The failure of a turn that has no report. -/
def failureAt?
    (s : Settings)
    (turn : Benchmark × Disk) : Option Failure :=
  match (examine s turn.1 turn.2).result with
  | .ok _ => none
  | .error fault => some ⟨turn.1.name, fault.message⟩

/- What a summary takes up of some turns. -/
def gathered
    (s : Settings)
    (turns : List (Benchmark × Disk)) : Summary :=
  { reports := turns.filterMap (reportAt? s)
    failures := turns.filterMap (failureAt? s) }

def Summary.names (summary : Summary) : List Text :=
  summary.reports.map Report.name ++
    summary.failures.map Failure.name

section Turns

variable {s : Settings} {benchmark : Benchmark}
variable {benchmarks rest : List Benchmark} {d : Disk}
variable {report : Report} {fault : Fault}

theorem writes_nil (s : Settings) : Writes s [] := by
  intro b e cause hMem
  cases hMem

theorem writes_cons_iff
    {later : List (Benchmark × Disk)} :
    Writes s ((benchmark, d) :: later) ↔
      (∀ cause, ¬ WriteFails s benchmark d cause) ∧
        Writes s later := by
  constructor
  · intro hWrites
    exact
      ⟨fun cause => hWrites _ _ cause List.mem_cons_self,
        fun b e cause hMem =>
          hWrites b e cause (List.mem_cons_of_mem _ hMem)⟩
  · rintro ⟨hFirst, hLater⟩ b e cause hMem
    rcases List.mem_cons.mp hMem with hEq | hTail
    · cases hEq
      exact hFirst cause
    · exact hLater b e cause hTail

theorem map_fst_turns
    (s : Settings)
    (benchmarks : List Benchmark)
    (d : Disk) :
    (turns s benchmarks d).map Prod.fst = benchmarks := by
  induction benchmarks generalizing d with
  | nil => rfl
  | cons benchmark rest ih =>
      rw [turns, List.map_cons, ih]

theorem gathered_cons_of_ok
    (hResult : (examine s benchmark d).result = .ok report)
    (later : List (Benchmark × Disk)) :
    gathered s ((benchmark, d) :: later) =
      { reports := report :: (gathered s later).reports
        failures := (gathered s later).failures } := by
  simp only [gathered, List.filterMap_cons, reportAt?,
    failureAt?, hResult, Except.toOption]

theorem gathered_cons_of_error
    (hResult :
      (examine s benchmark d).result = .error fault)
    (later : List (Benchmark × Disk)) :
    gathered s ((benchmark, d) :: later) =
      { reports := (gathered s later).reports
        failures :=
          ⟨benchmark.name, fault.message⟩ ::
            (gathered s later).failures } := by
  simp only [gathered, List.filterMap_cons, reportAt?,
    failureAt?, hResult, Except.toOption]

/- Every turn has a report or a failure, under its name. -/
theorem gathered_names_perm
    (s : Settings)
    (benchmarks : List Benchmark)
    (d : Disk) :
    (gathered s (turns s benchmarks d)).names.Perm
      (benchmarks.map Benchmark.name) := by
  induction benchmarks generalizing d with
  | nil => exact .refl []
  | cons benchmark rest ih =>
      have hExamined := examine_examined s benchmark d
      have hRest := ih (examine s benchmark d).disk
      rw [turns]
      cases hResult : (examine s benchmark d).result with
      | ok report =>
          rw [hResult] at hExamined
          rw [gathered_cons_of_ok hResult, Summary.names,
            List.map_cons, List.map_cons, List.cons_append,
            hExamined.name_eq]
          exact hRest.cons _
      | error fault =>
          rw [gathered_cons_of_error hResult, Summary.names,
            List.map_cons, List.map_cons]
          exact List.perm_middle.trans (hRest.cons _)

/- A report that is gathered is the one of a turn. -/
theorem exists_of_mem_gathered
    {turns : List (Benchmark × Disk)}
    (hMem : report ∈ (gathered s turns).reports) :
    ∃ b e, (b, e) ∈ turns ∧
      Examined s b e (.ok report) (examine s b e).disk := by
  rcases List.mem_filterMap.mp hMem with
    ⟨⟨b, e⟩, hTurn, hReport⟩
  refine ⟨b, e, hTurn, ?_⟩
  have hExamined := examine_examined s b e
  rw [reportAt?] at hReport
  cases hResult : (examine s b e).result with
  | ok other =>
      rw [hResult] at hReport hExamined
      cases hReport
      exact hExamined
  | error fault =>
      rw [hResult] at hReport
      cases hReport

------------------------------------------------------------
-- All Examinations
------------------------------------------------------------

/- The first benchmark stops the others if writing fails. -/
theorem examineAll_of_writeFails
    {cause : DeviceFault}
    (hFails : WriteFails s benchmark d cause)
    (rest : List Benchmark)
    (summary : Summary) :
    (examineAll s (benchmark :: rest) summary d).result =
        .error
          (.brokenDevice (s.outputPath benchmark.name)
            cause) ∧
      (examineAll s (benchmark :: rest) summary d).disk =
        (examine s benchmark d).disk := by
  have hFatal :
      Fault.IsFatal
        (.brokenDevice (s.outputPath benchmark.name) cause) :=
    trivial
  simp only [examineAll, result_of_writeFails hFails,
    if_pos hFatal]
  exact ⟨trivial, trivial⟩

/-
  If writing does not fail, what came of the first benchmark
  is taken up, and the others are examined on the disk that
  it leaves.
-/
theorem examineAll_cons_of_writes
    (hWrites : ∀ cause, ¬ WriteFails s benchmark d cause)
    (rest : List Benchmark)
    (summary : Summary) :
    ∃ taken : Summary,
      (∀ later,
        taken.reports ++ (gathered s later).reports =
            summary.reports ++
              (gathered s ((benchmark, d) :: later)).reports ∧
          taken.failures ++ (gathered s later).failures =
            summary.failures ++
              (gathered s
                ((benchmark, d) :: later)).failures) ∧
      (examineAll s (benchmark :: rest) summary d).result =
        (examineAll s rest taken
          (examine s benchmark d).disk).result ∧
      (examineAll s (benchmark :: rest) summary d).disk =
        (examineAll s rest taken
          (examine s benchmark d).disk).disk := by
  have hExamined := examine_examined s benchmark d
  cases hResult : (examine s benchmark d).result with
  | ok report =>
      refine ⟨summary.addReport report, ?_, ?_⟩
      · intro later
        rw [gathered_cons_of_ok hResult, Summary.addReport,
          List.append_assoc]
        exact ⟨rfl, rfl⟩
      · simp only [examineAll, hResult, and_self]
  | error fault =>
      rw [hResult] at hExamined
      have hMild := (hExamined.failed_of_writes hWrites).2
      refine
        ⟨summary.addFailure ⟨benchmark.name, fault.message⟩,
          ?_, ?_⟩
      · intro later
        rw [gathered_cons_of_error hResult,
          Summary.addFailure, List.append_assoc]
        exact ⟨rfl, rfl⟩
      · simp only [examineAll, hResult, if_neg hMild,
          and_self]

/-
  Examining all benchmarks either comes to a summary of all
  their turns, or it stops at the first one whose result
  lines cannot be written, with the disk that it leaves.
-/
theorem examineAll_stops
    (s : Settings)
    (benchmarks : List Benchmark)
    (summary : Summary)
    (d : Disk) :
    (Writes s (turns s benchmarks d) ∧
      (examineAll s benchmarks summary d).result =
        .ok
          { reports :=
              summary.reports ++
                (gathered s (turns s benchmarks d)).reports
            failures :=
              summary.failures ++
                (gathered s
                  (turns s benchmarks d)).failures } ∧
      (examineAll s benchmarks summary d).disk =
        after s benchmarks d) ∨
    ∃ earlier b e later cause,
      turns s benchmarks d = earlier ++ (b, e) :: later ∧
      Writes s earlier ∧
      WriteFails s b e cause ∧
      (examineAll s benchmarks summary d).result =
        .error (.brokenDevice (s.outputPath b.name) cause) ∧
      (examineAll s benchmarks summary d).disk =
        (examine s b e).disk := by
  induction benchmarks generalizing summary d with
  | nil =>
      refine .inl ⟨writes_nil s, ?_, rfl⟩
      rw [turns, gathered, List.filterMap_nil,
        List.filterMap_nil, List.append_nil, List.append_nil]
      rfl
  | cons benchmark rest ih =>
      rw [turns, after]
      by_cases hFails :
          ∃ cause, WriteFails s benchmark d cause
      · rcases hFails with ⟨cause, hFails⟩
        exact .inr
          ⟨[], benchmark, d, _, cause, rfl, writes_nil s,
            hFails,
            examineAll_of_writeFails hFails rest summary⟩
      · have hWrites := not_exists.mp hFails
        rcases examineAll_cons_of_writes hWrites rest summary
          with ⟨taken, hTaken, hResult, hDisk⟩
        rw [hResult, hDisk]
        rcases ih taken (examine s benchmark d).disk with
          ⟨hRest, hOk, hAfter⟩ |
            ⟨earlier, b, e, later, cause, hTurns, hEarlier,
              hStops⟩
        · refine .inl
            ⟨writes_cons_iff.mpr ⟨hWrites, hRest⟩, ?_,
              hAfter⟩
          rw [hOk, (hTaken _).1, (hTaken _).2]
        · refine .inr
            ⟨(benchmark, d) :: earlier, b, e, later, cause,
              ?_, writes_cons_iff.mpr ⟨hWrites, hEarlier⟩,
              hStops⟩
          rw [hTurns, List.cons_append]

/- Where writing does not fail, there is a summary. -/
theorem examineAll_of_writes
    (hWrites : Writes s (turns s benchmarks d)) :
    (examineAll s benchmarks { } d).result =
        .ok (gathered s (turns s benchmarks d)) ∧
      (examineAll s benchmarks { } d).disk =
        after s benchmarks d := by
  rcases examineAll_stops s benchmarks { } d with
    ⟨-, hOk, hAfter⟩ |
      ⟨earlier, b, e, later, cause, hTurns, -, hFails, -⟩
  · exact ⟨hOk, hAfter⟩
  · refine absurd hFails (hWrites b e cause ?_)
    rw [hTurns]
    exact List.mem_append_right _ List.mem_cons_self

/- Where there is a summary, writing has not failed. -/
theorem writes_of_examineAll
    {summary : Summary}
    (hOk : (examineAll s benchmarks { } d).result = .ok summary) :
    Writes s (turns s benchmarks d) := by
  rcases examineAll_stops s benchmarks { } d with
    ⟨hWrites, -⟩ | ⟨_, _, _, _, _, -, -, -, hError, -⟩
  · exact hWrites
  · cases hOk.symm.trans hError

end Turns

------------------------------------------------------------
-- Disks With Room
------------------------------------------------------------

/- A disk on which nothing limits what is written. -/
structure Disk.Unlimited (d : Disk) : Prop where
  no_limits : d.limits = []
  no_device : ∀ l, d.entry? l ≠ some .fullDevice

namespace Disk.Unlimited

variable {d d' : Disk}

theorem of_keeps
    (hUnlimited : d.Unlimited)
    (hKeeps : d.Keeps d') :
    d'.Unlimited := by
  refine ⟨hKeeps.limits_eq.trans hUnlimited.no_limits, ?_⟩
  intro l hFull
  cases hEntry : d.entry? l with
  | none =>
      rcases hKeeps.new l _ hEntry hFull with hFolder | hFile
      · cases hFolder
      · rcases hFile with ⟨content, hEq⟩
        cases hEq
  | some e =>
      rcases hKeeps.kept l e hEntry with
        ⟨e', hEntry', hSame⟩
      cases hFull.symm.trans hEntry'
      rcases hSame with rfl | ⟨-, content, hEq⟩
      · exact hUnlimited.no_device l hEntry
      · cases hEq

theorem of_plain
    (hPlain : d.IsPlain)
    (hNone : d.limits = []) :
    d.Unlimited := by
  refine ⟨hNone, ?_⟩
  intro l hFull
  rcases hPlain.kinds hFull with hFolder | ⟨content, hFile⟩
  · cases hFolder
  · cases hFile

theorem limitAt?_eq
    (hUnlimited : d.Unlimited)
    (l : Location) :
    d.limitAt? l = none := by
  unfold Disk.limitAt?
  split
  · rename_i hFull
    exact absurd hFull (hUnlimited.no_device l)
  · rw [hUnlimited.no_limits]
    rfl
  · rfl

/- There writing never fails. -/
theorem writes
    (hUnlimited : d.Unlimited)
    (s : Settings)
    (benchmarks : List Benchmark) :
    Writes s (turns s benchmarks d) := by
  induction benchmarks generalizing d with
  | nil => exact writes_nil s
  | cons benchmark rest ih =>
      have hKeeps := (examine_examined s benchmark d).keeps
      refine writes_cons_iff.mpr
        ⟨?_, ih (hUnlimited.of_keeps hKeeps)⟩
      intro cause hFails
      have hOpened := hFails
      rcases hOpened with ⟨_, target, d', _, hCreate, _⟩
      have hThere :=
        hUnlimited.of_keeps (Disk.create_creates hCreate).keeps
      exact not_writeFails_of_no_limit hCreate
        (hThere.limitAt?_eq target) cause hFails

end Disk.Unlimited

------------------------------------------------------------
-- Whole Runs
------------------------------------------------------------

section Runs

variable {α : Type} {engine : PatternEngine α}
variable {selection : Selection α}
variable {root : Path} {s : Settings} {d : Disk}
variable {workers : Workers}

/- A run whose folder for the results can be created. -/
theorem run_eq_runSelected
    (hValid : s.validate = .ok ())
    (hFilter : selectionOf engine s = .ok selection)
    (hMade : (d.makeFolders s.outputDir).2 = none) :
    run engine root s d workers =
      runSelected engine selection root s
        (d.makeFolders s.outputDir).1 workers := by
  rw [run, hValid, hFilter]
  simp only
  split
  · rename_i d₁ fault hPair
    rw [hPair] at hMade
    cases hMade
  · rename_i d₁ hPair
    rw [hPair]

/- A run that finds benchmarks examines all of them. -/
theorem run_of_discover
    (hValid : s.validate = .ok ())
    (hFilter : selectionOf engine s = .ok selection)
    (hMade : (d.makeFolders s.outputDir).2 = none)
    (hWorkers : workers s.jobs = .ok ())
    {benchmarks : List Benchmark}
    {found : List Event}
    (hDiscover :
      discover engine selection root (some s.outputDir)
          (d.makeFolders s.outputDir).1 =
        .ok (benchmarks, found)) :
    (run engine root s d workers).result =
        (examineAll s benchmarks { }
          (d.makeFolders s.outputDir).1).result ∧
      (run engine root s d workers).disk =
        (examineAll s benchmarks { }
          (d.makeFolders s.outputDir).1).disk := by
  rw [run_eq_runSelected hValid hFilter hMade, runSelected,
    hDiscover]
  simp only [hWorkers, and_self]

/- A run without workers has found benchmarks for nothing. -/
theorem run_of_no_workers
    (hValid : s.validate = .ok ())
    (hFilter : selectionOf engine s = .ok selection)
    (hMade : (d.makeFolders s.outputDir).2 = none)
    {reason : Text}
    (hWorkers : workers s.jobs = .error reason)
    {benchmarks : List Benchmark}
    {found : List Event}
    (hDiscover :
      discover engine selection root (some s.outputDir)
          (d.makeFolders s.outputDir).1 =
        .ok (benchmarks, found)) :
    (run engine root s d workers).result =
        .error (Workers.fault reason) ∧
      (run engine root s d workers).disk =
        (d.makeFolders s.outputDir).1 := by
  rw [run_eq_runSelected hValid hFilter hMade, runSelected,
    hDiscover]
  simp only [hWorkers, and_self]

/- A run with a summary has come by all of its checks. -/
theorem run_eq_ok
    {summary : Summary}
    (hRun : (run engine root s d workers).result = .ok summary) :
    ∃ selection benchmarks found,
      s.validate = .ok () ∧
      selectionOf engine s = .ok selection ∧
      (d.makeFolders s.outputDir).2 = none ∧
      workers s.jobs = .ok () ∧
      discover engine selection root (some s.outputDir)
          (d.makeFolders s.outputDir).1 =
        .ok (benchmarks, found) := by
  unfold run at hRun
  split at hRun
  · cases hRun
  rename_i hValid
  split at hRun
  · cases hRun
  rename_i selection hFilter
  split at hRun
  · cases hRun
  rename_i d₁ hPair
  unfold runSelected at hRun
  split at hRun
  · cases hRun
  rename_i benchmarks found hDiscover
  split at hRun
  · cases hRun
  rename_i hWorkers
  refine
    ⟨selection, benchmarks, found, hValid, hFilter, ?_,
      hWorkers, ?_⟩
  · rw [hPair]
  · rw [hPair]
    exact hDiscover

/- A folder stays one as long as the disk keeps. -/
theorem Disk.Keeps.isFolder
    {d' : Disk}
    (hKeeps : d.Keeps d')
    {p : Path}
    (hFolder : d.IsFolder p) :
    d'.IsFolder p := by
  rcases (isFolder_iff d p).mp hFolder with ⟨l, hResolve⟩
  have hOn : (Spot.present l .folder).IsOn d :=
    resolveTo_isOn hResolve
  exact (isFolder_iff d' p).mpr
    ⟨l, hKeeps.resolve_eq hResolve (hKeeps.folder hOn)⟩

/- A root that is a folder can be searched after that. -/
theorem exists_discover_of_isFolder
    (engine : PatternEngine α)
    (selection : Selection α)
    (s : Settings)
    (hRoot : d.IsFolder root) :
    ∃ benchmarks found,
      discover engine selection root (some s.outputDir)
          (d.makeFolders s.outputDir).1 =
        .ok (benchmarks, found) :=
  discover_of_isFolder engine selection (some s.outputDir)
    ((Disk.makeFolders_gains d
      s.outputDir).keeps.isFolder hRoot)

end Runs

end PageHeat
