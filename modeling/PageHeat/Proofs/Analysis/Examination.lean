import PageHeat.Analysis.Examination
import PageHeat.Proofs.Disk.Writing
import PageHeat.Proofs.Tally.Format

/-
  What an examination writes and reports.

  A checkpoint counts as compared if it is read to its end.
  The result file has a line for every compared checkpoint
  and, if failures count as zero, a line of zeros at the
  place of every other one. The report lists the others and
  the malformed logs. All of this is in the order of the
  checkpoints, in whatever order workers finish them.

  Key definitions include:
    * `compared?`
    * `Settings.resultLine?`
    * `Accounts`
    * `Pool.collect`
    * `WriteFails`

  Key lemmas include:
    * `compareAt_eq_ok_iff`
    * `Pool.collect_eq_map`
    * `writeOutcomes_of_hasRoom`
    * `writeOutcomes_of_short`
    * `accounts_outcomes`
    * `Accounts.lines_of_zero`
    * `writeFails_iff_short`
    * `examine_accounts_by_index`
-/

------------------------------------------------------------
-- Compared Checkpoints
------------------------------------------------------------

namespace PageHeat

/- The comparison of a log that is read to its end. -/
def compared?
    (b : Baseline)
    (d : Disk)
    (path : Path) : Option Comparison :=
  match d.read path with
  | .ok ⟨bytes, none⟩ =>
      (Comparison.ofStream b (Stream.ofBytes bytes)).toOption
  | _ => none

/- A log is compared exactly if it is read to its end. -/
theorem compared?_isSome_iff
    (b : Baseline)
    (d : Disk)
    (path : Path) :
    (compared? b d path).isSome ↔
      ∃ bytes, d.read path = .ok (Stream.ofBytes bytes) := by
  unfold compared?
  split
  · rename_i bytes hRead
    constructor
    · intro _
      exact ⟨bytes, hRead⟩
    · intro _
      rfl
  · rename_i hNotRead
    constructor
    · intro hSome
      cases hSome
    · rintro ⟨bytes, hRead⟩
      exact absurd hRead (hNotRead bytes)

/- A comparison succeeds with what was compared. -/
theorem compareAt_eq_ok_iff
    (b : Baseline)
    (d : Disk)
    (path : Path)
    (c : Comparison) :
    compareAt b d path = .ok c ↔
      compared? b d path = some c := by
  unfold compareAt compared?
  cases d.read path with
  | error fault => simp
  | ok s =>
      rcases s with ⟨bytes, _ | fault⟩
      · simp [Comparison.ofStream, Stream.ofBytes,
          Except.toOption]
      · simp [Comparison.ofStream]

/- A comparison fails if nothing was compared. -/
theorem compareAt_of_none
    {b : Baseline}
    {d : Disk}
    {path : Path}
    (hNone : compared? b d path = none) :
    ∃ fault, compareAt b d path = .error fault := by
  cases hCompare : compareAt b d path with
  | error fault => exact ⟨fault, rfl⟩
  | ok c =>
      rw [compareAt_eq_ok_iff, hNone] at hCompare
      cases hCompare

------------------------------------------------------------
-- Accounts
------------------------------------------------------------

/- The line of a checkpoint in the result file. -/
def Settings.resultLine?
    (s : Settings)
    (c? : Option Comparison) : Option Bytes :=
  match c?, s.missing with
  | some c, _ => some (Utf8.encode (s.format.endedLine c.tally))
  | none, .zero => some (Utf8.encode (s.format.endedLine { }))
  | none, .skip => none

/- What a report says about the malformed lines of a log. -/
def malformedIn?
    (path : Path)
    (c? : Option Comparison) : Option MalformedFile :=
  match c? with
  | some c =>
      if c.malformed = 0 then none
      else some ⟨path, c.malformed⟩
  | none => none

/-
  A report and the content of a result file that account
  for every checkpoint of a benchmark as a disk has it.
-/
structure Accounts
    (s : Settings)
    (benchmark : Benchmark)
    (b : Baseline)
    (d : Disk)
    (report : Report)
    (content : Bytes) : Prop where
  name_eq : report.name = benchmark.name
  output_eq : report.output = s.outputPath benchmark.name
  lines_eq :
    cutLines content =
      s.indices.filterMap fun i =>
        s.resultLine?
          (compared? b d (s.checkpointPath benchmark.dir i))
  complete : ∀ line ∈ cutLines content, IsComplete line
  linesWritten_eq :
    report.linesWritten = (cutLines content).length
  skipped_eq :
    report.skipped =
      (s.indices.map (s.checkpointPath benchmark.dir)).filter
        fun path => (compared? b d path).isNone
  malformed_eq :
    report.malformed =
      (if b.malformed = 0 then []
        else [⟨s.baselinePath benchmark.dir, b.malformed⟩]) ++
      (s.indices.map (s.checkpointPath benchmark.dir)).filterMap
        fun path => malformedIn? path (compared? b d path)

/- An outcome at a path by its comparison. -/
theorem map_tallyOf?_compareAt
    (s : Settings)
    (b : Baseline)
    (d : Disk)
    (path : Path) :
    (tallyOf? s.missing ⟨path, compareAt b d path⟩).map
        (fun t => Utf8.encode (s.format.endedLine t)) =
      s.resultLine? (compared? b d path) := by
  cases hCompared : compared? b d path with
  | some c =>
      rw [(compareAt_eq_ok_iff b d path c).mpr hCompared]
      rfl
  | none =>
      rcases compareAt_of_none hCompared with ⟨fault, hFault⟩
      rw [hFault]
      unfold tallyOf? Settings.resultLine?
      cases s.missing with
      | zero => rfl
      | skip => rfl

/- A path is skipped if nothing was compared. -/
theorem skippedPath?_compareAt
    (b : Baseline)
    (d : Disk)
    (path : Path) :
    skippedPath? ⟨path, compareAt b d path⟩ =
      if (compared? b d path).isNone then some path
      else none := by
  cases hCompared : compared? b d path with
  | some c =>
      rw [(compareAt_eq_ok_iff b d path c).mpr hCompared]
      rfl
  | none =>
      rcases compareAt_of_none hCompared with ⟨fault, hFault⟩
      rw [hFault]
      rfl

/- A compared log is malformed by its comparison. -/
theorem malformedCheckpoint?_compareAt
    (b : Baseline)
    (d : Disk)
    (path : Path) :
    malformedCheckpoint? ⟨path, compareAt b d path⟩ =
      malformedIn? path (compared? b d path) := by
  cases hCompared : compared? b d path with
  | some c =>
      rw [(compareAt_eq_ok_iff b d path c).mpr hCompared]
      rfl
  | none =>
      rcases compareAt_of_none hCompared with ⟨fault, hFault⟩
      rw [hFault]
      rfl

/- The lines of the tallies of all outcomes. -/
theorem endedLines_talliesOf
    (s : Settings)
    (b : Baseline)
    (d : Disk)
    (dir : Path) :
    s.format.endedLines
        (talliesOf s.missing (outcomes s b d dir)) =
      s.indices.filterMap fun i =>
        s.resultLine?
          (compared? b d (s.checkpointPath dir i)) := by
  rw [LineFormat.endedLines, talliesOf, outcomes,
    List.map_filterMap, List.filterMap_map]
  refine congrArg (s.indices.filterMap ·) ?_
  funext i
  exact map_tallyOf?_compareAt s b d _

/- The skipped paths of all outcomes. -/
theorem filterMap_skippedPath?
    (s : Settings)
    (b : Baseline)
    (d : Disk)
    (dir : Path) :
    (outcomes s b d dir).filterMap skippedPath? =
      (s.indices.map (s.checkpointPath dir)).filter
        fun path => (compared? b d path).isNone := by
  rw [outcomes, List.filterMap_map, List.filter_map,
    ← List.filterMap_eq_filter, List.map_filterMap]
  refine congrArg (s.indices.filterMap ·) ?_
  funext i
  rw [Function.comp_apply, skippedPath?_compareAt]
  simp only [Option.guard, Function.comp_apply]
  split
  · rfl
  · rfl

/- The malformed logs of all outcomes. -/
theorem filterMap_malformedCheckpoint?
    (s : Settings)
    (b : Baseline)
    (d : Disk)
    (dir : Path) :
    (outcomes s b d dir).filterMap malformedCheckpoint? =
      (s.indices.map (s.checkpointPath dir)).filterMap
        fun path => malformedIn? path (compared? b d path) := by
  rw [outcomes, List.filterMap_map, List.filterMap_map]
  refine congrArg (s.indices.filterMap ·) ?_
  funext i
  exact malformedCheckpoint?_compareAt b d _

/- What outcomes are written as. -/
def contentOf
    (s : Settings)
    (os : List Outcome) : Bytes :=
  Utf8.encode (s.format.document (talliesOf s.missing os))

section Writing

variable (s : Settings) (benchmark : Benchmark)
variable (b : Baseline) {target : Location} {d : Disk}

/- The lines of all outcomes are written as one text. -/
theorem writeOutcomes_eq (target : Location) (d : Disk) :
    let os := outcomes s b d benchmark.dir
    let written := (d.sinkAt target).write (contentOf s os)
    writeOutcomes s benchmark b target d =
      { result :=
          match written.2 with
          | none =>
              .ok
                (reportOf s benchmark b os
                  (talliesOf s.missing os).length)
          | some fault =>
              .error
                (.brokenDevice (s.outputPath benchmark.name)
                  fault)
        disk := d.store target written.1
        events := comparisonEvents s benchmark b d os } := by
  intro os written
  have hTallies :
      s.format.writeTallies (talliesOf s.missing os)
          (d.sinkAt target) =
        (written.1,
          match written.2 with
          | none => .ok (talliesOf s.missing os).length
          | some fault => .error fault) := by
    rw [LineFormat.writeTallies_eq_write, ← contentOf]
    rcases hWritten : written with ⟨sink, _ | fault⟩
    · rw [show (d.sinkAt target).write _ = _ from hWritten]
    · rw [show (d.sinkAt target).write _ = _ from hWritten]
  rw [writeOutcomes, hTallies]
  rcases written with ⟨sink, _ | fault⟩
  · rfl
  · rfl

/- Where there is room, all outcomes are written. -/
theorem writeOutcomes_of_hasRoom :
    let os := outcomes s b d benchmark.dir
    let step := writeOutcomes s benchmark b target d
    d.HasRoom target (contentOf s os) →
      step.result =
          .ok
            (reportOf s benchmark b os
              (talliesOf s.missing os).length) ∧
        step.disk =
          d.store target { received := contentOf s os } := by
  intro os step hRoom
  rcases Disk.write_of_hasRoom hRoom with ⟨hTaken, hFault⟩
  rw [show step = _ from writeOutcomes_eq s benchmark b target d]
  simp only [os] at hTaken hFault
  simp only [hFault]
  exact ⟨rfl, d.store_congr target hTaken⟩

/-
  Where the limit is in the way, the bytes in front of it
  are written, and the examination ends with its fault.
-/
theorem writeOutcomes_of_short
    {limit : Limit}
    (hLimit : d.limitAt? target = some limit) :
    let os := outcomes s b d benchmark.dir
    let step := writeOutcomes s benchmark b target d
    limit.room < (contentOf s os).length →
      step.result =
          .error
            (.brokenDevice (s.outputPath benchmark.name)
              limit.fault) ∧
        step.disk =
          d.store target
            { received :=
                (contentOf s os).take limit.room } := by
  intro os step hShort
  rcases Disk.write_of_short hLimit hShort with
    ⟨hTaken, hFault⟩
  rw [show step = _ from writeOutcomes_eq s benchmark b target d]
  simp only [os] at hTaken hFault
  simp only [hFault, true_and]
  exact d.store_congr target hTaken

end Writing

/-
  The report and the content of the outcomes account for
  every checkpoint.
-/
theorem accounts_outcomes
    (s : Settings)
    (benchmark : Benchmark)
    (b : Baseline)
    (d : Disk) :
    let os := outcomes s b d benchmark.dir
    Accounts s benchmark b d
      (reportOf s benchmark b os
        (talliesOf s.missing os).length)
      (contentOf s os) := by
  intro os
  have hCut :
      cutLines (contentOf s os) =
        s.format.endedLines (talliesOf s.missing os) :=
    LineFormat.cutLines_document _ _
  refine ⟨rfl, rfl, ?_, ?_, ?_, ?_, ?_⟩
  · rw [hCut]
    exact endedLines_talliesOf s b d benchmark.dir
  · intro line hMem
    rw [hCut, LineFormat.endedLines, List.mem_map] at hMem
    rcases hMem with ⟨t, -, rfl⟩
    rw [LineFormat.encode_endedLine]
    exact List.getLast?_concat
  · rw [hCut, LineFormat.endedLines, List.length_map]
    rfl
  · exact filterMap_skippedPath? s b d benchmark.dir
  · rw [reportOf, filterMap_malformedCheckpoint?,
      malformedFile?]
    split
    · rfl
    · rfl

namespace Accounts

variable {s : Settings} {benchmark : Benchmark}
variable {b : Baseline} {d : Disk}
variable {report : Report} {content : Bytes}

theorem length_indices (s : Settings) :
    s.indices.length = s.checkpoints.toNat :=
  List.length_range'

/- If failures count as zero, every checkpoint has a line. -/
theorem lines_of_zero
    (hAccounts : Accounts s benchmark b d report content)
    (hZero : s.missing = .zero) :
    (cutLines content).map some =
      s.indices.map fun i =>
        s.resultLine?
          (compared? b d
            (s.checkpointPath benchmark.dir i)) := by
  have hSome (c? : Option Comparison) :
      s.resultLine? c? =
        some
          (Utf8.encode
            (s.format.endedLine
              ((c?.map Comparison.tally).getD { }))) := by
    unfold Settings.resultLine?
    rw [hZero]
    cases c? with
    | none => rfl
    | some c => rfl
  rw [hAccounts.lines_eq]
  simp only [hSome]
  rw [List.filterMap_eq_map', List.map_map]
  rfl

/- If failures count as zero, all checkpoints are written. -/
theorem linesWritten_of_zero
    (hAccounts : Accounts s benchmark b d report content)
    (hZero : s.missing = .zero) :
    report.linesWritten = s.checkpoints.toNat := by
  have hLength :=
    congrArg List.length (hAccounts.lines_of_zero hZero)
  rw [List.length_map, List.length_map, length_indices]
    at hLength
  rw [hAccounts.linesWritten_eq, hLength]

/- Elements without a value, and the values of the others. -/
theorem length_filterMap_add_length_filter
    {α β : Type}
    (f : α → Option β)
    (xs : List α) :
    (xs.filterMap f).length +
        (xs.filter fun x => (f x).isNone).length =
      xs.length := by
  induction xs with
  | nil => rfl
  | cons x xs ih =>
      cases hValue : f x with
      | none =>
          simp only [List.filterMap_cons, hValue,
            List.filter_cons, Option.isNone_none, if_true,
            List.length_cons]
          omega
      | some y =>
          simp only [List.filterMap_cons, hValue,
            List.filter_cons, Option.isNone_some,
            Bool.false_eq_true, if_false, List.length_cons]
          omega

/- If failures are skipped, the rest is written. -/
theorem linesWritten_of_skip
    (hAccounts : Accounts s benchmark b d report content)
    (hSkip : s.missing = .skip) :
    report.linesWritten + report.skipped.length =
      s.checkpoints.toNat := by
  have hNone (c? : Option Comparison) :
      (s.resultLine? c?).isNone = c?.isNone := by
    unfold Settings.resultLine?
    rw [hSkip]
    cases c? with
    | none => rfl
    | some c => rfl
  have hLength :=
    length_filterMap_add_length_filter
      (fun i =>
        s.resultLine?
          (compared? b d
            (s.checkpointPath benchmark.dir i)))
      s.indices
  simp only [hNone] at hLength
  rw [hAccounts.linesWritten_eq, hAccounts.lines_eq,
    hAccounts.skipped_eq, List.filter_map, List.length_map,
    ← length_indices]
  exact hLength

end Accounts

------------------------------------------------------------
-- Workers
------------------------------------------------------------

namespace Pool

variable {α : Type}

/- A worker puts a result at the place of its checkpoint. -/
def finish
    (task : Nat → α)
    (places : List (Option α))
    (i : Nat) : List (Option α) :=
  places.set (i - 1) (some (task i))

/-
  The results at their places, when workers have finished
  checkpoints in some order.
-/
def collect
    (task : Nat → α)
    (checkpoints : Nat)
    (order : List Nat) : List (Option α) :=
  order.foldl (finish task)
    (List.replicate checkpoints none)

/-
  Every place holds the result of its checkpoint, once a
  worker has finished it, and nothing else changes it.
-/
theorem getElem?_foldl_finish
    (task : Nat → α)
    {order : List Nat}
    (hFrom : ∀ i ∈ order, 1 ≤ i)
    (places : List (Option α))
    {k : Nat}
    (hPlace : k < places.length) :
    (order.foldl (finish task) places)[k]? =
      if k + 1 ∈ order then some (some (task (k + 1)))
      else places[k]? := by
  induction order generalizing places with
  | nil => rfl
  | cons i order ih =>
      have hRest :=
        ih (fun j hMem => hFrom j (List.mem_cons_of_mem _ hMem))
          (finish task places i)
          (by rw [finish, List.length_set]; exact hPlace)
      have hFirst : 1 ≤ i := hFrom i List.mem_cons_self
      rw [List.foldl_cons, hRest]
      by_cases hMem : k + 1 ∈ order
      · rw [if_pos hMem, if_pos (List.mem_cons_of_mem _ hMem)]
      · rw [if_neg hMem, finish]
        by_cases hEq : i = k + 1
        · subst hEq
          rw [if_pos List.mem_cons_self, Nat.add_sub_cancel,
            List.getElem?_set_self hPlace]
        · have hOther : ¬ k + 1 ∈ i :: order := by
            intro hCons
            rcases List.mem_cons.mp hCons with hHead | hTail
            · exact hEq hHead.symm
            · exact hMem hTail
          rw [if_neg hOther, List.getElem?_set_ne (by omega)]

/- Finishing checkpoints keeps the number of places. -/
theorem length_foldl_finish
    (task : Nat → α)
    (order : List Nat)
    (places : List (Option α)) :
    (order.foldl (finish task) places).length =
      places.length := by
  induction order generalizing places with
  | nil => rfl
  | cons i order ih =>
      rw [List.foldl_cons, ih, finish, List.length_set]

/-
  In whatever order all checkpoints are finished, their
  results are collected in the order of the checkpoints.
-/
theorem collect_eq_map
    (task : Nat → α)
    (checkpoints : Nat)
    {order : List Nat}
    (hOrder : order.Perm (List.range' 1 checkpoints)) :
    collect task checkpoints order =
      (List.range' 1 checkpoints).map (some ∘ task) := by
  have hMem (i : Nat) :
      i ∈ order ↔ 1 ≤ i ∧ i < 1 + checkpoints := by
    rw [hOrder.mem_iff, List.mem_range'_1]
  apply List.ext_getElem?
  intro k
  by_cases hPlace : k < checkpoints
  · rw [collect,
      getElem?_foldl_finish task
        (fun i hFinished => ((hMem i).mp hFinished).1) _
        (by rw [List.length_replicate]; exact hPlace),
      if_pos ((hMem (k + 1)).mpr (by omega)),
      List.getElem?_map, List.getElem?_range' (by omega),
      Nat.one_mul, Nat.add_comm 1 k]
    rfl
  · rw [List.getElem?_eq_none, List.getElem?_eq_none]
    · rw [List.length_map, List.length_range']
      omega
    · rw [collect, length_foldl_finish,
        List.length_replicate]
      omega

end Pool

/-
  The outcomes of all checkpoints, when workers have
  finished the comparisons in some order.
-/
def pooledOutcomes
    (s : Settings)
    (b : Baseline)
    (d : Disk)
    (dir : Path)
    (order : List Nat) : List Outcome :=
  let outcome (i : Nat) : Outcome :=
    ⟨s.checkpointPath dir i,
      compareAt b d (s.checkpointPath dir i)⟩
  (Pool.collect outcome s.checkpoints.toNat order).filterMap
    id

/- The order of the comparisons does not matter. -/
theorem pooledOutcomes_eq
    (s : Settings)
    (b : Baseline)
    (d : Disk)
    (dir : Path)
    {order : List Nat}
    (hOrder : order.Perm s.indices) :
    pooledOutcomes s b d dir order = outcomes s b d dir := by
  rw [pooledOutcomes, Pool.collect_eq_map _ _ hOrder,
    List.filterMap_map,
    Function.id_comp, List.filterMap_eq_map]
  rfl

------------------------------------------------------------
-- The Whole Examination
------------------------------------------------------------

/- An examination that loads its baseline and its output. -/
theorem examine_of_create
    {s : Settings}
    {benchmark : Benchmark}
    {d d' : Disk}
    {b : Baseline}
    {target : Location}
    (hLoad :
      loadBaseline d (s.baselinePath benchmark.dir) = .ok b)
    (hCreate :
      d.create (s.outputPath benchmark.name) =
        .ok (target, d')) :
    (examine s benchmark d).result =
        (writeOutcomes s benchmark b target d').result ∧
      (examine s benchmark d).disk =
        (writeOutcomes s benchmark b target d').disk := by
  rw [examine, hLoad]
  simp only
  rw [hCreate]
  exact ⟨rfl, rfl⟩

/-
  The result file of a benchmark is opened, but the result
  lines cannot be written to it.
-/
def WriteFails
    (s : Settings)
    (benchmark : Benchmark)
    (d : Disk)
    (cause : DeviceFault) : Prop :=
  ∃ b target d',
    loadBaseline d (s.baselinePath benchmark.dir) = .ok b ∧
    d.create (s.outputPath benchmark.name) =
      .ok (target, d') ∧
    (s.format.writeTallies
        (talliesOf s.missing
          (outcomes s b d' benchmark.dir))
        (d'.sinkAt target)).2 =
      .error cause

section Creation

variable {s : Settings} {benchmark : Benchmark}
variable {d d' : Disk} {b : Baseline} {target : Location}

/- Writing fails if a limit is in the way of a line. -/
theorem writeFails_iff_short
    (hLoad :
      loadBaseline d (s.baselinePath benchmark.dir) = .ok b)
    (hCreate :
      d.create (s.outputPath benchmark.name) =
        .ok (target, d'))
    {cause : DeviceFault} :
    WriteFails s benchmark d cause ↔
      ∃ limit, d'.limitAt? target = some limit ∧
        limit.room <
          (contentOf s
            (outcomes s b d' benchmark.dir)).length ∧
        limit.fault = cause := by
  rw [← Disk.write_eq_some_iff, contentOf,
    ← LineFormat.writeTallies_eq_error_iff]
  constructor
  · rintro ⟨b', target', e', hLoad', hCreate', hFault⟩
    cases hLoad.symm.trans hLoad'
    cases hCreate.symm.trans hCreate'
    exact hFault
  · intro hFault
    exact ⟨b, target, d', hLoad, hCreate, hFault⟩

/- If writing does not fail, there is room for all lines. -/
theorem hasRoom_of_writes
    (hLoad :
      loadBaseline d (s.baselinePath benchmark.dir) = .ok b)
    (hCreate :
      d.create (s.outputPath benchmark.name) =
        .ok (target, d'))
    (hWrites : ∀ cause, ¬ WriteFails s benchmark d cause) :
    d'.HasRoom target
      (contentOf s (outcomes s b d' benchmark.dir)) := by
  rcases Disk.hasRoom_or_short d' target
      (contentOf s (outcomes s b d' benchmark.dir)) with
    hRoom | ⟨limit, hLimit, hShort⟩
  · exact hRoom
  · exact absurd
      ((writeFails_iff_short hLoad hCreate).mpr
        ⟨limit, hLimit, hShort, rfl⟩)
      (hWrites limit.fault)

/- Without a limit, writing does not fail. -/
theorem not_writeFails_of_no_limit
    (hCreate :
      d.create (s.outputPath benchmark.name) =
        .ok (target, d'))
    (hNone : d'.limitAt? target = none)
    (cause : DeviceFault) :
    ¬ WriteFails s benchmark d cause := by
  intro hFails
  have hOpened := hFails
  rcases hOpened with ⟨b, _, _, hLoad, -, -⟩
  rcases (writeFails_iff_short hLoad hCreate).mp hFails with
    ⟨limit, hLimit, -⟩
  cases hNone.symm.trans hLimit

/-
  When the baseline loads and the result file can be created
  and written, the examination gives a report and leaves a
  file, unless a device took it, that account for every
  checkpoint as it is read after the file was created; a
  full device takes no line at all. If failures count as
  zero, the lines of the file belong to the checkpoints one
  by one. It makes no difference in which order workers have
  finished the comparisons.
-/
theorem examine_accounts_by_index
    (hLoad :
      loadBaseline d (s.baselinePath benchmark.dir) = .ok b)
    (hCreate :
      d.create (s.outputPath benchmark.name) =
        .ok (target, d'))
    (hWrites : ∀ cause, ¬ WriteFails s benchmark d cause) :
    ∃ report content,
      (examine s benchmark d).result = .ok report ∧
      ((examine s benchmark d).disk.read
            (s.outputPath benchmark.name) =
          .ok (Stream.ofBytes content) ∨
        d'.entry? target = some .nullDevice ∨
        d'.entry? target = some .fullDevice ∧
          content = []) ∧
      (∀ i,
        (compared? b d'
            (s.checkpointPath benchmark.dir i)).isSome ↔
          ∃ bytes,
            d'.read (s.checkpointPath benchmark.dir i) =
              .ok (Stream.ofBytes bytes)) ∧
      Accounts s benchmark b d' report content ∧
      (s.missing = .zero →
        (cutLines content).map some =
          s.indices.map fun i =>
            s.resultLine?
              (compared? b d'
                (s.checkpointPath benchmark.dir i))) ∧
      ∀ order,
        order.Perm s.indices →
          let os :=
            pooledOutcomes s b d' benchmark.dir order
          report =
              reportOf s benchmark b os
                report.linesWritten ∧
            content = contentOf s os := by
  rcases examine_of_create hLoad hCreate with
    ⟨hResult, hDisk⟩
  have hRoom := hasRoom_of_writes hLoad hCreate hWrites
  rcases writeOutcomes_of_hasRoom s benchmark b hRoom with
    ⟨hWritten, hStored⟩
  have hAccounts := accounts_outcomes s benchmark b d'
  refine
    ⟨_, _, hResult.trans hWritten, ?_,
      fun i => compared?_isSome_iff b d' _, hAccounts,
      hAccounts.lines_of_zero, ?_⟩
  · rcases (Disk.create_creates hCreate).entry?_target with
      hFile | hNull | hFull
    · rw [hDisk, hStored]
      exact .inl (Disk.read_store hCreate hFile _)
    · exact .inr (.inl hNull)
    · have hNone := hRoom _ (Disk.limitAt?_of_full hFull)
      rw [Nat.le_zero, List.length_eq_zero_iff] at hNone
      exact .inr (.inr ⟨hFull, hNone⟩)
  · intro order hOrder
    rw [pooledOutcomes_eq s b d' benchmark.dir hOrder]
    exact ⟨rfl, rfl⟩

end Creation

/-
  A disk with the folder of one benchmark, which has a
  baseline and the first checkpoint, and with a folder for
  the results.
-/
def smallDisk : Disk :=
  { entries :=
      [ (["in"], .folder),
        (["b", "in"], .folder),
        (["10M.csv", "b", "in"],
          .file (Stream.ofBytes (Utf8.encode "x,t\n"))),
        (["100M.csv", "b", "in"],
          .file (Stream.ofBytes (Utf8.encode "x,u,4\nx\n"))),
        (["out"], .folder) ] }

/- Settings for two checkpoints, counted in any case. -/
def smallSettings : Settings :=
  { outputDir := "out", checkpoints := 2, missing := .zero }

/- The second checkpoint is missing and has a line. -/
theorem examine_smallDisk :
    let b : Baseline := { tags := ["t"] }
    let target : Location := ["b", "out"]
    let d := smallDisk.put target Disk.emptyFile
    loadBaseline smallDisk "in/b/10M.csv" = .ok b ∧
      smallDisk.create "out/b" = .ok (target, d) ∧
      (∀ cause,
        ¬ WriteFails smallSettings ⟨"b", "in/b"⟩ smallDisk
          cause) ∧
      ∃ report content,
        (examine smallSettings ⟨"b", "in/b"⟩
            smallDisk).result = .ok report ∧
          Accounts smallSettings ⟨"b", "in/b"⟩ b d report
            content := by
  have hLoad :
      loadBaseline smallDisk
          (smallSettings.baselinePath "in/b") =
        .ok { tags := ["t"] } := by
    rfl
  have hCreate :
      smallDisk.create (smallSettings.outputPath "b") =
        .ok
          (["b", "out"],
            smallDisk.put ["b", "out"] Disk.emptyFile) := by
    rfl
  have hWrites :
      ∀ cause,
        ¬ WriteFails smallSettings ⟨"b", "in/b"⟩ smallDisk
          cause :=
    not_writeFails_of_no_limit hCreate (by decide)
  have hExamined :=
    @examine_accounts_by_index smallSettings ⟨"b", "in/b"⟩
      smallDisk _ _ _ hLoad hCreate hWrites
  rcases hExamined with
    ⟨report, content, hResult, -, -, hAccounts, -⟩
  exact
    ⟨hLoad, hCreate, hWrites, report, content, hResult,
      hAccounts⟩

end PageHeat
