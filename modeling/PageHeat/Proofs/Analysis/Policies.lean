import PageHeat.Proofs.Analysis.Turns

/-
  One benchmark under both policies for failed checkpoints.

  Both examinations load the same baseline and create the
  same result file, so they compare the checkpoints alike.
  Counting failures as zero writes a line at the place of
  every checkpoint; skipping them leaves these lines out
  and nothing else.

  Key definitions include:
    * `withoutLines`
    * `Settings.under`
    * `Settings.filledLine`

  Key lemmas include:
    * `withoutLines_of_numbers`
    * `exists_written`
    * `Disk.read_store_of_create`
    * `Accounts.withoutLines_eq`
    * `skipping_deletes_zero_lines`
-/

------------------------------------------------------------
-- Deleting Lines
------------------------------------------------------------

namespace PageHeat

/- What is left of bytes without the lines of some numbers. -/
def withoutLines
    (gone : Nat → Prop)
    [DecidablePred gone]
    (bytes : Bytes) : Bytes :=
  (((numbered (cutLines bytes)).filter
      fun (i, _) => ¬ gone i).map Prod.snd).flatten

/- Lines that were made of numbers have these numbers. -/
theorem numbered_map_range'
    {α : Type}
    (f : Nat → α)
    (n : Nat) :
    numbered ((List.range' 1 n).map f) =
      (List.range' 1 n).map fun i => (i, f i) := by
  apply List.ext_getElem?
  intro k
  rw [numbered, List.getElem?_map, List.getElem?_zipIdx,
    List.getElem?_map, List.getElem?_map]
  cases hPlace : (List.range' 1 n)[k]? with
  | none => rfl
  | some i =>
      have hNumber : i = k + 1 := by
        rcases List.getElem?_eq_some_iff.mp hPlace with
          ⟨hLt, rfl⟩
        rw [List.getElem_range']
        omega
      subst hNumber
      simp only [Option.map_some, Nat.zero_add]

/- Without some of their lines, the others are left. -/
theorem withoutLines_of_numbers
    (gone : Nat → Prop)
    [DecidablePred gone]
    {bytes : Bytes}
    {n : Nat}
    {line : Nat → Bytes}
    (hLines : cutLines bytes = (List.range' 1 n).map line) :
    withoutLines gone bytes =
      (((List.range' 1 n).filter fun i => ¬ gone i).map
        line).flatten := by
  rw [withoutLines, hLines, numbered_map_range',
    List.filter_map, List.map_map]
  rfl

------------------------------------------------------------
-- Examinations With A Report
------------------------------------------------------------

/- What is kept of bytes that are written to a location. -/
def Disk.keptAt
    (d : Disk)
    (l : Location)
    (bytes : Bytes) : Bytes :=
  match d.entry? l with
  | some (.file _) => bytes
  | _ => []

/- A location keeps all bytes, or it never keeps any. -/
theorem Disk.keptAt_or
    (d : Disk)
    (l : Location) :
    (∀ bytes, d.keptAt l bytes = bytes) ∨
      ∀ bytes, d.keptAt l bytes = [] := by
  unfold keptAt
  split
  · exact .inl fun _ => rfl
  · exact .inr fun _ => rfl

/-
  At a path that was created, what was kept is read. Only
  reading a full device would never end.
-/
theorem Disk.read_store_of_create
    {d d' : Disk}
    {p : Path}
    {target : Location}
    (hCreate : d.create p = .ok (target, d'))
    (hEnds : d'.entry? target ≠ some .fullDevice)
    (sink : Sink) :
    (d'.store target sink).read p =
      .ok (Stream.ofBytes (d'.keptAt target sink.received)) := by
  have hCreates := create_creates hCreate
  rcases hCreates.entry?_target with hFile | hNull | hFull
  · rw [read_store hCreate hFile, keptAt, hFile]
    rfl
  · rcases create_resolves hCreate with
      ⟨spot, hResolve, rfl⟩
    have hGoOn : AtLink.create ≠ AtLink.stay :=
      fun h => by cases h
    rw [store, keptAt, hNull]
    simp only
    rw [read, resolve_eq_present hCreates.keeps hGoOn
      hResolve hNull]
  · exact absurd hFull hEnds

/-
  An examination with a report has written a result file
  that accounts for every checkpoint. A full device has
  taken all of it if it has no line.
-/
theorem exists_written
    {s : Settings}
    {benchmark : Benchmark}
    {d : Disk}
    {report : Report}
    (hReport : (examine s benchmark d).result = .ok report) :
    ∃ b target d' content,
      loadBaseline d (s.baselinePath benchmark.dir) = .ok b ∧
        d.create (s.outputPath benchmark.name) =
          .ok (target, d') ∧
        Accounts s benchmark b d' report content ∧
        (d'.entry? target = some .fullDevice →
          content = []) ∧
        (d'.entry? target ≠ some .fullDevice →
          (examine s benchmark d).disk.read
              (s.outputPath benchmark.name) =
            .ok
              (Stream.ofBytes (d'.keptAt target content))) := by
  have hExamined := examine_examined s benchmark d
  rw [hReport] at hExamined
  generalize (examine s benchmark d).disk = after
    at hExamined ⊢
  cases hExamined with
  | written b target d' _ content _ hLoad hCreate hRoom
      hAccounts =>
      refine
        ⟨b, target, d', content, hLoad, hCreate, hAccounts,
          ?_, fun hEnds =>
            Disk.read_store_of_create hCreate hEnds _⟩
      intro hFull
      have hNone := hRoom _ (Disk.limitAt?_of_full hFull)
      rwa [Nat.le_zero, List.length_eq_zero_iff] at hNone

------------------------------------------------------------
-- Both Policies
------------------------------------------------------------

/- The same settings with a policy for failed checkpoints. -/
def Settings.under
    (s : Settings)
    (policy : MissingPolicy) : Settings :=
  { s with missing := policy }

/- The number of a checkpoint that a report has skipped. -/
def Settings.Skips
    (s : Settings)
    (dir : Path)
    (report : Report)
    (i : Nat) : Prop :=
  s.checkpointPath dir i ∈ report.skipped

instance
    (s : Settings)
    (dir : Path)
    (report : Report) :
    DecidablePred (s.Skips dir report) :=
  fun i =>
    inferInstanceAs
      (Decidable (s.checkpointPath dir i ∈ report.skipped))

/- The line of a checkpoint if failures count as zero. -/
def Settings.filledLine
    (s : Settings)
    (c? : Option Comparison) : Bytes :=
  Utf8.encode
    (s.format.endedLine ((c?.map Comparison.tally).getD { }))

namespace Accounts

variable {s : Settings} {benchmark : Benchmark}
variable {b : Baseline} {d : Disk}
variable {report : Report} {content : Bytes}

/- A checkpoint is skipped if nothing was compared. -/
theorem skips_iff
    {policy : MissingPolicy}
    (hAccounts :
      Accounts (s.under policy) benchmark b d report content)
    {i : Nat}
    (hIndex : i ∈ s.indices) :
    s.Skips benchmark.dir report i ↔
      compared? b d (s.checkpointPath benchmark.dir i) =
        none := by
  have hMem :
      s.checkpointPath benchmark.dir i ∈
        s.indices.map (s.checkpointPath benchmark.dir) :=
    List.mem_map_of_mem hIndex
  rw [Settings.Skips, hAccounts.skipped_eq, List.mem_filter,
    Option.isNone_iff_eq_none]
  exact and_iff_right hMem

/- So the others are the compared ones. -/
theorem isSome_eq
    {policy : MissingPolicy}
    (hAccounts :
      Accounts (s.under policy) benchmark b d report content)
    {i : Nat}
    (hIndex : i ∈ s.indices) :
    (compared? b d (s.checkpointPath benchmark.dir i)).isSome =
      decide (¬ s.Skips benchmark.dir report i) := by
  simp only [hAccounts.skips_iff hIndex]
  cases compared? b d (s.checkpointPath benchmark.dir i) with
  | none => rfl
  | some c => rfl

/- If failures count as zero, every checkpoint has a line. -/
theorem lines_under_zero
    (hAccounts :
      Accounts (s.under .zero) benchmark b d report content) :
    cutLines content =
      s.indices.map fun i =>
        s.filledLine
          (compared? b d
            (s.checkpointPath benchmark.dir i)) := by
  have hLine (c? : Option Comparison) :
      (s.under .zero).resultLine? c? =
        some (s.filledLine c?) := by
    cases c? with
    | none => rfl
    | some c => rfl
  rw [hAccounts.lines_eq]
  simp only [hLine]
  exact congrFun List.filterMap_eq_map' _

/- If they are skipped, the compared checkpoints have one. -/
theorem lines_under_skip
    (hAccounts :
      Accounts (s.under .skip) benchmark b d report content) :
    cutLines content =
      (s.indices.filter fun i =>
          (compared? b d
            (s.checkpointPath benchmark.dir i)).isSome).map
        fun i =>
          s.filledLine
            (compared? b d
              (s.checkpointPath benchmark.dir i)) := by
  have hLine (c? : Option Comparison) :
      (s.under .skip).resultLine? c? =
        if c?.isSome then some (s.filledLine c?)
        else none := by
    cases c? with
    | none => rfl
    | some c => rfl
  rw [hAccounts.lines_eq, ← List.filterMap_eq_map',
    List.filterMap_filter]
  simp only [hLine]
  rfl

/-
  Without the lines of the skipped checkpoints, the content
  that counts failures as zero is the one that skips them.
-/
theorem withoutLines_eq
    {other : Report}
    {rest : Bytes}
    (hFilled :
      Accounts (s.under .zero) benchmark b d report content)
    (hSparse :
      Accounts (s.under .skip) benchmark b d other rest) :
    rest =
      withoutLines (s.Skips benchmark.dir report) content := by
  have hCompared :=
    List.filter_congr fun i (hIndex : i ∈ s.indices) =>
      hFilled.isSome_eq hIndex
  rw [withoutLines_of_numbers _ hFilled.lines_under_zero,
    ← (isCutting_cutLines rest).flatten_eq,
    hSparse.lines_under_skip, hCompared]
  rfl

/- The line of a skipped checkpoint is one of zeros. -/
theorem line_eq_of_skips
    (hFilled :
      Accounts (s.under .zero) benchmark b d report content)
    {i : Nat}
    {line : Bytes}
    (hMem : (i, line) ∈ numbered (cutLines content))
    (hGone : s.Skips benchmark.dir report i) :
    line = Utf8.encode (s.format.endedLine { }) := by
  rw [hFilled.lines_under_zero, Settings.indices,
    numbered_map_range', List.mem_map] at hMem
  rcases hMem with ⟨i, hIndex, hLine⟩
  cases hLine
  rw [(hFilled.skips_iff hIndex).mp hGone]
  rfl

end Accounts

theorem withoutLines_nil
    (gone : Nat → Prop)
    [DecidablePred gone] :
    withoutLines gone [] = [] := rfl

/-
  If a benchmark can be examined under both policies, then
  deleting the lines with the numbers of the skipped
  checkpoints from the result file that counts failures as
  zero gives the one that skips them. All deleted lines are
  lines of zeros. The reports skip the same checkpoints and
  list the same malformed logs, and the numbers of their
  lines differ by the number of skipped checkpoints. Both
  files can be read, unless they are a full device that took
  both of them as neither has a line.
-/
theorem skipping_deletes_zero_lines
    {s : Settings}
    {benchmark : Benchmark}
    {d : Disk}
    {filled sparse : Report}
    (hZero :
      (examine (s.under .zero) benchmark d).result =
        .ok filled)
    (hSkip :
      (examine (s.under .skip) benchmark d).result =
        .ok sparse) :
    let gone := s.Skips benchmark.dir filled
    ∃ all rest,
      ((examine (s.under .zero) benchmark d).disk.read
              (s.outputPath benchmark.name) =
            .ok (Stream.ofBytes all) ∧
          (examine (s.under .skip) benchmark d).disk.read
              (s.outputPath benchmark.name) =
            .ok (Stream.ofBytes rest) ∨
        s.checkpoints = 0 ∧ all = [] ∧ rest = [] ∧
          ∃ target,
            d.create (s.outputPath benchmark.name) =
                .ok (target, d) ∧
              d.entry? target = some .fullDevice) ∧
        rest = withoutLines gone all ∧
        (∀ i line,
          (i, line) ∈ numbered (cutLines all) →
            gone i →
              line = Utf8.encode (s.format.endedLine { })) ∧
        sparse.skipped = filled.skipped ∧
        sparse.malformed = filled.malformed ∧
        filled.linesWritten =
          sparse.linesWritten + filled.skipped.length := by
  intro gone
  rcases exists_written hZero with
    ⟨b, target, d', content, hLoad, hCreate, hFilled, hNone,
      hRead⟩
  rcases exists_written hSkip with
    ⟨b', target', e', content', hLoad', hCreate', hSparse,
      hNone', hRead'⟩
  -- both examinations start alike
  obtain rfl : b = b' :=
    Except.ok.inj (hLoad.symm.trans hLoad')
  obtain ⟨rfl, rfl⟩ : target = target' ∧ d' = e' :=
    Prod.mk.inj (Except.ok.inj (hCreate.symm.trans hCreate'))
  have hSkipped : sparse.skipped = filled.skipped :=
    hSparse.skipped_eq.trans hFilled.skipped_eq.symm
  have hMalformed : sparse.malformed = filled.malformed :=
    hSparse.malformed_eq.trans hFilled.malformed_eq.symm
  have hCount :
      filled.linesWritten =
        sparse.linesWritten + filled.skipped.length := by
    have hAll : filled.linesWritten = s.checkpoints.toNat :=
      hFilled.linesWritten_of_zero rfl
    have hRest :
        sparse.linesWritten + sparse.skipped.length =
          s.checkpoints.toNat :=
      hSparse.linesWritten_of_skip rfl
    rw [hAll, ← hSkipped, hRest]
  by_cases hFull : d'.entry? target = some .fullDevice
  · cases hNone hFull
    have hIndices : s.indices = [] :=
      List.map_eq_nil_iff.mp hFilled.lines_under_zero.symm
    have hNoCheckpoint : s.checkpoints = 0 :=
      UInt32.toNat_inj.mp (List.range'_eq_nil_iff.mp hIndices)
    have hSame : d' = d := Disk.eq_of_create_full hCreate hFull
    subst hSame
    refine
      ⟨[], [],
        .inr ⟨hNoCheckpoint, rfl, rfl, target, hCreate, hFull⟩,
        (withoutLines_nil gone).symm, ?_, hSkipped, hMalformed,
        hCount⟩
    intro i line hMem
    cases hMem
  refine
    ⟨_, _, .inl ⟨hRead hFull, hRead' hFull⟩, ?_, ?_, hSkipped,
      hMalformed, hCount⟩
  · rcases d'.keptAt_or target with hKept | hLost
    · rw [hKept, hKept]
      exact hFilled.withoutLines_eq hSparse
    · rw [hLost, hLost, withoutLines_nil]
  · intro i line hMem hGone
    rcases d'.keptAt_or target with hKept | hLost
    · rw [hKept] at hMem
      exact hFilled.line_eq_of_skips hMem hGone
    · rw [hLost] at hMem
      cases hMem

/-
  The disk of one benchmark with a checkpoint that breaks
  off, and one behind it that does not.
-/
def gappyDisk : Disk :=
  let broken :=
    Stream.breakingAt 6 (.numbered 5)
      (Utf8.encode "x,u,4\nx,u,5\n")
  let last := Stream.ofBytes (Utf8.encode "x,t,7\n")
  (smallDisk.put ["200M.csv", "b", "in"] (.file broken)).put
    ["300M.csv", "b", "in"] (.file last)

/- Settings for one checkpoint more than there are. -/
def gappySettings : Settings :=
  { smallSettings with checkpoints := 4 }

/- The second and the fourth line are deleted. -/
theorem skipping_deletes_gappyDisk :
    let benchmark : Benchmark := ⟨"b", "in/b"⟩
    let filled : Report :=
      { name := "b"
        output := "out/b"
        linesWritten := 4
        skipped := ["in/b/200M.csv", "in/b/400M.csv"]
        malformed := [⟨"in/b/100M.csv", 1⟩] }
    let sparse : Report := { filled with linesWritten := 2 }
    let zero :=
      examine (gappySettings.under .zero) benchmark gappyDisk
    let skip :=
      examine (gappySettings.under .skip) benchmark gappyDisk
    zero.result = .ok filled ∧
      skip.result = .ok sparse ∧
      ∃ all rest,
        zero.disk.read "out/b" = .ok (Stream.ofBytes all) ∧
          skip.disk.read "out/b" =
            .ok (Stream.ofBytes rest) ∧
          rest =
            withoutLines (gappySettings.Skips "in/b" filled)
              all := by
  intro benchmark filled sparse zero skip
  have hZero : zero.result = .ok filled :=
    Step.result_of_toOption (by decide +kernel)
  have hSkip : skip.result = .ok sparse :=
    Step.result_of_toOption (by decide +kernel)
  rcases skipping_deletes_zero_lines hZero hSkip with
    ⟨all, rest, ⟨hAll, hRest⟩ | ⟨hNone, -⟩, hWithout, -⟩
  · exact ⟨hZero, hSkip, all, rest, hAll, hRest, hWithout⟩
  · cases hNone

end PageHeat
