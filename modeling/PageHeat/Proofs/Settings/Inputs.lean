import PageHeat.Proofs.Disk.Inside
import PageHeat.Proofs.Settings.Marks

/-
  The paths that are read for a benchmark.

  The logs of a benchmark stand directly in its folder. A
  checkpoint is always called by a name that an entry can
  have, and so is the baseline unless its name is that of
  dots. The baseline is the log of a checkpoint exactly if
  it has the name of this checkpoint; apart from that, all
  logs are different.

  Key definitions include:
    * `Settings.inputPaths`
    * `Path.IsEntryOf`

  Key lemmas include:
    * `isName_baseline`
    * `isProper_checkpointName`
    * `exists_of_mem_inputPaths`
    * `Settings.IsValid.nodup_inputPaths_iff`
    * `inputs_stand_in_their_folder`
-/

------------------------------------------------------------
-- Names Of Logs
------------------------------------------------------------

namespace PageHeat

theorem isName_baseline
    {s : Settings}
    (hOk : s.validate = .ok ()) :
    Path.IsName (Utf8.encode s.baseline) := by
  have hValid := s.validate_eq_ok_iff.mp hOk
  exact Path.isName_encode hValid.some_name hValid.no_slash

/- The name of a checkpoint is longer than those of dots. -/
theorem isProper_checkpointName
    (s : Settings)
    (i : Nat) :
    Path.IsProper (Utf8.encode (s.checkpointName i)) := by
  have hLength : 5 ≤ (s.checkpointName i).length := by
    rw [Settings.checkpointName, List.length_append]
    exact Nat.le_add_left 5 _
  have hHere : Path.here = Utf8.encode "." := rfl
  have hOutward : Path.outward = Utf8.encode ".." := rfl
  refine ⟨isName_checkpointName s i, ?_, ?_⟩
  · rw [hHere, Ne, Utf8.encode_inj]
    intro hEq
    rw [hEq] at hLength
    exact absurd hLength (by decide)
  · rw [hOutward, Ne, Utf8.encode_inj]
    intro hEq
    rw [hEq] at hLength
    exact absurd hLength (by decide)

/- The paths that are read for a benchmark folder. -/
def Settings.inputPaths
    (s : Settings)
    (dir : Path) : List Path :=
  s.baselinePath dir ::
    s.indices.map (s.checkpointPath dir)

/- An input path leads into the folder of its benchmark. -/
theorem exists_of_mem_inputPaths
    {s : Settings}
    (hValid : s.validate = .ok ())
    {dir p : Path}
    (hMem : p ∈ s.inputPaths dir) :
    ∃ name, Path.IsName name ∧ p = dir.join name := by
  rcases List.mem_cons.mp hMem with rfl | hCheckpoint
  · exact ⟨_, isName_baseline hValid, rfl⟩
  · rcases List.mem_map.mp hCheckpoint with ⟨i, -, rfl⟩
    exact ⟨_, isName_checkpointName s i, rfl⟩

------------------------------------------------------------
-- Entries Of A Folder
------------------------------------------------------------

/-
  A path of an entry directly in a folder: behind the names
  on the path of the folder stands one more, which an entry
  can have.
-/
structure Path.IsEntryOf
    (p dir : Path)
    (name : Name) : Prop where
  proper : Path.IsProper name
  names_eq : p.names = dir.names ++ [name]
  isAbsolute_eq : p.isAbsolute = dir.isAbsolute
  no_slash : p.endsInSlash = false

/- A name that an entry can have is joined to its path. -/
theorem Path.isEntryOf_join
    (dir : Path)
    {name : Name}
    (hProper : Path.IsProper name) :
    (dir.join name).IsEntryOf dir name :=
  ⟨hProper, Path.names_join dir hProper.1,
    Path.isAbsolute_join dir hProper.1,
    Path.endsInSlash_join dir hProper.1⟩

/- A file at an input path is an entry of the folder. -/
theorem entry_of_inputPath
    {s : Settings}
    (hOk : s.validate = .ok ())
    {d : Disk}
    (hPlain : d.IsPlain)
    {dir p : Path}
    {l m : Location}
    (hAt : d.FolderAt dir l)
    (hMem : p ∈ s.inputPaths dir)
    {content : Stream}
    (hFile : d.resolve p = .ok (.present m (.file content))) :
    ∃ name, m = name :: l ∧ p = dir.join name ∧
      p.IsEntryOf dir name := by
  rcases exists_of_mem_inputPaths hOk hMem with
    ⟨name, hName, rfl⟩
  have hPlace : m = name :: l :=
    hPlain.resolve_join_file hAt hName hFile
  have hEntry : d.entry? m = some (.file content) :=
    Disk.resolveTo_isOn hFile
  rw [hPlace] at hEntry
  exact ⟨name, hPlace, rfl,
    Path.isEntryOf_join dir (hPlain.isProper hEntry)⟩

------------------------------------------------------------
-- Different Logs
------------------------------------------------------------

namespace Settings

variable {s : Settings}

/- A baseline is a checkpoint if it has its name. -/
theorem IsValid.baselinePath_eq_iff
    (hValid : s.IsValid)
    (dir : Path)
    {i : Nat}
    (hLast : i ≤ s.checkpoints.toNat) :
    s.baselinePath dir = s.checkpointPath dir i ↔
      s.baseline =
        Decimal.text (i * s.stepMillions.toNat) ++
          "M.csv" := by
  rw [baselinePath, checkpointPath,
    Path.join_inj dir
      (Path.isName_encode hValid.some_name hValid.no_slash)
      (isName_checkpointName s i),
    Utf8.encode_inj, hValid.checkpointName_eq hLast]

/-
  The input paths are different from each other if the
  baseline has no name of a checkpoint.
-/
theorem IsValid.nodup_inputPaths_iff
    (hValid : s.IsValid)
    (dir : Path) :
    (s.inputPaths dir).Nodup ↔
      ∀ i ∈ s.indices,
        s.baseline ≠
          Decimal.text (i * s.stepMillions.toNat) ++
            "M.csv" := by
  have hSame (i : Nat) (hMem : i ∈ s.indices) :=
    hValid.baselinePath_eq_iff dir
      ((s.mem_indices_iff i).mp hMem).2
  rw [inputPaths, List.nodup_cons,
    and_iff_left (hValid.nodup_checkpointPaths dir)]
  constructor
  · intro hApart i hMem hEq
    apply hApart
    rw [(hSame i hMem).mpr hEq]
    exact List.mem_map_of_mem hMem
  · intro hOther hMem
    rcases List.mem_map.mp hMem with ⟨i, hIndex, hEq⟩
    exact hOther i hIndex ((hSame i hIndex).mp hEq.symm)

end Settings

------------------------------------------------------------
-- Input Paths
------------------------------------------------------------

/-
  With valid settings, the paths of the checkpoints of a
  benchmark are different from each other, and the path of
  the baseline is that of a checkpoint exactly if the
  baseline has its name; otherwise all input paths are
  different. The checkpoints stand directly in the folder
  of the benchmark, and so does the baseline unless its name
  is that of dots. On a plain disk no file outside of the
  folder is read.
-/
theorem inputs_stand_in_their_folder
    {s : Settings}
    (hOk : s.validate = .ok ())
    (dir : Path) :
    (s.inputPaths dir).length = s.checkpoints.toNat + 1 ∧
    (s.indices.map (s.checkpointPath dir)).Nodup ∧
    (∀ i, 1 ≤ i → i ≤ s.checkpoints.toNat →
      (s.checkpointPath dir i).IsEntryOf dir
        (Utf8.encode (s.checkpointName i)) ∧
      (s.baselinePath dir = s.checkpointPath dir i ↔
        s.baseline =
          Decimal.text (i * s.stepMillions.toNat) ++
            "M.csv")) ∧
    ((s.inputPaths dir).Nodup ↔
      ∀ i, 1 ≤ i → i ≤ s.checkpoints.toNat →
        s.baseline ≠
          Decimal.text (i * s.stepMillions.toNat) ++
            "M.csv") ∧
    (s.baseline ≠ "." → s.baseline ≠ ".." →
      (s.baselinePath dir).IsEntryOf dir
        (Utf8.encode s.baseline)) ∧
    ∀ (d : Disk) (l : Location),
      d.IsPlain → d.FolderAt dir l →
        ∀ p ∈ s.inputPaths dir, ∀ m content,
          d.resolve p = .ok (.present m (.file content)) →
            ∃ name, m = name :: l ∧ p = dir.join name ∧
              p.IsEntryOf dir name := by
  have hValid := s.validate_eq_ok_iff.mp hOk
  refine ⟨?_, hValid.nodup_checkpointPaths dir, ?_, ?_, ?_, ?_⟩
  · rw [Settings.inputPaths, List.length_cons,
      List.length_map, Settings.indices, List.length_range']
  · intro i _ hLast
    exact
      ⟨Path.isEntryOf_join dir (isProper_checkpointName s i),
        hValid.baselinePath_eq_iff dir hLast⟩
  · rw [hValid.nodup_inputPaths_iff dir]
    simp only [Settings.mem_indices_iff, and_imp]
  · intro hHere hOutward
    rw [Ne, ← Utf8.encode_inj] at hHere hOutward
    exact Path.isEntryOf_join dir
      ⟨isName_baseline hOk, hHere, hOutward⟩
  · intro d l hPlain hAt p hMem m content hFile
    exact entry_of_inputPath hOk hPlain hAt hMem hFile

/- Logs every ten millions, and one of another run. -/
def denseSettings : Settings :=
  { baseline := "old.csv", checkpoints := 3,
    stepMillions := 10 }

/- The folder has a slash at its end, which is kept. -/
theorem inputs_stand_in_their_folder_sample :
    denseSettings.validate = .ok () ∧
    (denseSettings.inputPaths "runs/a/").Nodup ∧
    Path.IsEntryOf "runs/a/30M.csv" "runs/a/" "30M.csv" ∧
    Path.IsEntryOf "runs/a/old.csv" "runs/a/" "old.csv" := by
  have hOk : denseSettings.validate = .ok () := rfl
  rcases inputs_stand_in_their_folder hOk "runs/a/" with
    ⟨-, -, hCheckpoints, hNodup, hBaseline, -⟩
  have hOther :
      ∀ i ∈ denseSettings.indices,
        denseSettings.baseline ≠
          Decimal.text (i * 10) ++ "M.csv" := by
    decide
  refine ⟨hOk, hNodup.mpr ?_, ?_, ?_⟩
  · intro i hFirst hLast
    exact hOther i
      ((denseSettings.mem_indices_iff i).mpr ⟨hFirst, hLast⟩)
  · exact (hCheckpoints 3 (by decide) (by decide)).1
  · exact hBaseline (by decide) (by decide)

/- The first checkpoint as the baseline. -/
def doubledSettings : Settings :=
  { baseline := "100M.csv", checkpoints := 1 }

/- The folder around a benchmark as its baseline. -/
def outwardSettings : Settings :=
  { baseline := "..", checkpoints := 1 }

/-
  Settings that are accepted although one log is both the
  baseline and a checkpoint, and others whose baseline does
  not stand in the folder.
-/
theorem baseline_among_checkpoints :
    doubledSettings.validate = .ok () ∧
    doubledSettings.baselinePath "runs/a" =
      doubledSettings.checkpointPath "runs/a" 1 ∧
    ¬ (doubledSettings.inputPaths "runs/a").Nodup ∧
    outwardSettings.validate = .ok () ∧
    outwardSettings.baselinePath "runs/a" = "runs/a/.." ∧
    ¬ Path.IsProper
        (Utf8.encode outwardSettings.baseline) := by
  decide

end PageHeat
