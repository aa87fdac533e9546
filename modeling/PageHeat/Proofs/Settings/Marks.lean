import Mathlib.Data.List.Nodup
import PageHeat.Analysis.Examination
import PageHeat.Proofs.Disk.Path
import PageHeat.Proofs.Log.Line

/-
  Valid settings and the marks of their checkpoints.

  Settings are valid if the mark of the last checkpoint is
  within the largest counter and the baseline has a name.
  The marks before the last one are smaller, so no product
  exceeds a word, and every checkpoint is called by its
  exact mark. Different checkpoints have different marks,
  hence different names and different paths.

  Key definitions include:
    * `Settings.IsValid`

  Key lemmas include:
    * `isName_checkpointName`
    * `Settings.validate_eq_ok_iff`
    * `Settings.IsValid.toNat_mark`
    * `Settings.IsValid.checkpointName_inj`
    * `Settings.validate_keeps_marks_apart`
-/

------------------------------------------------------------
-- Valid Settings
------------------------------------------------------------

namespace PageHeat

/- A checkpoint is called by a name. -/
theorem isName_checkpointName
    (s : Settings)
    (i : Nat) :
    Path.IsName (Utf8.encode (s.checkpointName i)) := by
  rw [Settings.checkpointName]
  refine Path.isName_encode ?_ ?_
  · intro hNil
    cases (List.append_eq_nil_iff.mp hNil).2
  · intro hSlash
    rcases List.mem_append.mp hSlash with hDigit | hEnd
    · exact absurd (Decimal.isDigit_of_mem_text hDigit)
        (by decide)
    · exact absurd hEnd (by decide)

theorem Count.not_gt_limit_iff (n : Nat) :
    ¬ n > Count.limit ↔ n < UInt64.size := by
  rw [Count.limit]
  have hSome : 0 < UInt64.size := by decide
  omega

namespace Settings

/- Settings that a run can use. -/
structure IsValid (s : Settings) : Prop where
  some_checkpoint : 1 ≤ s.checkpoints.toNat
  some_step : 1 ≤ s.stepMillions.toNat
  last_mark :
    s.checkpoints.toNat * s.stepMillions.toNat < UInt64.size
  some_name : s.baseline ≠ []
  no_slash : '/' ∉ s.baseline

theorem some_checkpoint_iff (s : Settings) :
    1 ≤ s.checkpoints.toNat ↔ s.checkpoints ≠ 0 := by
  rw [Nat.one_le_iff_ne_zero, ne_eq, ne_eq,
    ← UInt32.toNat_inj]
  rfl

theorem some_step_iff (s : Settings) :
    1 ≤ s.stepMillions.toNat ↔ s.stepMillions ≠ 0 := by
  rw [Nat.one_le_iff_ne_zero, ne_eq, ne_eq,
    ← UInt64.toNat_inj]
  rfl

/- A check of the settings accepts exactly the valid ones. -/
theorem validate_eq_ok_iff (s : Settings) :
    s.validate = .ok () ↔ s.IsValid := by
  have hMark :
      ¬ s.stepMillions.toNat * s.checkpoints.toNat >
          Count.limit ↔
        s.checkpoints.toNat * s.stepMillions.toNat <
          UInt64.size := by
    rw [Count.not_gt_limit_iff, Nat.mul_comm]
  constructor
  · intro hOk
    unfold validate at hOk
    split at hOk
    · cases hOk
    rename_i hCheckpoint
    split at hOk
    · cases hOk
    rename_i hStep
    split at hOk
    · cases hOk
    rename_i hFits
    split at hOk
    · cases hOk
    rename_i hName
    split at hOk
    · cases hOk
    rename_i hSlash
    exact
      ⟨s.some_checkpoint_iff.mpr hCheckpoint,
        s.some_step_iff.mpr hStep, hMark.mp hFits, hName,
        hSlash⟩
  · intro hValid
    rw [validate,
      if_neg (s.some_checkpoint_iff.mp hValid.some_checkpoint),
      if_neg (s.some_step_iff.mp hValid.some_step),
      if_neg (hMark.mpr hValid.last_mark),
      if_neg hValid.some_name, if_neg hValid.no_slash]

/-
  If the marks of settings are too large, there is a
  checkpoint, and the mark of the last one is no counter.
-/
theorem of_validate_eq_marksTooLarge
    {s : Settings}
    {checkpoints step : Nat}
    (hLarge :
      s.validate =
        .error (.marksTooLarge checkpoints step)) :
    1 ≤ s.checkpoints.toNat ∧
      UInt64.size ≤
        s.checkpoints.toNat * s.stepMillions.toNat := by
  unfold validate at hLarge
  split at hLarge
  · cases hLarge
  rename_i hCheckpoint
  split at hLarge
  · cases hLarge
  split at hLarge
  · rename_i hFits
    refine ⟨s.some_checkpoint_iff.mpr hCheckpoint, ?_⟩
    rw [Nat.mul_comm]
    rw [Count.limit] at hFits
    omega
  · split at hLarge
    · cases hLarge
    · split at hLarge
      · cases hLarge
      · cases hLarge

------------------------------------------------------------
-- Marks
------------------------------------------------------------

theorem mem_indices_iff (s : Settings) (i : Nat) :
    i ∈ s.indices ↔ 1 ≤ i ∧ i ≤ s.checkpoints.toNat := by
  rw [indices, List.mem_range'_1, Nat.add_comm 1,
    Nat.lt_succ_iff]

theorem nodup_indices (s : Settings) : s.indices.Nodup :=
  List.nodup_range'

namespace IsValid

variable {s : Settings} {i j : Nat}

theorem mark_lt
    (hValid : s.IsValid)
    (hLast : i ≤ s.checkpoints.toNat) :
    i * s.stepMillions.toNat < UInt64.size :=
  Nat.lt_of_le_of_lt (Nat.mul_le_mul_right _ hLast)
    hValid.last_mark

/- The product of words is the mark itself. -/
theorem toNat_mark
    (hValid : s.IsValid)
    (hLast : i ≤ s.checkpoints.toNat) :
    (s.mark i).toNat = i * s.stepMillions.toNat := by
  have hWord : i < UInt64.size :=
    Nat.lt_of_le_of_lt hLast
      (Nat.lt_trans s.checkpoints.toNat_lt (by decide))
  rw [mark, UInt64.toNat_mul, UInt64.toNat_ofNat_of_lt' hWord,
    Nat.mod_eq_of_lt (hValid.mark_lt hLast)]

theorem checkpointName_eq
    (hValid : s.IsValid)
    (hLast : i ≤ s.checkpoints.toNat) :
    s.checkpointName i =
      Decimal.text (i * s.stepMillions.toNat) ++ "M.csv" := by
  rw [checkpointName, hValid.toNat_mark hLast]

/- Checkpoints of the same name are the same. -/
theorem checkpointName_inj
    (hValid : s.IsValid)
    (hI : i ≤ s.checkpoints.toNat)
    (hJ : j ≤ s.checkpoints.toNat) :
    s.checkpointName i = s.checkpointName j ↔ i = j := by
  rw [hValid.checkpointName_eq hI, hValid.checkpointName_eq hJ,
    List.append_left_inj, Decimal.text_inj,
    Nat.mul_left_inj (Nat.ne_of_gt hValid.some_step)]

end IsValid

------------------------------------------------------------
-- Paths
------------------------------------------------------------

/- Checkpoints of the same path are the same. -/
theorem IsValid.checkpointPath_inj
    {s : Settings}
    (hValid : s.IsValid)
    (dir : Path)
    {i j : Nat}
    (hI : i ≤ s.checkpoints.toNat)
    (hJ : j ≤ s.checkpoints.toNat) :
    s.checkpointPath dir i = s.checkpointPath dir j ↔ i = j := by
  rw [checkpointPath, checkpointPath,
    Path.join_inj dir (isName_checkpointName s i)
      (isName_checkpointName s j),
    Utf8.encode_inj, hValid.checkpointName_inj hI hJ]

/- No two checkpoints of a folder have the same path. -/
theorem IsValid.nodup_checkpointPaths
    {s : Settings}
    (hValid : s.IsValid)
    (dir : Path) :
    (s.indices.map (s.checkpointPath dir)).Nodup := by
  apply List.Nodup.map_on _ s.nodup_indices
  intro i hI j hJ hEq
  have hI' := ((s.mem_indices_iff i).mp hI).2
  have hJ' := ((s.mem_indices_iff j).mp hJ).2
  exact (hValid.checkpointPath_inj dir hI' hJ').mp hEq

------------------------------------------------------------
-- Validation And Marks
------------------------------------------------------------

/-
  A check accepts settings exactly if they are valid. Then
  the product of words that names a checkpoint does not
  exceed a word, so the name tells the exact mark, and other
  checkpoints have other names and other paths; in every
  folder each of them is compared once. If settings are
  refused for their marks, some mark exceeds a word.
-/
theorem validate_keeps_marks_apart (s : Settings) :
    (s.validate = .ok () ↔
      1 ≤ s.checkpoints.toNat ∧
        1 ≤ s.stepMillions.toNat ∧
        s.checkpoints.toNat * s.stepMillions.toNat <
          UInt64.size ∧
        s.baseline ≠ [] ∧
        '/' ∉ s.baseline) ∧
    (s.validate = .ok () →
      (∀ i, 1 ≤ i → i ≤ s.checkpoints.toNat →
        i * s.stepMillions.toNat < UInt64.size ∧
        (s.mark i).toNat = i * s.stepMillions.toNat ∧
        s.checkpointName i =
          Decimal.text (i * s.stepMillions.toNat) ++
            "M.csv") ∧
      (∀ i j, 1 ≤ i → i ≤ s.checkpoints.toNat →
        1 ≤ j → j ≤ s.checkpoints.toNat → i ≠ j →
          s.checkpointName i ≠ s.checkpointName j ∧
          ∀ dir : Path,
            s.checkpointPath dir i ≠
              s.checkpointPath dir j) ∧
      ∀ (b : Baseline) (d : Disk) (dir : Path),
        let compared := (outcomes s b d dir).map Outcome.path
        compared.length = s.checkpoints.toNat ∧
        ∀ i, 1 ≤ i → i ≤ s.checkpoints.toNat →
          compared.count (s.checkpointPath dir i) = 1) ∧
    ∀ checkpoints step,
      s.validate =
          .error (.marksTooLarge checkpoints step) →
        ∃ i, 1 ≤ i ∧ i ≤ s.checkpoints.toNat ∧
          UInt64.size ≤ i * s.stepMillions.toNat := by
  refine ⟨?_, ?_, ?_⟩
  · rw [validate_eq_ok_iff]
    constructor
    · intro hValid
      exact
        ⟨hValid.some_checkpoint, hValid.some_step,
          hValid.last_mark, hValid.some_name,
          hValid.no_slash⟩
    · rintro ⟨hCheckpoint, hStep, hMark, hName, hSlash⟩
      exact ⟨hCheckpoint, hStep, hMark, hName, hSlash⟩
  · intro hOk
    have hValid := s.validate_eq_ok_iff.mp hOk
    refine ⟨?_, ?_, ?_⟩
    · intro i _ hI
      exact
        ⟨hValid.mark_lt hI, hValid.toNat_mark hI,
          hValid.checkpointName_eq hI⟩
    · intro i j _ hI _ hJ hNe
      refine ⟨?_, ?_⟩
      · rwa [ne_eq, hValid.checkpointName_inj hI hJ]
      · intro dir
        rwa [ne_eq, hValid.checkpointPath_inj dir hI hJ]
    · intro b d dir compared
      have hCompared :
          compared = s.indices.map (s.checkpointPath dir) := by
        simp only [compared, outcomes, List.map_map]
        rfl
      refine ⟨?_, ?_⟩
      · rw [hCompared, List.length_map, indices,
          List.length_range']
      · intro i hOne hI
        rw [hCompared]
        apply List.count_eq_one_of_mem
          (hValid.nodup_checkpointPaths dir)
        exact List.mem_map_of_mem
          ((s.mem_indices_iff i).mpr ⟨hOne, hI⟩)
  · intro checkpoints step hLarge
    rcases of_validate_eq_marksTooLarge hLarge with
      ⟨hCheckpoint, hMark⟩
    exact ⟨_, hCheckpoint, Nat.le_refl _, hMark⟩

/- As many checkpoints as there can be, up to the last mark. -/
def fullSettings : Settings :=
  { checkpoints := 4294967295, stepMillions := 4294967297 }

/- The largest counter is a mark, and the next step too far. -/
theorem validate_keeps_marks_apart_at_limit :
    fullSettings.validate = .ok () ∧
    fullSettings.checkpointName 4294967295 =
      "18446744073709551615M.csv" ∧
    { fullSettings with
      stepMillions := 4294967298 }.validate =
        .error (.marksTooLarge 4294967295 4294967298) ∧
    ∃ i ≤ 4294967295, UInt64.size ≤ i * 4294967298 := by
  have hOk : fullSettings.validate = .ok () := rfl
  have hLarge :
      { fullSettings with
        stepMillions := 4294967298 }.validate =
          .error (.marksTooLarge 4294967295 4294967298) := rfl
  have hAccepted :=
    (validate_keeps_marks_apart fullSettings).2.1 hOk
  have hRefused :=
    (validate_keeps_marks_apart
      { fullSettings with stepMillions := 4294967298 }).2.2
  have hLast :=
    (hAccepted.1 4294967295 (by decide) (by decide)).2.2
  rcases hRefused _ _ hLarge with ⟨i, -, hI, hMark⟩
  exact ⟨hOk, hLast, hLarge, i, hI, hMark⟩

end Settings

end PageHeat
