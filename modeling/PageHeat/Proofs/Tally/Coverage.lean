import Mathlib.Data.List.Basic
import PageHeat.Proofs.Log.Baseline
import PageHeat.Proofs.Report.Totals
import PageHeat.Proofs.Tally.Comparison

/-
  Baselines that know more.

  The more tags a baseline knows, the fewer records of a log
  are cold, whether or not a counter is full. Nothing else
  of a comparison depends on the baseline, and of its tags
  only those count that the log reports.

  Key lemmas include:
    * `Comparison.coldReadings_sublist`
    * `Comparison.exact_congr`
    * `Baseline.exists_ofStream_append`
    * `Comparison.ofStream_of_more_tags`
-/

------------------------------------------------------------
-- Smaller Numbers
------------------------------------------------------------

namespace PageHeat

theorem Count.clip_mono
    {m n : Nat}
    (hLe : m ≤ n) :
    Count.clip m ≤ Count.clip n := by
  rw [UInt64.le_iff_toNat_le, Count.toNat_clip,
    Count.toNat_clip]
  omega

namespace Comparison

variable {b₁ b₂ : Baseline}

------------------------------------------------------------
-- Cold Readings
------------------------------------------------------------

/- What is cold for the larger baseline is so for both. -/
theorem isCold_of_more_tags
    (hMore : ∀ tag, b₁.Knows tag → b₂.Knows tag)
    {reading : Reading}
    (hCold : reading.IsCold b₂) :
    reading.IsCold b₁ := by
  cases reading with
  | blank => exact hCold
  | malformed => exact hCold
  | record tag n =>
      intro hKnows
      exact hCold (hMore tag hKnows)

/- With more tags, some of the readings stay cold. -/
theorem coldReadings_sublist
    (hMore : ∀ tag, b₁.Knows tag → b₂.Knows tag)
    (readings : List Reading) :
    (readings.filter (Reading.IsCold b₂)).Sublist
      (readings.filter (Reading.IsCold b₁)) := by
  apply List.monotone_filter_right
  intro reading hCold
  rw [decide_eq_true_iff] at hCold ⊢
  exact isCold_of_more_tags hMore hCold

/- With more tags, the cold counters are no larger. -/
theorem clip_exact_of_more_tags
    (hMore : ∀ tag, b₁.Knows tag → b₂.Knows tag)
    (readings : List Reading) :
    (exact b₂ readings).clip.coldPages ≤
        (exact b₁ readings).clip.coldPages ∧
      (exact b₂ readings).clip.coldAccesses ≤
        (exact b₁ readings).clip.coldAccesses := by
  have hCold := coldReadings_sublist hMore readings
  constructor
  · exact Count.clip_mono hCold.length_le
  · apply Count.clip_mono
    exact total_le_of_sublist (hCold.map Reading.count)

/- Baselines that agree on what is reported count the same. -/
theorem exact_congr
    {readings : List Reading}
    (hAgree :
      ∀ tag n, Reading.record tag n ∈ readings →
        (b₁.Knows tag ↔ b₂.Knows tag)) :
    exact b₁ readings = exact b₂ readings := by
  have hCold :
      readings.filter (Reading.IsCold b₁) =
        readings.filter (Reading.IsCold b₂) := by
    apply List.filter_congr
    intro reading hMem
    rw [decide_eq_decide]
    cases reading with
    | blank => exact Iff.rfl
    | malformed => exact Iff.rfl
    | record tag n => exact not_congr (hAgree tag n hMem)
  rw [exact, exact, hCold]

end Comparison

------------------------------------------------------------
-- Longer Baselines
------------------------------------------------------------

/-
  What is appended behind a line end takes no tag away from
  a baseline.
-/
theorem Baseline.exists_ofStream_append
    {known : Bytes}
    (hEnds : EndsLine known)
    (more : Bytes) :
    ∃ b₁ b₂,
      ofStream (Stream.ofBytes known) = .ok b₁ ∧
      ofStream (Stream.ofBytes (known ++ more)) = .ok b₂ ∧
      ∀ tag, b₁.Knows tag → b₂.Knows tag := by
  rcases ofStream_ofBytes known with
    ⟨b₁, hRead₁, hKnows₁, -⟩
  rcases ofStream_ofBytes (known ++ more) with
    ⟨b₂, hRead₂, hKnows₂, -⟩
  refine ⟨b₁, b₂, hRead₁, hRead₂, ?_⟩
  intro tag hKnows
  rw [hKnows₁] at hKnows
  rw [hKnows₂, cutLines_append hEnds]
  rcases hKnows with ⟨piece, hMem, hNames⟩
  exact ⟨piece, List.mem_append_left _ hMem, hNames⟩

------------------------------------------------------------
-- Comparisons With More Tags
------------------------------------------------------------

namespace Comparison

/-
  For any two baselines, a stream that fails gives its fault
  with both, and a stream that ends gives the same total and
  the same malformed lines with both. If one baseline has
  all tags of the other one, its cold counters are at most
  as large. If they agree on the tags of the records of the
  log, the comparisons are the same.

  A baseline gains tags, if anything, when something is
  appended to its log behind a line end.
-/
theorem ofStream_of_more_tags :
    (∀ (b₁ b₂ : Baseline) (s : Stream),
      (∀ fault, s.failure = some fault →
        ofStream b₁ s = .error fault ∧
          ofStream b₂ s = .error fault) ∧
      (s.failure = none →
        ∃ c₁ c₂,
          ofStream b₁ s = .ok c₁ ∧
          ofStream b₂ s = .ok c₂ ∧
          c₁.tally.totalAccesses = c₂.tally.totalAccesses ∧
          c₁.malformed = c₂.malformed ∧
          ((∀ tag, b₁.Knows tag → b₂.Knows tag) →
            c₂.tally.coldPages ≤ c₁.tally.coldPages ∧
              c₂.tally.coldAccesses ≤
                c₁.tally.coldAccesses) ∧
          ((∀ tag n piece,
              piece ∈ cutLines s.bytes →
              Means piece (.record tag n) →
              (b₁.Knows tag ↔ b₂.Knows tag)) →
            c₁ = c₂))) ∧
    ∀ known more : Bytes,
      EndsLine known →
      ∃ b₁ b₂,
        Baseline.ofStream (Stream.ofBytes known) = .ok b₁ ∧
        Baseline.ofStream (Stream.ofBytes (known ++ more)) =
          .ok b₂ ∧
        ∀ bytes, ∃ c₁ c₂,
          ofStream b₁ (Stream.ofBytes bytes) = .ok c₁ ∧
          ofStream b₂ (Stream.ofBytes bytes) = .ok c₂ ∧
          c₂.tally.coldPages ≤ c₁.tally.coldPages ∧
          c₂.tally.coldAccesses ≤ c₁.tally.coldAccesses := by
  constructor
  · intro b₁ b₂ s
    rcases s with ⟨bytes, failure⟩
    constructor
    · rintro fault rfl
      exact ⟨rfl, rfl⟩
    · rintro rfl
      refine
        ⟨_, _, ofStream_eq_clip_exact b₁ bytes,
          ofStream_eq_clip_exact b₂ bytes, rfl, rfl, ?_, ?_⟩
      · intro hMore
        exact clip_exact_of_more_tags hMore _
      · intro hAgree
        rw [exact_congr]
        intro tag n hMem
        rcases List.mem_map.mp hMem with
          ⟨piece, hPiece, hReading⟩
        exact hAgree tag n piece hPiece
          ((means_iff piece _).mpr hReading.symm)
  · intro known more hEnds
    rcases Baseline.exists_ofStream_append hEnds more with
      ⟨b₁, b₂, hRead₁, hRead₂, hMore⟩
    refine ⟨b₁, b₂, hRead₁, hRead₂, ?_⟩
    intro bytes
    have hCold := clip_exact_of_more_tags hMore
      ((cutLines bytes).map readingOf)
    exact
      ⟨_, _, ofStream_eq_clip_exact b₁ bytes,
        ofStream_eq_clip_exact b₂ bytes, hCold.1, hCold.2⟩

/-
  A log that fills both cold counters unless the second tag
  is known, and a baseline that is read on.
-/
theorem ofStream_of_more_tags_sample :
    (∃ c₁ c₂,
      ofStream { tags := [['x']] }
          (Stream.ofBytes
            (Utf8.encode
              "p,y,18446744073709551615\nq,y,1\nr,z,2")) =
        .ok c₁ ∧
      ofStream { tags := [['x'], ['y']] }
          (Stream.ofBytes
            (Utf8.encode
              "p,y,18446744073709551615\nq,y,1\nr,z,2")) =
        .ok c₂ ∧
      c₁.tally.totalAccesses = c₂.tally.totalAccesses ∧
      c₂.tally.coldAccesses ≤ c₁.tally.coldAccesses) ∧
    ∃ b₁ b₂,
      Baseline.ofStream
          (Stream.ofBytes (Utf8.encode "p,x\n")) =
        .ok b₁ ∧
      Baseline.ofStream
          (Stream.ofBytes
            (Utf8.encode "p,x\n" ++ Utf8.encode "q")) =
        .ok b₂ := by
  constructor
  · rcases
        (ofStream_of_more_tags.1 { tags := [['x']] }
          { tags := [['x'], ['y']] }
          (Stream.ofBytes
            (Utf8.encode
              "p,y,18446744073709551615\nq,y,1\nr,z,2"))).2
          rfl with
      ⟨c₁, c₂, hRead₁, hRead₂, hTotal, -, hCold, -⟩
    refine ⟨c₁, c₂, hRead₁, hRead₂, hTotal, (hCold ?_).2⟩
    intro tag hKnows
    exact List.mem_append_left [['y']] hKnows
  · rcases
        ofStream_of_more_tags.2 (Utf8.encode "p,x\n")
          (Utf8.encode "q") (by decide +kernel) with
      ⟨b₁, b₂, hRead₁, hRead₂, -⟩
    exact ⟨b₁, b₂, hRead₁, hRead₂⟩

end Comparison

end PageHeat
