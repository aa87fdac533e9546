import PageHeat.Proofs.Log.Baseline
import PageHeat.Proofs.Tally.Comparison

/-
  Logs whose lines the baseline has seen.

  A tag that a checkpoint reports is a tag that the baseline
  reads from the same line. So a log is never cold against
  a baseline that has all of its lines.

  Key lemmas include:
    * `Comparison.not_isCold_of_line`
    * `Comparison.rejected_le_malformed`
    * `Comparison.ofStream_of_known_lines`
-/

------------------------------------------------------------
-- Warm Readings
------------------------------------------------------------

namespace PageHeat

namespace Comparison

/- A piece with a line of the baseline is not cold. -/
theorem not_isCold_of_line
    {baseline : Baseline}
    {bytes piece : Bytes}
    (hKnows :
      ∀ tag, baseline.Knows tag ↔
        ∃ other ∈ cutLines bytes,
          Baseline.Names (readPiece other) tag)
    (hLine : bareLine piece ∈ bareLines bytes) :
    ¬ (readingOf piece).IsCold baseline := by
  rcases List.mem_map.mp hLine with ⟨other, hMem, hSame⟩
  cases hReading : readingOf piece with
  | blank => exact not_false
  | malformed => exact not_false
  | record tag n =>
      have hNames := Baseline.names_of_record hReading
      exact not_not_intro
        ((hKnows tag).mpr
          ⟨other, hMem, hNames.of_bareLine hSame⟩)

theorem rejected_le_malformed (pieces : List Bytes) :
    pieces.countP
        (fun piece => Baseline.rejects (readPiece piece)) ≤
      (pieces.map readingOf).count .malformed := by
  rw [List.count, List.countP_map]
  apply List.countP_mono_left
  intro piece _ hRejects
  exact beq_iff_eq.mpr (Baseline.malformed_of_rejects hRejects)

/- Without cold readings, nothing is cold. -/
theorem clip_exact_of_warm
    {baseline : Baseline}
    {readings : List Reading}
    (hWarm :
      ∀ reading ∈ readings, ¬ reading.IsCold baseline) :
    (exact baseline readings).clip.coldPages = 0 ∧
      (exact baseline readings).clip.coldAccesses = 0 := by
  have hNone :
      readings.filter (Reading.IsCold baseline) = [] := by
    rw [List.filter_eq_nil_iff]
    intro reading hMem
    rw [decide_eq_true_iff]
    exact hWarm reading hMem
  simp only [exact, ExactTally.clip, hNone]
  decide

------------------------------------------------------------
-- Known Logs
------------------------------------------------------------

/-
  A log is not cold against a baseline that was read from
  bytes with all of its lines, in any order and among any
  others. If these are the bytes of the log itself, the
  baseline has rejected no more lines than the comparison.
-/
theorem ofStream_of_known_lines
    {known bytes : Bytes}
    (hLines :
      ∀ line ∈ bareLines bytes, line ∈ bareLines known) :
    ∃ baseline c,
      Baseline.ofStream (Stream.ofBytes known) =
        .ok baseline ∧
      ofStream baseline (Stream.ofBytes bytes) = .ok c ∧
      c.tally.coldPages = 0 ∧
      c.tally.coldAccesses = 0 ∧
      (known = bytes → baseline.malformed ≤ c.malformed) := by
  rcases Baseline.ofStream_ofBytes known with
    ⟨baseline, hBaseline, hKnows, hMalformed⟩
  have hWarm :
      ∀ reading ∈ (cutLines bytes).map readingOf,
        ¬ reading.IsCold baseline := by
    intro reading hReading
    rcases List.mem_map.mp hReading with ⟨piece, hMem, rfl⟩
    exact not_isCold_of_line hKnows
      (hLines _ (List.mem_map_of_mem hMem))
  have hCold := clip_exact_of_warm hWarm
  refine ⟨baseline, _, hBaseline,
    ofStream_eq_clip_exact baseline bytes, hCold.1, hCold.2, ?_⟩
  rintro rfl
  rw [hMalformed]
  exact rejected_le_malformed _

/- A log with one of the lines, and with a malformed one. -/
theorem ofStream_of_known_lines_sample :
    ∃ baseline c,
      Baseline.ofStream
          (Stream.ofBytes (Utf8.encode "a,x\nb, y ,3\nc\n")) =
        .ok baseline ∧
      ofStream baseline
          (Stream.ofBytes (Utf8.encode "c\nb, y ,3")) =
        .ok c ∧
      c.tally.coldPages = 0 ∧
      c.tally.coldAccesses = 0 ∧
      (Utf8.encode "a,x\nb, y ,3\nc\n" =
          Utf8.encode "c\nb, y ,3" →
        baseline.malformed ≤ c.malformed) :=
  ofStream_of_known_lines (by decide +kernel)

end Comparison

end PageHeat
