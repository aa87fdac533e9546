import PageHeat.Proofs.Log.Cutting
import PageHeat.Proofs.Log.Reading
import PageHeat.Proofs.Tally.Saturation
import PageHeat.Report.Basic

/-
  What a comparison counts.

  A comparison takes the readings of the pieces of a log
  one by one. Its counters show the exact sums over all
  readings, clipped once in the end, and the number of
  malformed pieces is exact.

  Key definitions include:
    * `Reading.count`
    * `Reading.IsCold`
    * `Comparison.take`
    * `Comparison.exact`

  Key lemmas include:
    * `Comparison.absorb_readPiece`
    * `Comparison.ofStream_ofBytes`
    * `Comparison.ofStream_clips_exact_sums`
-/

------------------------------------------------------------
-- Readings Against A Baseline
------------------------------------------------------------

namespace PageHeat

namespace Reading

/- The accesses that a reading reports. -/
def count : Reading → Nat
  | .record _ n => n
  | _ => 0

/- A record of a tag that the baseline does not know. -/
def IsCold (b : Baseline) : Reading → Prop
  | .record tag _ => ¬ b.Knows tag
  | _ => False

instance (b : Baseline) : DecidablePred (IsCold b)
  | .record tag _ =>
      inferInstanceAs (Decidable (¬ b.Knows tag))
  | .blank => inferInstanceAs (Decidable False)
  | .malformed => inferInstanceAs (Decidable False)

end Reading

namespace Comparison

/- Take the next reading into account. -/
def take
    (b : Baseline)
    (c : Comparison) : Reading → Comparison
  | .blank => c
  | .malformed => { c with malformed := c.malformed + 1 }
  | .record tag n =>
      { c with
        tally :=
          c.tally.record (!decide (b.Knows tag))
            (Count.clip n) }

/- A line counts by its reading alone. -/
theorem absorb_readPiece
    (b : Baseline)
    (c : Comparison)
    (piece : Bytes) :
    absorb b c (readPiece piece) =
      c.take b (readingOf piece) := by
  rw [absorb, readRecord, readingOf]
  cases (readPiece piece).bind readCheckpointLine with
  | error fault => rfl
  | ok record? =>
      cases record? with
      | none => rfl
      | some r =>
          simp only [Reading.ofResult, take,
            Count.clip_toNat]

/- A stream that ends is compared by its readings. -/
theorem ofStream_ofBytes
    (b : Baseline)
    (bytes : Bytes) :
    ofStream b (Stream.ofBytes bytes) =
      .ok
        (((cutLines bytes).map readingOf).foldl
          (take b) { }) := by
  have hFold (pieces : List Bytes) (c : Comparison) :
      (pieces.map readPiece).foldl (absorb b) c =
        (pieces.map readingOf).foldl (take b) c := by
    induction pieces generalizing c with
    | nil => rfl
    | cons piece pieces ih =>
        simp only [List.map_cons, List.foldl_cons]
        rw [absorb_readPiece, ih]
  exact congrArg Except.ok (hFold (cutLines bytes) { })

------------------------------------------------------------
-- Exact Sums
------------------------------------------------------------

/- What readings amount to, without a limit. -/
def exact
    (b : Baseline)
    (readings : List Reading) : ExactTally where
  coldPages := (readings.filter (Reading.IsCold b)).length
  coldAccesses :=
    total
      ((readings.filter (Reading.IsCold b)).map Reading.count)
  totalAccesses := total (readings.map Reading.count)

/- What one more reading adds to exact sums. -/
def addExact
    (b : Baseline)
    (reading : Reading)
    (e : ExactTally) : ExactTally where
  coldPages :=
    e.coldPages + if reading.IsCold b then 1 else 0
  coldAccesses :=
    e.coldAccesses +
      if reading.IsCold b then reading.count else 0
  totalAccesses := e.totalAccesses + reading.count

/- A reading adds its exact part to a clipped tally. -/
theorem take_clip
    (b : Baseline)
    (e : ExactTally)
    (malformed : Nat)
    (reading : Reading) :
    take b ⟨e.clip, malformed⟩ reading =
      ⟨(addExact b reading e).clip,
        malformed + [reading].count .malformed⟩ := by
  cases reading with
  | blank => rfl
  | malformed => rfl
  | record tag n =>
      rw [take, ExactTally.record_clip]
      by_cases hKnows : b.Knows tag
      · simp [ExactTally.record, addExact, Reading.IsCold,
          Reading.count, hKnows]
      · simp [ExactTally.record, addExact, Reading.IsCold,
          Reading.count, hKnows]

/- Readings add up to their exact sums, clipped once. -/
theorem foldl_take_clip
    (b : Baseline)
    (readings : List Reading)
    (e : ExactTally)
    (malformed : Nat) :
    readings.foldl (take b) ⟨e.clip, malformed⟩ =
      ⟨ExactTally.clip
          { coldPages :=
              e.coldPages + (exact b readings).coldPages
            coldAccesses :=
              e.coldAccesses + (exact b readings).coldAccesses
            totalAccesses :=
              e.totalAccesses +
                (exact b readings).totalAccesses },
        malformed + readings.count .malformed⟩ := by
  induction readings generalizing e malformed with
  | nil => rfl
  | cons reading readings ih =>
      have hCount :
          (reading :: readings).count .malformed =
            [reading].count .malformed +
              readings.count .malformed := by
        rw [← List.singleton_append, List.count_append]
      rw [List.foldl_cons, take_clip, ih, hCount,
        Nat.add_assoc]
      by_cases hCold : reading.IsCold b
      · simp [exact, addExact, hCold, total, Nat.add_assoc,
          Nat.add_comm, Nat.add_left_comm]
      · simp [exact, addExact, hCold, total, Nat.add_assoc]

/-
  The counters of a comparison show the exact sums over the
  pieces of the log, clipped at the largest counter.
-/
theorem ofStream_eq_clip_exact
    (b : Baseline)
    (bytes : Bytes) :
    ofStream b (Stream.ofBytes bytes) =
      .ok
        ⟨(exact b ((cutLines bytes).map readingOf)).clip,
          ((cutLines bytes).map readingOf).count
            .malformed⟩ := by
  have hClip : ({ } : Comparison) =
      ⟨ExactTally.clip { }, 0⟩ := by
    decide
  rw [ofStream_ofBytes, hClip, foldl_take_clip]
  simp only [Nat.zero_add]

------------------------------------------------------------
-- The Whole Comparison
------------------------------------------------------------

/-
  Comparing a stream that ends gives, whatever its bytes:
  the sum of all counts, the number of cold records and the
  sum of their counts, each clipped at the largest counter,
  and the exact number of malformed pieces. The total and
  the malformed pieces are the same for every baseline. A
  stream that fails gives its fault.
-/
theorem ofStream_clips_exact_sums
    (b : Baseline)
    (bytes : Bytes) :
    let readings := (cutLines bytes).map readingOf
    (∀ pieces,
      IsCutting pieces bytes ↔ pieces = cutLines bytes) ∧
    (∀ piece reading,
      Means piece reading ↔ reading = readingOf piece) ∧
    (∃ c,
      ofStream b (Stream.ofBytes bytes) = .ok c ∧
      c.tally.totalAccesses.toNat =
        min Count.limit
          (total (readings.map Reading.count)) ∧
      c.tally.coldPages.toNat =
        min Count.limit
          (readings.filter (Reading.IsCold b)).length ∧
      c.tally.coldAccesses.toNat =
        min Count.limit
          (total
            ((readings.filter (Reading.IsCold b)).map
              Reading.count)) ∧
      c.malformed = readings.count .malformed ∧
      ∀ other : Baseline,
        ∃ c',
          ofStream other (Stream.ofBytes bytes) = .ok c' ∧
          c'.tally.totalAccesses = c.tally.totalAccesses ∧
          c'.malformed = c.malformed) ∧
    ∀ n fault,
      ofStream b (Stream.breakingAt n fault bytes) =
        .error fault := by
  intro readings
  refine
    ⟨fun pieces => isCutting_iff pieces bytes, means_iff,
      ⟨_, ofStream_eq_clip_exact b bytes, ?_, ?_, ?_, rfl,
        ?_⟩,
      fun n fault => rfl⟩
  · exact Count.toNat_clip _
  · exact Count.toNat_clip _
  · exact Count.toNat_clip _
  · intro other
    exact
      ⟨_, ofStream_eq_clip_exact other bytes, rfl, rfl⟩

end Comparison

end PageHeat
