import PageHeat.Log.Stream
import PageHeat.Proofs.Log.Line
import PageHeat.Proofs.Text.Utf8

/-
  What the pieces of a checkpoint log say.

  A piece is blank, malformed, or a record of a tag and a
  count. `Means` says which, from the octets of the piece
  alone; every piece has one meaning, and it is the one
  that the readers find.

  Key definitions include:
    * `Reading`
    * `Means`
    * `readingOf`

  Key lemmas include:
    * `means_iff`
-/

------------------------------------------------------------
-- Readings
------------------------------------------------------------

namespace PageHeat

/- What one piece of a checkpoint log can say. -/
inductive Reading where
  | blank
  | malformed
  | record (tag : Text) (count : Nat)
  deriving Repr, DecidableEq

/-
  What a piece says. It is malformed if it encodes no text,
  or a text that is not blank and has fewer than three
  fields or a third field that is no numeral within the
  limit.
-/
inductive Means : Bytes → Reading → Prop
  | noText
      (piece : Bytes)
      (hNone : ∀ line, Utf8.encode line ≠ piece) :
      Means piece .malformed
  | blank
      (line : Text)
      (hBlank : line.IsBlank) :
      Means (Utf8.encode line) .blank
  | fewFields
      (line : Text)
      (hText : ¬ line.IsBlank)
      (hCommas : line.count ',' < 2) :
      Means (Utf8.encode line) .malformed
  | noCount
      (line : Text)
      (hCommas : 2 ≤ line.count ',')
      (hField :
        ∀ n ≤ Count.limit,
          ¬ Decimal.IsNumeral (fieldAt 2 line) n) :
      Means (Utf8.encode line) .malformed
  | record
      (line : Text)
      (n : Nat)
      (hCommas : 2 ≤ line.count ',')
      (hField : Decimal.IsNumeral (fieldAt 2 line) n)
      (hLe : n ≤ Count.limit) :
      Means (Utf8.encode line) (.record (fieldAt 1 line) n)

/- What the reader of checkpoint lines makes of a line. -/
def Reading.ofResult :
    Except LineFault (Option AccessRecord) → Reading
  | .ok (some r) => .record r.tag r.count.toNat
  | .ok none => .blank
  | .error _ => .malformed

/- What the readers make of a piece. -/
def readingOf (piece : Bytes) : Reading :=
  .ofResult ((readPiece piece).bind readCheckpointLine)

------------------------------------------------------------
-- Agreement
------------------------------------------------------------

theorem readPiece_encode (line : Text) :
    readPiece (Utf8.encode line) = .ok line := by
  rw [readPiece, Utf8.decode_encode]

theorem readingOf_encode (line : Text) :
    readingOf (Utf8.encode line) =
      .ofResult (readCheckpointLine line) := by
  rw [readingOf, readPiece_encode]
  rfl

/- The readers find what a piece says. -/
theorem readingOf_eq_of_means
    {piece : Bytes}
    {reading : Reading}
    (hMeans : Means piece reading) :
    readingOf piece = reading := by
  cases hMeans with
  | noText piece hNone =>
      rw [readingOf, readPiece,
        (Utf8.decode_eq_none_iff piece).mpr hNone]
      rfl
  | blank line hBlank =>
      rw [readingOf_encode,
        readCheckpointLine_of_isBlank hBlank]
      rfl
  | fewFields line hText hCommas =>
      rw [readingOf_encode,
        readCheckpointLine_of_fewFields hText hCommas]
      rfl
  | noCount line hCommas hField =>
      rw [readingOf_encode,
        readCheckpointLine_of_noCount hCommas
          ((readCount?_eq_none_iff _).mpr hField)]
      rfl
  | record line n hCommas hField hLe =>
      have hCount :
          readCount? (fieldAt 2 line) =
            some (UInt64.ofNat n) := by
        rw [readCount?_eq_some_iff, Count.toNat_ofNat hLe]
        exact hField
      rw [readingOf_encode,
        readCheckpointLine_of_count hCommas hCount,
        Reading.ofResult, Count.toNat_ofNat hLe]

/- Every piece says something. -/
theorem exists_means (piece : Bytes) :
    ∃ reading, Means piece reading := by
  by_cases hNone : ∀ line, Utf8.encode line ≠ piece
  · exact ⟨.malformed, .noText piece hNone⟩
  · simp only [ne_eq, Classical.not_forall,
      Classical.not_not] at hNone
    rcases hNone with ⟨line, rfl⟩
    by_cases hBlank : line.IsBlank
    · exact ⟨.blank, .blank line hBlank⟩
    · by_cases hCommas : 2 ≤ line.count ','
      · by_cases hField :
            ∀ n ≤ Count.limit,
              ¬ Decimal.IsNumeral (fieldAt 2 line) n
        · exact ⟨.malformed, .noCount line hCommas hField⟩
        · simp only [Classical.not_forall,
            Classical.not_not] at hField
          rcases hField with ⟨n, hLe, hNumeral⟩
          exact
            ⟨.record (fieldAt 1 line) n,
              .record line n hCommas hNumeral hLe⟩
      · exact
          ⟨.malformed,
            .fewFields line hBlank
              (Nat.lt_of_not_le hCommas)⟩

/- A piece says exactly what the readers find. -/
theorem means_iff
    (piece : Bytes)
    (reading : Reading) :
    Means piece reading ↔ reading = readingOf piece := by
  constructor
  · intro hMeans
    exact (readingOf_eq_of_means hMeans).symm
  · rintro rfl
    rcases exists_means piece with ⟨reading, hMeans⟩
    rwa [readingOf_eq_of_means hMeans]

end PageHeat
