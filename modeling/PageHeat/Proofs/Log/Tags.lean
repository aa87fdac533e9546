import Mathlib.Data.Finset.Card
import Mathlib.Data.List.Nodup
import PageHeat.Proofs.Log.Baseline
import PageHeat.Proofs.Log.Decoding
import PageHeat.Proofs.Log.Delivery

/-
  The tags of a baseline log.

  A line has a tag if it is a text with a comma: the tag is
  the field behind the first one. A line without comma is
  malformed unless it is blank, and so is a line that is no
  text. A baseline has exactly the tags of its lines, each
  of them once, and the number of its malformed lines is
  exact. A tag has no comma, no line feed and no blanks
  around it.

  Key definitions include:
    * `HasTag`
    * `IsMalformedEntry`
    * `Text.IsCleanTag`

  Key lemmas include:
    * `hasTag_iff_names`
    * `isMalformedEntry_iff_rejects`
    * `HasTag.isCleanTag`
    * `Baseline.nodup_foldl_absorb`
    * `Baseline.ofSource_collects_tags`
-/

------------------------------------------------------------
-- Lines With A Tag
------------------------------------------------------------

namespace PageHeat

/- A piece of a log whose second field is a given tag. -/
def HasTag (piece : Bytes) (tag : Text) : Prop :=
  ∃ line, Utf8.encode line = piece ∧
    ',' ∈ line ∧ fieldAt 1 line = tag

/-
  A piece of a log that is malformed for a baseline: no text
  at all, or one that is not blank and has no comma.
-/
def IsMalformedEntry (piece : Bytes) : Prop :=
  ∀ line, Utf8.encode line = piece →
    ¬ line.IsBlank ∧ ',' ∉ line

/- The pieces with a tag are those that name it. -/
theorem hasTag_iff_names
    (piece : Bytes)
    (tag : Text) :
    HasTag piece tag ↔ Baseline.Names (readPiece piece) tag := by
  constructor
  · rintro ⟨line, rfl, hComma, rfl⟩
    rw [readPiece_encode]
    exact ⟨fieldAt 0 line, readBaselineLine_of_comma
      (List.count_pos_iff.mpr hComma)⟩
  · rintro ⟨pageId, hEntry⟩
    cases hPiece : readPiece piece with
    | error fault =>
        rw [hPiece] at hEntry
        cases hEntry
    | ok line =>
        rw [hPiece] at hEntry
        have hRead :
            readBaselineLine line =
              .ok (some ⟨pageId, tag⟩) := hEntry
        have hEncode := (Utf8.decode_eq_some_iff _ _).mp
          ((readPiece_eq_ok_iff piece line).mp hPiece)
        by_cases hComma : ',' ∈ line
        · rw [readBaselineLine_of_comma
            (List.count_pos_iff.mpr hComma)] at hRead
          cases hRead
          exact ⟨line, hEncode, hComma, rfl⟩
        · rw [readBaselineLine_of_noComma hComma] at hRead
          split at hRead
          · cases hRead
          · cases hRead

theorem isMalformedEntry_iff_decode (piece : Bytes) :
    IsMalformedEntry piece ↔
      ∀ line ∈ Utf8.decode piece,
        ¬ line.IsBlank ∧ ',' ∉ line := by
  simp only [IsMalformedEntry, Option.mem_def,
    Utf8.decode_eq_some_iff]

instance : DecidablePred IsMalformedEntry := fun piece =>
  decidable_of_iff _ (isMalformedEntry_iff_decode piece).symm

/- The malformed pieces are those that are rejected. -/
theorem isMalformedEntry_iff_rejects (piece : Bytes) :
    IsMalformedEntry piece ↔
      Baseline.rejects (readPiece piece) = true := by
  rw [isMalformedEntry_iff_decode]
  cases hDecode : Utf8.decode piece with
  | none =>
      rw [(readPiece_eq_invalid_iff piece).mpr hDecode]
      refine iff_of_true ?_ rfl
      intro line hLine
      cases hLine
  | some line =>
      rw [(readPiece_eq_ok_iff piece line).mpr hDecode,
        Baseline.rejects, Baseline.readEntry, Except.bind]
      simp only [Option.mem_some_iff, forall_eq']
      by_cases hComma : ',' ∈ line
      · rw [readBaselineLine_of_comma
          (List.count_pos_iff.mpr hComma)]
        simp [hComma, Except.isOk, Except.toBool]
      · rw [readBaselineLine_of_noComma hComma]
        by_cases hBlank : line.IsBlank
        · simp [hBlank, Except.isOk, Except.toBool]
        · simp [hBlank, hComma, Except.isOk, Except.toBool]

------------------------------------------------------------
-- Clean Tags
------------------------------------------------------------

/- A tag without comma, line feed and blanks around it. -/
structure Text.IsCleanTag (tag : Text) : Prop where
  no_comma : ',' ∉ tag
  no_feed : '\n' ∉ tag
  trimmed : tag.IsTrimmed

/- The tags of lines are clean. -/
theorem HasTag.isCleanTag
    {piece bytes : Bytes}
    {tag : Text}
    (hTag : HasTag piece tag)
    (hPiece : piece ∈ cutLines bytes) :
    tag.IsCleanTag := by
  -- the bare line has the same tag and no line feed at all
  have hBare : HasTag (bareLine piece) tag := by
    rw [hasTag_iff_names, Baseline.Names, readEntry_bareLine]
    exact (hasTag_iff_names piece tag).mp hTag
  rcases hBare with ⟨line, hEncode, -, rfl⟩
  refine ⟨?_, ?_, Text.isTrimmed_trim _⟩
  · intro hComma
    exact Text.notMem_pieceAt ',' 1 line
      (Text.mem_of_mem_trim hComma)
  · intro hFeed
    apply lineFeed_notMem_bareLine hPiece
    have hLine : '\n' ∈ line :=
      Text.pieceAt_subset ',' 1 line
        (Text.mem_of_mem_trim hFeed)
    rw [← hEncode]
    exact List.mem_flatMap.mpr ⟨'\n', hLine, by decide⟩

------------------------------------------------------------
-- Collecting Tags
------------------------------------------------------------

namespace Baseline

/- Each tag is kept once. -/
theorem nodup_absorb
    {b : Baseline}
    (hNodup : b.tags.Nodup)
    (line : Except LineFault Text) :
    (b.absorb line).tags.Nodup := by
  unfold absorb
  split
  · exact hNodup.insert
  · exact hNodup
  · exact hNodup

/- So it is after all lines. -/
theorem nodup_foldl_absorb
    (lines : List (Except LineFault Text))
    {b : Baseline}
    (hNodup : b.tags.Nodup) :
    (lines.foldl absorb b).tags.Nodup := by
  induction lines generalizing b with
  | nil => exact hNodup
  | cons line lines ih =>
      rw [List.foldl_cons]
      exact ih (nodup_absorb hNodup line)

/-
  A baseline that is read from a source, whatever its
  buffers, has exactly the tags of the lines, and as many as
  there are different ones; every tag is clean. The lines
  that are malformed for a baseline are counted. A source
  that fails gives no baseline.
-/
theorem ofSource_collects_tags (buffers : List Bytes) :
    (∃ (b : Baseline) (tags : Finset Text),
      ofSource ⟨buffers, none⟩ = .ok b ∧
      ofStream (Stream.ofBytes buffers.flatten) = .ok b ∧
      (∀ tag, tag ∈ tags ↔
        ∃ piece ∈ cutLines buffers.flatten,
          HasTag piece tag) ∧
      (∀ tag, b.Knows tag ↔ tag ∈ tags) ∧
      b.size = tags.card ∧
      (∀ tag ∈ b.tags, tag.IsCleanTag) ∧
      b.malformed =
        (cutLines buffers.flatten).countP
          (decide <| IsMalformedEntry ·)) ∧
    (∀ pieces,
      IsCutting pieces buffers.flatten ↔
        pieces = cutLines buffers.flatten) ∧
    ∀ fault,
      ofSource ⟨buffers, some fault⟩ = .error fault := by
  refine ⟨?_, fun pieces => isCutting_iff pieces _, ?_⟩
  · rcases ofStream_ofBytes buffers.flatten with
      ⟨b, hRead, hKnows, hMalformed⟩
    simp only [← hasTag_iff_names] at hKnows
    have hNodup : b.tags.Nodup := by
      cases hRead
      exact nodup_foldl_absorb _ List.nodup_nil
    refine
      ⟨b, b.tags.toFinset, ?_, hRead, ?_, ?_, ?_, ?_, ?_⟩
    · rw [ofSource_eq]
      exact hRead
    · intro tag
      rw [List.mem_toFinset]
      exact hKnows tag
    · intro tag
      rw [List.mem_toFinset, Knows]
    · exact (List.toFinset_card_of_nodup hNodup).symm
    · intro tag hMem
      rcases (hKnows tag).mp hMem with ⟨piece, hPiece, hTag⟩
      exact hTag.isCleanTag hPiece
    · rw [hMalformed]
      apply List.countP_congr
      intro piece _
      rw [decide_eq_true_iff, isMalformedEntry_iff_rejects]
  · intro fault
    rw [ofSource_eq]
    rfl

/-
  A tag between blanks that two lines share, a blank line, a
  line without comma, and an octet that is no text. Two of
  the lines are divided between buffers.
-/
example :
    ofSource
        ⟨[[112, 44, 32, 120], [13, 10, 10, 113],
          [44, 120, 10, 114, 10, 255, 44, 121]], none⟩ =
      .ok ⟨["x"], 2⟩ := by
  rw [ofSource_eq]
  decide

end Baseline

end PageHeat
