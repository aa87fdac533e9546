import PageHeat.Log.Baseline
import PageHeat.Proofs.Log.Cutting
import PageHeat.Proofs.Log.Reading
import PageHeat.Proofs.Text.Trim

/-
  What a baseline knows.

  A baseline knows the tags of the pieces that are read as
  baseline lines, and counts the pieces that are not. What
  a piece is read as depends on its bare line, which is what
  is in front of its line feed: the readers of baselines and
  of checkpoints take a line by its fields, so blanks behind
  it do not matter. Whatever is a record of a checkpoint is
  a baseline line with the same tag.

  Key definitions include:
    * `ReadsByFields`
    * `bareLine`
    * `bareLines`
    * `Baseline.Names`
    * `Baseline.rejects`

  Key lemmas include:
    * `ReadsByFields.append`
    * `lineFeed_notMem_bareLine`
    * `readEntry_bareLine`
    * `readingOf_bareLine`
    * `readBaselineLine_of_comma`
    * `readBaselineLine_of_noComma`
    * `Baseline.ofStream_ofBytes`
    * `Baseline.names_of_record`
    * `Baseline.malformed_of_rejects`
-/

------------------------------------------------------------
-- Lines Read By Fields
------------------------------------------------------------

namespace PageHeat

/- Blanks behind a line do not change its fields. -/
theorem fields_append
    {v : Text}
    (hBlank : v.IsBlank)
    (line : Text) :
    fields (line ++ v) = fields line := by
  have hNone : ',' ∉ v := hBlank.notMem (by decide)
  rcases Text.splitOn_append_of_notMem hNone line with
    ⟨pieces, last, hShort, hLong⟩
  rw [fields, fields, hShort, hLong, List.map_append,
    List.map_append, List.map_singleton, List.map_singleton,
    Text.trim_append hBlank]

/-
  A reader that takes a line by its fields, and finds
  nothing in a blank one.
-/
structure ReadsByFields
    {β : Type}
    (reader : Text → Except LineFault (Option β)) : Prop where
  blank : ∀ line : Text, line.IsBlank → reader line = .ok none
  congr :
    ∀ line other : Text,
      (line.IsBlank ↔ other.IsBlank) →
      fields line = fields other →
      reader line = reader other

/- Baseline lines are taken by their fields. -/
theorem readsByFields_baseline :
    ReadsByFields readBaselineLine where
  blank := fun _ hBlank => if_pos hBlank
  congr := by
    intro line other hBlank hFields
    unfold readBaselineLine
    simp only [hBlank, hFields]

theorem readsByFields_checkpoint :
    ReadsByFields readCheckpointLine where
  blank := fun _ hBlank => if_pos hBlank
  congr := by
    intro line other hBlank hFields
    unfold readCheckpointLine
    simp only [hBlank, hFields]

/- Blanks behind a line do not change what it is read as. -/
theorem ReadsByFields.append
    {β : Type}
    {reader : Text → Except LineFault (Option β)}
    (hReader : ReadsByFields reader)
    {v : Text}
    (hBlank : v.IsBlank)
    (line : Text) :
    reader (line ++ v) = reader line := by
  apply hReader.congr
  · simp only [Text.isBlank_append, hBlank, and_true]
  · exact fields_append hBlank line

------------------------------------------------------------
-- Lines Without Line Feeds
------------------------------------------------------------

/- What is in front of the line feed of a piece, if any. -/
def bareLine (piece : Bytes) : Bytes :=
  if IsComplete piece then piece.dropLast else piece

/- The lines of some bytes, without their line feeds. -/
def bareLines (bytes : Bytes) : List Bytes :=
  (cutLines bytes).map bareLine

/- In front of the line feed of a piece there is none. -/
theorem lineFeed_notMem_bareLine
    {piece bytes : Bytes}
    (hPiece : piece ∈ cutLines bytes) :
    lineFeed ∉ bareLine piece := by
  have hCut := isCutting_cutLines bytes
  have hFront : lineFeed ∉ piece.dropLast :=
    hCut.feed_last piece hPiece
  unfold bareLine
  split
  · exact hFront
  · rename_i hComplete
    have hSome : piece ≠ [] := hCut.ne_nil piece hPiece
    intro hFeed
    rw [← List.dropLast_concat_getLast hSome] at hFeed
    rcases List.mem_append.mp hFeed with hFeed | hFeed
    · exact hFront hFeed
    · apply hComplete
      rw [IsComplete, List.getLast?_eq_some_getLast hSome,
        ← List.mem_singleton.mp hFeed]

theorem decode_append_lineFeed (bytes : Bytes) :
    Utf8.decode (bytes ++ [lineFeed]) =
      (Utf8.decode bytes).map (· ++ ['\n']) := by
  rw [Utf8.decode_append_cons (by decide)]
  cases Utf8.decode bytes with
  | none => rfl
  | some t => rfl

/-
  A reader that does not look at a line feed behind a line
  reads a piece as its bare line.
-/
theorem bind_readPiece_bareLine
    {α : Type}
    {reader : Text → Except LineFault α}
    (hReader : ∀ t, reader (t ++ ['\n']) = reader t)
    (piece : Bytes) :
    (readPiece (bareLine piece)).bind reader =
      (readPiece piece).bind reader := by
  unfold bareLine
  split
  · rename_i hComplete
    rcases List.getLast?_eq_some_iff.mp hComplete with
      ⟨bytes, rfl⟩
    rw [List.dropLast_concat]
    unfold readPiece
    rw [decode_append_lineFeed]
    cases Utf8.decode bytes with
    | none => rfl
    | some t => exact (hReader t).symm
  · rfl

theorem readEntry_bareLine (piece : Bytes) :
    Baseline.readEntry (readPiece (bareLine piece)) =
      Baseline.readEntry (readPiece piece) :=
  bind_readPiece_bareLine
    (readsByFields_baseline.append (by decide)) piece

theorem readingOf_bareLine (piece : Bytes) :
    readingOf (bareLine piece) = readingOf piece :=
  congrArg Reading.ofResult
    (bind_readPiece_bareLine
      (readsByFields_checkpoint.append (by decide)) piece)

------------------------------------------------------------
-- Baseline Lines
------------------------------------------------------------

/- A line with a comma names a page and a tag. -/
theorem readBaselineLine_of_comma
    {line : Text}
    (hComma : 1 ≤ line.count ',') :
    readBaselineLine line =
      .ok (some ⟨fieldAt 0 line, fieldAt 1 line⟩) := by
  have hText : ¬ line.IsBlank := by
    intro hBlank
    rw [count_comma_of_isBlank hBlank] at hComma
    exact absurd hComma (by decide)
  have h₀ := getElem?_fields line 0
  have h₁ := getElem?_fields line 1
  rw [if_pos (Nat.zero_le _)] at h₀
  rw [if_pos hComma] at h₁
  rw [readBaselineLine, if_neg hText]
  match hFields : fields line with
  | [] => simp [hFields] at h₀
  | [_] => simp [hFields] at h₁
  | a :: b :: others =>
      simp only [hFields, List.getElem?_cons_zero,
        List.getElem?_cons_succ, Option.some.injEq]
        at h₀ h₁
      rw [h₀, h₁]

theorem readBaselineLine_of_noComma
    {line : Text}
    (hComma : ',' ∉ line) :
    readBaselineLine line =
      if line.IsBlank then .ok none
      else .error (.tooFewFields 2 1) := by
  rw [readBaselineLine, fields_of_notMem hComma]

namespace Baseline

/- A line that is read as a baseline line with a tag. -/
def Names
    (line : Except LineFault Text)
    (tag : Text) : Prop :=
  ∃ pageId, readEntry line = .ok (some ⟨pageId, tag⟩)

/- Whether a line is no baseline line. -/
def rejects (line : Except LineFault Text) : Bool :=
  !(readEntry line).isOk

/- A record of a checkpoint names its tag to a baseline. -/
theorem names_of_record
    {piece : Bytes}
    {tag : Text}
    {count : Nat}
    (hRecord : readingOf piece = .record tag count) :
    Names (readPiece piece) tag := by
  have hMeans := (means_iff piece _).mpr hRecord.symm
  cases hMeans with
  | record line n hCommas hField hLe =>
      rw [readPiece_encode]
      exact ⟨fieldAt 0 line, readBaselineLine_of_comma
        (Nat.le_trans (by decide) hCommas)⟩

/- What a baseline rejects, a comparison rejects as well. -/
theorem malformed_of_rejects
    {piece : Bytes}
    (hRejects : rejects (readPiece piece) = true) :
    readingOf piece = .malformed := by
  rcases exists_means piece with ⟨reading, hMeans⟩
  rw [readingOf_eq_of_means hMeans]
  cases hMeans with
  | noText piece hNone => rfl
  | fewFields line hText hCommas => rfl
  | noCount line hCommas hField => rfl
  | blank line hBlank =>
      have hEntry : readBaselineLine line = .ok none :=
        if_pos hBlank
      rw [readPiece_encode, rejects, readEntry, Except.bind,
        hEntry] at hRejects
      cases hRejects
  | record line n hCommas hField hLe =>
      have hEntry := readBaselineLine_of_comma
        (Nat.le_trans (by decide) hCommas)
      rw [readPiece_encode, rejects, readEntry, Except.bind,
        hEntry] at hRejects
      cases hRejects

------------------------------------------------------------
-- Reading A Baseline
------------------------------------------------------------

/- A line adds the tag that it names. -/
theorem knows_absorb
    (b : Baseline)
    (line : Except LineFault Text)
    (tag : Text) :
    (b.absorb line).Knows tag ↔
      b.Knows tag ∨ Names line tag := by
  unfold absorb Names
  split
  · rename_i entry hEntry
    rcases entry with ⟨pageId, other⟩
    simp only [learn, Knows, List.mem_insert_iff, hEntry,
      Except.ok.injEq, Option.some.injEq,
      BaselineEntry.mk.injEq, exists_eq_left']
    rw [or_comm, eq_comm]
  · rename_i hEntry
    simp [hEntry]
  · rename_i fault hEntry
    simp [hEntry, Knows]

/- A line is counted as malformed if it is rejected. -/
theorem malformed_absorb
    (b : Baseline)
    (line : Except LineFault Text) :
    (b.absorb line).malformed =
      b.malformed + if rejects line then 1 else 0 := by
  unfold absorb rejects
  split
  · rename_i entry hEntry
    rw [hEntry]
    rfl
  · rename_i hEntry
    rw [hEntry]
    rfl
  · rename_i fault hEntry
    rw [hEntry]
    rfl

/- Lines add the tags that they name. -/
theorem knows_foldl_absorb
    (lines : List (Except LineFault Text))
    (b : Baseline)
    (tag : Text) :
    (lines.foldl absorb b).Knows tag ↔
      b.Knows tag ∨ ∃ line ∈ lines, Names line tag := by
  induction lines generalizing b with
  | nil => simp
  | cons line lines ih =>
      rw [List.foldl_cons, ih, knows_absorb, or_assoc]
      simp

/- The malformed lines are those that are rejected. -/
theorem malformed_foldl_absorb
    (lines : List (Except LineFault Text))
    (b : Baseline) :
    (lines.foldl absorb b).malformed =
      b.malformed + lines.countP rejects := by
  induction lines generalizing b with
  | nil => rfl
  | cons line lines ih =>
      rw [List.foldl_cons, ih, malformed_absorb,
        List.countP_cons, Nat.add_assoc]
      omega

/-
  A baseline knows the tags that its pieces name, and counts
  the pieces that it rejects.
-/
theorem ofStream_ofBytes (bytes : Bytes) :
    ∃ b, ofStream (Stream.ofBytes bytes) = .ok b ∧
      (∀ tag, b.Knows tag ↔
        ∃ piece ∈ cutLines bytes,
          Names (readPiece piece) tag) ∧
      b.malformed =
        (cutLines bytes).countP
          fun piece => rejects (readPiece piece) := by
  refine ⟨_, rfl, ?_, ?_⟩
  · intro tag
    have hLines :
        (Stream.ofBytes bytes).lines =
          (cutLines bytes).map readPiece := rfl
    have hEmpty : ¬ Knows { } tag := List.not_mem_nil
    rw [knows_foldl_absorb, hLines, or_iff_right hEmpty]
    constructor
    · rintro ⟨line, hMem, hNames⟩
      rcases List.mem_map.mp hMem with ⟨piece, hPiece, rfl⟩
      exact ⟨piece, hPiece, hNames⟩
    · rintro ⟨piece, hPiece, hNames⟩
      exact ⟨_, List.mem_map_of_mem hPiece, hNames⟩
  · rw [malformed_foldl_absorb]
    exact (Nat.zero_add _).trans List.countP_map

/- A tag that a bare line names is named by every such line. -/
theorem Names.of_bareLine
    {piece other : Bytes}
    {tag : Text}
    (hNames : Names (readPiece piece) tag)
    (hSame : bareLine other = bareLine piece) :
    Names (readPiece other) tag := by
  unfold Names at hNames ⊢
  rwa [← readEntry_bareLine, hSame, readEntry_bareLine]

end Baseline

end PageHeat
