import PageHeat.Proofs.Log.Rendering

/-
  Logs that are written and read back.

  A comparison with a written log counts its records, one
  after the other, and a baseline of it has their tags. It
  does not show how the records were written, and no line
  is skipped.

  Key definitions include:
    * `AccessRecord.entry`
    * `AccessRecord.addTo`
    * `Comparison.addRecord`

  Key lemmas include:
    * `readBaselineLine_of_record`
    * `foldl_of_read`
    * `Baseline.knows_ofTags`
    * `written_log_is_read_back`
-/

------------------------------------------------------------
-- Records As Entries
------------------------------------------------------------

namespace PageHeat

namespace AccessRecord

/- What a baseline line says of the page of a record. -/
def entry (r : AccessRecord) : BaselineEntry :=
  ⟨r.pageId, r.tag⟩

/- Count a record, cold if the baseline lacks its tag. -/
def addTo
    (b : Baseline)
    (t : Tally)
    (r : AccessRecord) : Tally :=
  t.record (!decide (b.Knows r.tag)) r.count

end AccessRecord

/- A checkpoint line is a baseline line of the same page. -/
theorem readBaselineLine_of_record
    {line : Text}
    {found : Option AccessRecord}
    (hRead : readCheckpointLine line = .ok found) :
    readBaselineLine line =
      .ok (found.map AccessRecord.entry) := by
  unfold readCheckpointLine at hRead
  unfold readBaselineLine
  split at hRead
  · rename_i hBlank
    cases hRead
    exact if_pos hBlank
  · rename_i hText
    rw [if_neg hText]
    split at hRead
    · rename_i pageId tag field others hFields
      rw [hFields]
      split at hRead
      · cases hRead
        rfl
      · cases hRead
    · cases hRead

theorem readEntry_of_record
    {line : Except LineFault Text}
    {found : Option AccessRecord}
    (hRead : Comparison.readRecord line = .ok found) :
    Baseline.readEntry line =
      .ok (found.map AccessRecord.entry) := by
  cases line with
  | error fault => cases hRead
  | ok line => exact readBaselineLine_of_record hRead

------------------------------------------------------------
-- Counting What Was Read
------------------------------------------------------------

variable {lines : List (Except LineFault Text)}
variable {read : List (Option AccessRecord)}

/-
  Lines that are read without fault act by their records, if
  each line does and a blank one does nothing.
-/
theorem foldl_of_read
    {σ : Type}
    {absorb : σ → Except LineFault Text → σ}
    {take : σ → AccessRecord → σ}
    (hStep :
      ∀ state line found,
        Comparison.readRecord line = .ok found →
        absorb state line = found.elim state (take state))
    (hRead :
      lines.map Comparison.readRecord = read.map .ok)
    (state : σ) :
    lines.foldl absorb state =
      (read.filterMap id).foldl take state := by
  induction lines generalizing read state with
  | nil =>
      have hNil := List.map_eq_nil_iff.mp hRead.symm
      rw [hNil]
      rfl
  | cons line lines ih =>
      rcases List.map_eq_cons_iff.mp hRead.symm with
        ⟨found, others, rfl, hFound, hOthers⟩
      rw [List.foldl_cons, ih hOthers.symm,
        hStep state line found hFound.symm]
      cases found with
      | none => rfl
      | some r => rfl

namespace Comparison

/- Take the next record into account. -/
def addRecord
    (b : Baseline)
    (c : Comparison)
    (r : AccessRecord) : Comparison :=
  { c with tally := r.addTo b c.tally }

/- Only the tally of a comparison changes with records. -/
theorem foldl_addRecord
    (b : Baseline)
    (records : List AccessRecord)
    (c : Comparison) :
    records.foldl (addRecord b) c =
      { c with
        tally :=
          records.foldl (AccessRecord.addTo b) c.tally } :=
  List.foldl_hom (fun t => { c with tally := t })
    fun _ _ => rfl

/- A comparison adds the records to its tally. -/
theorem foldl_absorb_of_read
    (b : Baseline)
    (hRead : lines.map readRecord = read.map .ok)
    (c : Comparison) :
    lines.foldl (absorb b) c =
      (read.filterMap id).foldl (addRecord b) c := by
  apply foldl_of_read ?_ hRead
  intro d line found hFound
  rw [absorb, hFound]
  cases found with
  | none => rfl
  | some r => rfl

end Comparison

/- A baseline learns the tags of the records. -/
theorem Baseline.foldl_absorb_of_read
    (hRead :
      lines.map Comparison.readRecord = read.map .ok)
    (b : Baseline) :
    lines.foldl absorb b =
      ((read.filterMap id).map AccessRecord.tag).foldl learn
        b := by
  rw [List.foldl_map]
  apply foldl_of_read ?_ hRead
  intro c line found hFound
  rw [absorb, readEntry_of_record hFound]
  cases found with
  | none => rfl
  | some r => rfl

------------------------------------------------------------
-- Collected Tags
------------------------------------------------------------

namespace Baseline

/- Collected tags are known, and so is what was known. -/
theorem knows_foldl_learn
    (tags : List Text)
    (b : Baseline)
    (tag : Text) :
    (tags.foldl learn b).Knows tag ↔
      b.Knows tag ∨ tag ∈ tags := by
  induction tags generalizing b with
  | nil => simp
  | cons other tags ih =>
      have hLearn :
          (b.learn other).Knows tag ↔
            tag = other ∨ b.Knows tag :=
        List.mem_insert_iff
      rw [List.foldl_cons, ih, hLearn, List.mem_cons,
        or_comm (a := tag = other), or_assoc]

theorem knows_ofTags (tags : List Text) (tag : Text) :
    (ofTags tags).Knows tag ↔ tag ∈ tags := by
  have hEmpty : ¬ Knows { } tag := List.not_mem_nil
  rw [ofTags, knows_foldl_learn, or_iff_right hEmpty]

theorem malformed_foldl_learn
    (tags : List Text)
    (b : Baseline) :
    (tags.foldl learn b).malformed = b.malformed := by
  induction tags generalizing b with
  | nil => rfl
  | cons tag tags ih => exact ih (b.learn tag)

end Baseline

------------------------------------------------------------
-- Reading Back
------------------------------------------------------------

/-
  However a log was written, each line of a record is read
  as this record, and the others hold nothing. A comparison
  with the log counts the records in their order and skips
  no line. A baseline of the log knows their tags, as if
  they were collected without a log, and skips no line.
-/
theorem written_log_is_read_back
    {records : List AccessRecord}
    {text : Text}
    (hWritable : ∀ r ∈ records, r.IsWritable)
    (hLog : WritesLog records text)
    (b : Baseline) :
    let s := Stream.ofBytes (Utf8.encode text)
    let tags := records.map AccessRecord.tag
    (∀ r ∈ records,
      ∀ line ending : Text,
        WritesRecord r line →
        ending = [] ∨ IsLineEnd ending →
        readCheckpointLine (line ++ ending) =
          .ok (some r)) ∧
    (∃ read : List (Option AccessRecord),
      s.lines.map Comparison.readRecord = read.map .ok ∧
      read.filterMap id = records) ∧
    Comparison.ofStream b s =
      .ok ⟨records.foldl (AccessRecord.addTo b) { }, 0⟩ ∧
    ∃ known,
      Baseline.ofStream s = .ok known ∧
      known = Baseline.ofTags tags ∧
      (∀ tag, known.Knows tag ↔ tag ∈ tags) ∧
      known.malformed = 0 := by
  intro s tags
  rcases hLog.exists_read hWritable with
    ⟨read, hRead, hRecords⟩
  refine ⟨?_, ⟨read, hRead, hRecords⟩, ?_, ?_⟩
  · intro r hMem line ending hLine hEnding
    have hBlank : ending.IsBlank := by
      rcases hEnding with rfl | hEnd
      · exact Text.isBlank_nil
      · exact hEnd.isBlank
    exact hLine.readRecord_eq (hWritable r hMem) hBlank
  · have hFold :=
      Comparison.foldl_absorb_of_read b hRead { }
    rw [hRecords, Comparison.foldl_addRecord] at hFold
    exact congrArg Except.ok hFold
  · have hFold := Baseline.foldl_absorb_of_read hRead { }
    rw [hRecords] at hFold
    exact
      ⟨Baseline.ofTags tags, congrArg Except.ok hFold, rfl,
        Baseline.knows_ofTags tags,
        Baseline.malformed_foldl_learn tags { }⟩

/-
  A tag between a wide blank and a narrow one, a full
  counter with zeros and a plus sign in front and a field
  behind it, a blank line, and an empty tag in a last line
  without end.
-/
theorem written_log_is_read_back_sample :
    Comparison.ofStream (Baseline.ofTags [[]])
        (Stream.ofBytes
          (Utf8.encode
            "p,\u3000x ,+0018446744073709551615,z\r\n \nq,,07")) =
      .ok
        ⟨⟨1, 18446744073709551615, 18446744073709551615⟩,
          0⟩ := by
  have hSpace : IsPadding " " := ⟨by decide, by decide⟩
  have hWide : IsPadding "\u3000" := ⟨by decide, by decide⟩
  have hFirst :
      WritesRecord ⟨"p", "x", 18446744073709551615⟩
        "p,\u3000x ,+0018446744073709551615,z" :=
    .line
      (Pads.self _)
      (.pad hWide hSpace)
      (.plus 2)
      (Pads.self _)
      (@IsSurplus.fields "z" (by decide))
  have hSecond : WritesRecord ⟨"q", [], 7⟩ "q,,07" :=
    .line
      (Pads.self _)
      (Pads.self _)
      (.plain 1)
      (Pads.self _)
      .none
  have hLog :
      WritesLog
        [⟨"p", "x", 18446744073709551615⟩, ⟨"q", [], 7⟩]
        "p,\u3000x ,+0018446744073709551615,z\r\n \nq,,07" :=
    .record hFirst (.inr rfl)
      (.blank hSpace (.inl rfl) (.lastRecord hSecond))
  have hWritable :
      ∀ r ∈ ([⟨"p", "x", 18446744073709551615⟩,
          ⟨"q", [], 7⟩] : List AccessRecord),
        r.IsWritable := by
    have hOne (c : Char) :
        c ≠ ',' ∧ Text.isBlank c = false →
          IsFieldText [c] := by
      intro hChar
      apply isFieldText_of_forall
      exact List.forall_mem_singleton.mpr hChar
    rw [List.forall_mem_cons, List.forall_mem_singleton]
    exact
      ⟨⟨hOne 'p' (by decide), hOne 'x' (by decide)⟩,
        ⟨hOne 'q' (by decide), isFieldText_of_forall nofun⟩⟩
  have hMain :=
    written_log_is_read_back hWritable hLog
      (Baseline.ofTags [[]])
  exact hMain.2.2.1.trans (congrArg Except.ok (by decide))

end PageHeat
