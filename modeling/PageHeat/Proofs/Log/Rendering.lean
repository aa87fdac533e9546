import PageHeat.Proofs.Log.Baseline
import PageHeat.Proofs.Log.Decoding
import PageHeat.Tally.Basic

/-
  Access records as they are written down.

  A record can be written in many ways: with blanks around
  its fields, with a plus sign and zeros in front of the
  count, and with more fields behind it. In a log blank
  lines may stand anywhere, and a line ends with a line
  feed, perhaps after a carriage return. However the
  records are written, they are what is read.

  Key definitions include:
    * `AccessRecord.IsWritable`
    * `WritesCount`
    * `WritesRecord`
    * `WritesLog`

  Key lemmas include:
    * `WritesRecord.fields_eq`
    * `WritesRecord.readCheckpointLine_eq`
    * `WritesLog.exists_read`
-/

------------------------------------------------------------
-- Written Records
------------------------------------------------------------

namespace PageHeat

/-
  A text that can stand in a field: nothing of it ends the
  field or the line, and trimming leaves it.
-/
structure IsFieldText (t : Text) : Prop where
  no_comma : ',' ∉ t
  no_feed : '\n' ∉ t
  trimmed : t.IsTrimmed

/- A record whose texts can stand in fields. -/
structure AccessRecord.IsWritable (r : AccessRecord) :
    Prop where
  pageId : IsFieldText r.pageId
  tag : IsFieldText r.tag

/- Blanks that do not end a line. -/
structure IsPadding (w : Text) : Prop where
  blank : w.IsBlank
  no_feed : '\n' ∉ w

/- A text with blanks around it. -/
inductive Pads (t : Text) : Text → Prop
  | pad
      {before after : Text}
      (hBefore : IsPadding before)
      (hAfter : IsPadding after) :
      Pads t (before ++ t ++ after)

/-
  A count in decimal with any number of zeros in front,
  perhaps after a plus sign.
-/
inductive WritesCount (n : Count) : Text → Prop
  | plain (zeros : Nat) :
      WritesCount n
        (List.replicate zeros '0' ++ Decimal.text n.toNat)
  | plus (zeros : Nat) :
      WritesCount n
        ('+' ::
          (List.replicate zeros '0' ++
            Decimal.text n.toNat))

/- What may stand behind the third field of a line. -/
inductive IsSurplus : Text → Prop
  | none : IsSurplus []
  | fields
      {others : Text}
      (hFeed : '\n' ∉ others) :
      IsSurplus (',' :: others)

/- A line of a record, without its end. -/
inductive WritesRecord (r : AccessRecord) : Text → Prop
  | line
      {first second count third surplus : Text}
      (hFirst : Pads r.pageId first)
      (hSecond : Pads r.tag second)
      (hCount : WritesCount r.count count)
      (hThird : Pads count third)
      (hSurplus : IsSurplus surplus) :
      WritesRecord r
        (first ++
          ',' :: (second ++ ',' :: (third ++ surplus)))

/- What a line can end with. -/
def IsLineEnd (ending : Text) : Prop :=
  ending = ['\n'] ∨ ending = ['\r', '\n']

/-
  A log of some records, one in a line, with blank lines
  among them. The last line may have no end.
-/
inductive WritesLog : List AccessRecord → Text → Prop
  | lastBlank
      {gap : Text}
      (hGap : IsPadding gap) :
      WritesLog [] gap
  | lastRecord
      {r : AccessRecord}
      {line : Text}
      (hLine : WritesRecord r line) :
      WritesLog [r] line
  | blank
      {gap ending next : Text}
      {records : List AccessRecord}
      (hGap : IsPadding gap)
      (hEnding : IsLineEnd ending)
      (hNext : WritesLog records next) :
      WritesLog records (gap ++ ending ++ next)
  | record
      {r : AccessRecord}
      {line ending next : Text}
      {records : List AccessRecord}
      (hLine : WritesRecord r line)
      (hEnding : IsLineEnd ending)
      (hNext : WritesLog records next) :
      WritesLog (r :: records) (line ++ ending ++ next)

------------------------------------------------------------
-- Fields
------------------------------------------------------------

/- A text without commas and blanks can stand in a field. -/
theorem isFieldText_of_forall
    {t : Text}
    (hAll : ∀ c ∈ t, c ≠ ',' ∧ Text.isBlank c = false) :
    IsFieldText t where
  no_comma := fun hMem => (hAll ',' hMem).1 rfl
  no_feed := by
    intro hMem
    have hBlank := (hAll '\n' hMem).2
    cases hBlank
  trimmed :=
    Text.isTrimmed_of_forall fun c hMem => (hAll c hMem).2

theorem Pads.self (t : Text) : Pads t t := by
  have hNone : IsPadding [] := ⟨rfl, List.not_mem_nil⟩
  simpa using Pads.pad (t := t) hNone hNone

/- A text with blanks around it is a field of its own. -/
theorem Pads.fields_eq
    {t field : Text}
    (hPads : Pads t field)
    (hField : IsFieldText t) :
    fields field = [t] := by
  cases hPads with
  | @pad before after hBefore hAfter =>
      have hNone : ',' ∉ before ++ t ++ after := by
        have hStart := hBefore.blank.notMem (c := ',') rfl
        have hStop := hAfter.blank.notMem (c := ',') rfl
        simp [hStart, hField.no_comma, hStop]
      rw [fields_of_notMem hNone,
        Text.trim_padded hBefore.blank hField.trimmed
          hAfter.blank]

theorem Pads.no_feed
    {t field : Text}
    (hPads : Pads t field)
    (hField : IsFieldText t) :
    '\n' ∉ field := by
  cases hPads with
  | pad hBefore hAfter =>
      simp [hBefore.no_feed, hField.no_feed,
        hAfter.no_feed]

------------------------------------------------------------
-- Counts
------------------------------------------------------------

/- A digit is no blank. -/
theorem isBlank_of_isDigit
    {c : Char}
    (hDigit : c.isDigit = true) :
    Text.isBlank c = false := by
  have hRange : 48 ≤ c.toNat ∧ c.toNat ≤ 57 :=
    Char.isDigit_iff_toNat.mp hDigit
  simp only [Text.isBlank, Bool.or_eq_false_iff,
    Bool.and_eq_false_iff, decide_eq_false_iff_not,
    beq_eq_false_iff_ne]
  omega

/- A numeral can stand in a field. -/
theorem isFieldText_of_isNumeral
    {t : Text}
    {n : Nat}
    (hNumeral : Decimal.IsNumeral t n) :
    IsFieldText t := by
  have hPlain {digits : Text}
      (hDigits : Decimal.IsDigits digits n) :
      ∀ c ∈ digits, c ≠ ',' ∧ Text.isBlank c = false := by
    intro c hMem
    have hDigit := hDigits.2.1 c hMem
    refine ⟨?_, isBlank_of_isDigit hDigit⟩
    rintro rfl
    cases hDigit
  apply isFieldText_of_forall
  rcases hNumeral with hDigits | ⟨digits, rfl, hDigits⟩
  · exact hPlain hDigits
  · rw [List.forall_mem_cons]
    exact ⟨by decide, hPlain hDigits⟩

/- A written count is a numeral of its value. -/
theorem WritesCount.isNumeral
    {n : Count}
    {count : Text}
    (hCount : WritesCount n count) :
    Decimal.IsNumeral count n.toNat := by
  have hDigits := Decimal.isDigits_text n.toNat
  cases hCount with
  | plain zeros => exact Or.inl (hDigits.zeros zeros)
  | plus zeros =>
      exact Or.inr ⟨_, rfl, hDigits.zeros zeros⟩

theorem WritesCount.readCount?_eq
    {n : Count}
    {count : Text}
    (hCount : WritesCount n count) :
    readCount? count = some n :=
  (readCount?_eq_some_iff count n).mpr hCount.isNumeral

------------------------------------------------------------
-- Lines Of Records
------------------------------------------------------------

/- The third field of a line, and what is behind it. -/
theorem exists_fields_third
    {t third surplus : Text}
    (hPads : Pads t third)
    (hField : IsFieldText t)
    (hSurplus : IsSurplus surplus) :
    ∃ others, fields (third ++ surplus) = t :: others := by
  have hThird := hPads.fields_eq hField
  cases hSurplus with
  | none =>
      rw [List.append_nil]
      exact ⟨[], hThird⟩
  | @fields others hFeed =>
      refine ⟨fields others, ?_⟩
      rw [fields_append_comma, hThird]
      rfl

/- The fields of a written record are its texts. -/
theorem WritesRecord.fields_eq
    {r : AccessRecord}
    {line : Text}
    (hWritable : r.IsWritable)
    (hLine : WritesRecord r line) :
    ∃ count others,
      WritesCount r.count count ∧
        fields line =
          r.pageId :: r.tag :: count :: others := by
  cases hLine with
  | @line first second count third surplus hFirst hSecond
      hCount hThird hSurplus =>
      have hNumeral :=
        isFieldText_of_isNumeral hCount.isNumeral
      rcases exists_fields_third hThird hNumeral hSurplus with
        ⟨others, hOthers⟩
      refine ⟨count, others, hCount, ?_⟩
      rw [fields_append_comma, fields_append_comma, hOthers,
        hFirst.fields_eq hWritable.pageId,
        hSecond.fields_eq hWritable.tag]
      rfl

/- A written record is read as it was. -/
theorem WritesRecord.readCheckpointLine_eq
    {r : AccessRecord}
    {line : Text}
    (hWritable : r.IsWritable)
    (hLine : WritesRecord r line) :
    readCheckpointLine line = .ok (some r) := by
  rcases hLine.fields_eq hWritable with
    ⟨count, others, hCount, hFields⟩
  exact
    readCheckpointLine_of_fields hFields hCount.readCount?_eq

/- A written record stays in its line. -/
theorem WritesRecord.no_feed
    {r : AccessRecord}
    {line : Text}
    (hWritable : r.IsWritable)
    (hLine : WritesRecord r line) :
    '\n' ∉ line := by
  cases hLine with
  | @line first second count third surplus hFirst hSecond
      hCount hThird hSurplus =>
      have hNumeral :=
        isFieldText_of_isNumeral hCount.isNumeral
      have hMore : '\n' ∉ surplus := by
        cases hSurplus with
        | none => exact List.not_mem_nil
        | fields hFeed => simp [hFeed]
      simp [hFirst.no_feed hWritable.pageId,
        hSecond.no_feed hWritable.tag,
        hThird.no_feed hNumeral, hMore]

theorem IsLineEnd.isBlank
    {ending : Text}
    (hEnding : IsLineEnd ending) :
    ending.IsBlank := by
  rcases hEnding with rfl | rfl
  · decide
  · decide

------------------------------------------------------------
-- Lines Of Logs
------------------------------------------------------------

/- A line with its end is the first one of a log. -/
theorem lines_of_ended
    {line ending : Text}
    (hLine : '\n' ∉ line)
    (hEnding : IsLineEnd ending)
    (next : Text) :
    (Stream.ofBytes
        (Utf8.encode (line ++ ending ++ next))).lines =
      .ok (line ++ ending) ::
        (Stream.ofBytes (Utf8.encode next)).lines := by
  have hLast : ∃ front, ending = front ++ ['\n'] ∧
      '\n' ∉ front := by
    rcases hEnding with rfl | rfl
    · exact ⟨[], rfl, by decide⟩
    · exact ⟨['\r'], rfl, by decide⟩
  rcases hLast with ⟨front, rfl, hFront⟩
  have hBegun : lineFeed ∉ Utf8.encode (line ++ front) := by
    apply lineFeed_notMem_encode
    simp [hLine, hFront]
  have hPiece :
      Utf8.encode (line ++ front) ++ [lineFeed] =
        Utf8.encode (line ++ (front ++ ['\n'])) := by
    rw [← List.append_assoc, Utf8.encode_append (line ++ front)]
    rfl
  have hWhole :
      Utf8.encode (line ++ (front ++ ['\n']) ++ next) =
        Utf8.encode (line ++ front) ++
          lineFeed :: Utf8.encode next := by
    rw [Utf8.encode_append, ← hPiece, List.append_assoc]
    rfl
  rw [Stream.lines, Stream.ofBytes, hWhole,
    Stream.pieces_append_lineFeed hBegun, List.map_cons,
    hPiece, readPiece_encode]
  rfl

/- A line without end is the only one of a log, if any. -/
theorem lines_of_unended
    {line : Text}
    (hLine : '\n' ∉ line)
    (hSome : line ≠ []) :
    (Stream.ofBytes (Utf8.encode line)).lines =
      [.ok line] := by
  have hBytes : Utf8.encode line ≠ [] := by
    intro hNil
    have hDecode := Utf8.decode_encode line
    rw [hNil] at hDecode
    exact hSome (Option.some.inj hDecode).symm
  have hCut :=
    cutLines_of_notMem (lineFeed_notMem_encode hLine) hBytes
  have hPieces :
      (Stream.ofBytes (Utf8.encode line)).pieces =
        [Utf8.encode line] := hCut
  rw [Stream.lines, hPieces, List.map_singleton,
    readPiece_encode]

theorem WritesRecord.ne_nil
    {r : AccessRecord}
    {line : Text}
    (hLine : WritesRecord r line) :
    line ≠ [] := by
  cases hLine with
  | line => simp

theorem IsPadding.readRecord_eq
    {gap ending : Text}
    (hGap : IsPadding gap)
    (hEnding : ending.IsBlank) :
    Comparison.readRecord (.ok (gap ++ ending)) =
      .ok none := by
  apply readCheckpointLine_of_isBlank
  exact (Text.isBlank_append _ _).mpr ⟨hGap.blank, hEnding⟩

/- A written record is read as it was, whatever ends it. -/
theorem WritesRecord.readRecord_eq
    {r : AccessRecord}
    {line ending : Text}
    (hWritable : r.IsWritable)
    (hLine : WritesRecord r line)
    (hEnding : ending.IsBlank) :
    Comparison.readRecord (.ok (line ++ ending)) =
      .ok (some r) := by
  have hRead := hLine.readCheckpointLine_eq hWritable
  exact
    (readsByFields_checkpoint.append hEnding line).trans hRead

/-
  Every line of a written log is read as blank or as a
  record, and the records are those that were written.
-/
theorem WritesLog.exists_read
    {records : List AccessRecord}
    {text : Text}
    (hWritable : ∀ r ∈ records, r.IsWritable)
    (hLog : WritesLog records text) :
    ∃ read : List (Option AccessRecord),
      (Stream.ofBytes (Utf8.encode text)).lines.map
          Comparison.readRecord =
        read.map .ok ∧
      read.filterMap id = records := by
  induction hLog with
  | @lastBlank gap hGap =>
      by_cases hNil : gap = []
      · rw [hNil]
        exact ⟨[], rfl, rfl⟩
      · have hRead :=
          readCheckpointLine_of_isBlank hGap.blank
        refine ⟨[none], ?_, rfl⟩
        rw [lines_of_unended hGap.no_feed hNil]
        exact congrArg (fun read => [read]) hRead
  | @lastRecord r line hLine =>
      have hRecord := hWritable r List.mem_cons_self
      have hRead := hLine.readCheckpointLine_eq hRecord
      refine ⟨[some r], ?_, rfl⟩
      rw [lines_of_unended (hLine.no_feed hRecord)
        hLine.ne_nil]
      exact congrArg (fun read => [read]) hRead
  | @blank gap ending next records hGap hEnding hNext ih =>
      rcases ih hWritable with ⟨read, hRead, hRecords⟩
      have hNone := hGap.readRecord_eq hEnding.isBlank
      refine ⟨none :: read, ?_, hRecords⟩
      rw [lines_of_ended hGap.no_feed hEnding,
        List.map_cons, hNone, hRead]
      rfl
  | @record r line ending next records hLine hEnding hNext
      ih =>
      rcases List.forall_mem_cons.mp hWritable with
        ⟨hRecord, hOthers⟩
      rcases ih hOthers with ⟨read, hRead, hRecords⟩
      have hSome := hLine.readRecord_eq hRecord hEnding.isBlank
      refine ⟨some r :: read, ?_, ?_⟩
      · rw [lines_of_ended (hLine.no_feed hRecord) hEnding,
          List.map_cons, hSome, hRead]
        rfl
      · exact congrArg (List.cons r) hRecords

end PageHeat
