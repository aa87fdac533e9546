import Mathlib.Logic.Relation
import PageHeat.Proofs.Log.Findings
import PageHeat.Proofs.Log.Rendering
import PageHeat.Tally.Basic

/-
  Logs with other blanks, and with one more malformed line.

  Blanks of a log can be changed in many ways: carriage
  returns in front of the line feeds, a line feed at the
  end, blank lines, and blanks next to the commas and at the
  ends of lines. None of them changes what is read. A
  malformed line changes the number of malformed lines and
  nothing else.

  Key definitions include:
    * `withReturns`
    * `PadsLine`
    * `Respaces`
    * `IsStray`

  Key lemmas include:
    * `findings_withReturns`
    * `findings_concat_lineFeed`
    * `Respaces.findings_eq`
    * `respaced_logs_read_the_same`
-/

------------------------------------------------------------
-- Changes Of Blanks
------------------------------------------------------------

namespace PageHeat

/- The octet that may stand in front of a line feed. -/
def carriageReturn : UInt8 := 13

/- Put a carriage return in front of every line feed. -/
def withReturns (bytes : Bytes) : Bytes :=
  bytes.flatMap fun b =>
    if b = lineFeed then [carriageReturn, lineFeed] else [b]

/- Put blanks next to a comma of a line, or at its ends. -/
inductive PadsLine : Text → Text → Prop
  | front
      {w : Text}
      (hPadding : IsPadding w)
      (line : Text) :
      PadsLine line (w ++ line)
  | back
      {w : Text}
      (hPadding : IsPadding w)
      (line : Text) :
      PadsLine line (line ++ w)
  | beforeComma
      {w : Text}
      (hPadding : IsPadding w)
      (first rest : Text) :
      PadsLine (first ++ ',' :: rest)
        (first ++ w ++ ',' :: rest)
  | behindComma
      {w : Text}
      (hPadding : IsPadding w)
      (first rest : Text) :
      PadsLine (first ++ ',' :: rest)
        (first ++ ',' :: (w ++ rest))

/-
  Change the blanks of a log: put a carriage return in front
  of every line feed, add a line feed at the end, insert a
  blank line where a line begins, or put blanks into a line
  that is a text.
-/
inductive Respaces : Bytes → Bytes → Prop
  | returns (bytes : Bytes) :
      Respaces bytes (withReturns bytes)
  | feed (bytes : Bytes) :
      Respaces bytes (bytes ++ [lineFeed])
  | blankLine
      {front : Bytes}
      {gap : Text}
      (hFront : EndsLine front)
      (hGap : IsPadding gap)
      (back : Bytes) :
      Respaces (front ++ back)
        (front ++ (Utf8.encode gap ++ lineFeed :: back))
  | lastBlankLine
      {front : Bytes}
      {gap : Text}
      (hFront : EndsLine front)
      (hGap : IsPadding gap) :
      Respaces front (front ++ Utf8.encode gap)
  | line
      {front back : Bytes}
      {line padded : Text}
      (hFront : EndsLine front)
      (hLine : '\n' ∉ line)
      (hPads : PadsLine line padded)
      (hBack : ∀ b, back.head? = some b → b = lineFeed) :
      Respaces (front ++ (Utf8.encode line ++ back))
        (front ++ (Utf8.encode padded ++ back))

------------------------------------------------------------
-- Padded Lines
------------------------------------------------------------

namespace PadsLine

variable {line padded : Text}

/- Padding a line does not change its fields. -/
theorem fields_eq
    (hPads : PadsLine line padded) :
    fields padded = fields line := by
  cases hPads with
  | front hPadding line =>
      exact fields_prepend hPadding.blank line
  | back hPadding line =>
      exact fields_append hPadding.blank line
  | beforeComma hPadding first rest =>
      rw [fields_append_comma, fields_append_comma,
        fields_append hPadding.blank]
  | behindComma hPadding first rest =>
      rw [fields_append_comma, fields_append_comma,
        fields_prepend hPadding.blank]

/- Padding a line does not change whether it is blank. -/
theorem isBlank_iff
    (hPads : PadsLine line padded) :
    padded.IsBlank ↔ line.IsBlank := by
  have hComma (t : Text) : ¬ Text.IsBlank (',' :: t) := by
    intro hBlank
    exact hBlank.notMem (by decide) List.mem_cons_self
  cases hPads with
  | front hPadding line =>
      simp only [Text.isBlank_append, hPadding.blank, true_and]
  | back hPadding line =>
      simp only [Text.isBlank_append, hPadding.blank, and_true]
  | beforeComma hPadding first rest =>
      simp only [Text.isBlank_append, hComma, and_false]
  | behindComma hPadding first rest =>
      simp only [Text.isBlank_append, hComma, and_false]

/- A padded line stays a line. -/
theorem no_feed
    (hPads : PadsLine line padded)
    (hLine : '\n' ∉ line) :
    '\n' ∉ padded := by
  cases hPads with
  | front hPadding line => simp [hPadding.no_feed, hLine]
  | back hPadding line => simp [hPadding.no_feed, hLine]
  | beforeComma hPadding first rest =>
      simp_all [hPadding.no_feed]
  | behindComma hPadding first rest =>
      simp_all [hPadding.no_feed]

end PadsLine

------------------------------------------------------------
-- Findings Of Respaced Logs
------------------------------------------------------------

/- There is nothing to change without a line feed. -/
theorem withReturns_of_notMem
    {begun : Bytes}
    (hBegun : lineFeed ∉ begun) :
    withReturns begun = begun := by
  induction begun with
  | nil => rfl
  | cons b begun ih =>
      rw [List.mem_cons, not_or] at hBegun
      have hNe : b ≠ lineFeed := Ne.symm hBegun.1
      have hRest := ih hBegun.2
      unfold withReturns at hRest ⊢
      rw [List.flatMap_cons, if_neg hNe, hRest]
      rfl

/- A line gets its carriage return at its end. -/
theorem withReturns_append_lineFeed
    {begun : Bytes}
    (hBegun : lineFeed ∉ begun)
    (rest : Bytes) :
    withReturns (begun ++ lineFeed :: rest) =
      (begun ++ [carriageReturn]) ++
        lineFeed :: withReturns rest := by
  have hFront := withReturns_of_notMem hBegun
  unfold withReturns at hFront ⊢
  rw [List.flatMap_append, hFront, List.flatMap_cons,
    if_pos rfl, List.append_assoc]
  rfl

section Findings

variable {β : Type}
variable {reader : Text → Except LineFault (Option β)}
variable (hReader : ReadsByFields reader)
include hReader

/- Carriage returns do not change what is found. -/
theorem findings_withReturns (bytes : Bytes) :
    findings reader (withReturns bytes) =
      findings reader bytes := by
  induction bytes using bytes_line_induction with
  | nil => rfl
  | last begun hBegun hSome =>
      rw [withReturns_of_notMem hBegun]
  | line begun rest hBegun ih =>
      have hLonger : lineFeed ∉ begun ++ [carriageReturn] := by
        rw [List.mem_append, not_or]
        exact ⟨hBegun, by decide⟩
      rw [withReturns_append_lineFeed hBegun,
        hReader.findings_append_lineFeed hLonger,
        hReader.findings_append_lineFeed hBegun, ih,
        hReader.finding_concat (by decide) (by decide)]

/- A line feed at the end does not change what is found. -/
theorem findings_concat_lineFeed (bytes : Bytes) :
    findings reader (bytes ++ [lineFeed]) =
      findings reader bytes := by
  rcases exists_unfinished bytes with
    ⟨front, tail, rfl, hFront, hTail⟩
  have hNone : findings reader [] = [] := rfl
  rw [List.append_assoc,
    hReader.findings_insert_line hFront hTail,
    findings_append hFront, hReader.findings_of_notMem hTail,
    hNone, List.append_nil]

/- A blank line does not change what is found. -/
theorem findings_insert_blank
    {front : Bytes}
    {gap : Text}
    (hFront : EndsLine front)
    (hGap : IsPadding gap)
    (back : Bytes) :
    findings reader
        (front ++ (Utf8.encode gap ++ lineFeed :: back)) =
      findings reader (front ++ back) := by
  have hLine := lineFeed_notMem_encode hGap.no_feed
  rw [hReader.findings_insert_line hFront hLine,
    hReader.finding_of_isBlank hGap.blank,
    findings_append hFront]
  rfl

/- A padded line does not change what is found. -/
theorem finding_padded
    {line padded : Text}
    (hPads : PadsLine line padded) :
    finding reader (Utf8.encode padded) =
      finding reader (Utf8.encode line) := by
  have hSame : reader padded = reader line :=
    hReader.congr padded line hPads.isBlank_iff
      hPads.fields_eq
  rw [finding_encode, finding_encode, hSame]

/- One change of blanks does not change what is found. -/
theorem Respaces.findings_eq
    {bytes other : Bytes}
    (hRespaces : Respaces bytes other) :
    findings reader other = findings reader bytes := by
  cases hRespaces with
  | returns => exact findings_withReturns hReader bytes
  | feed => exact findings_concat_lineFeed hReader bytes
  | blankLine hFront hGap back =>
      exact findings_insert_blank hReader hFront hGap back
  | @lastBlankLine _ gap hFront hGap =>
      have hLine := lineFeed_notMem_encode hGap.no_feed
      rw [findings_append hFront,
        hReader.findings_of_notMem hLine,
        hReader.finding_of_isBlank hGap.blank]
      exact List.append_nil _
  | line hFront hLine hPads hBack =>
      exact
        hReader.findings_replace_line hFront
          (lineFeed_notMem_encode hLine)
          (lineFeed_notMem_encode (hPads.no_feed hLine))
          hBack (finding_padded hReader hPads)

/- Nor do any number of changes. -/
theorem findings_eq_of_respaces
    {bytes other : Bytes}
    (hRespaces : Relation.ReflTransGen Respaces bytes other) :
    findings reader other = findings reader bytes := by
  induction hRespaces with
  | refl => rfl
  | tail hFirst hLast ih =>
      rw [hLast.findings_eq hReader, ih]

end Findings

------------------------------------------------------------
-- Malformed Lines
------------------------------------------------------------

/-
  A line that a baseline skips: it encodes no text, or a
  text without comma that is not blank.
-/
inductive IsStray : Bytes → Prop
  | noText
      {line : Bytes}
      (hNone : ∀ t, Utf8.encode t ≠ line) :
      IsStray line
  | noComma
      {line : Text}
      (hText : ¬ line.IsBlank)
      (hComma : ',' ∉ line) :
      IsStray (Utf8.encode line)

/- In a line that a baseline skips, a fault is found. -/
theorem IsStray.exists_fault
    {line : Bytes}
    (hStray : IsStray line) :
    ∃ fault,
      finding readBaselineLine line = some (.error fault) := by
  cases hStray with
  | noText hNone => exact ⟨_, finding_of_noText hNone⟩
  | @noComma line hText hComma =>
      refine ⟨.tooFewFields 2 1, ?_⟩
      rw [finding_encode, readBaselineLine, if_neg hText,
        fields_of_notMem hComma]
      rfl

/- In a malformed line of a checkpoint, a fault is found. -/
theorem exists_fault_of_malformed
    {line : Bytes}
    (hMalformed : Means line .malformed) :
    ∃ fault,
      finding readCheckpointLine line =
        some (.error fault) := by
  have hReading := readingOf_eq_of_means hMalformed
  unfold readingOf at hReading
  unfold finding
  cases hRead : (readPiece line).bind readCheckpointLine with
  | error fault => exact ⟨fault, rfl⟩
  | ok found =>
      rw [hRead] at hReading
      cases found with
      | none => cases hReading
      | some r => cases hReading

------------------------------------------------------------
-- Baselines And Comparisons
------------------------------------------------------------

/- Count one more malformed line of a baseline. -/
def Baseline.skip (b : Baseline) : Baseline :=
  { b with malformed := b.malformed + 1 }

/- Count one more malformed line of a checkpoint. -/
def Comparison.skip (c : Comparison) : Comparison :=
  { c with malformed := c.malformed + 1 }

/- Take what was found in a line into account. -/
def Baseline.addFinding
    (b : Baseline) :
    Except LineFault BaselineEntry → Baseline
  | .ok entry => b.learn entry.tag
  | .error _ => b.skip

/- Take what was found in a line into account. -/
def Comparison.addFinding
    (b : Baseline)
    (c : Comparison) :
    Except LineFault AccessRecord → Comparison
  | .ok r =>
      { c with
        tally :=
          c.tally.record (!decide (b.Knows r.tag)) r.count }
  | .error _ => c.skip

/- A baseline goes by what is found in its log. -/
theorem Baseline.ofStream_eq_findings (bytes : Bytes) :
    ofStream ⟨bytes, none⟩ =
      .ok
        ((findings readBaselineLine bytes).foldl
          addFinding { }) := by
  apply congrArg Except.ok
  apply foldl_eq_foldl_findings
  intro b line
  rw [absorb, readEntry]
  cases line.bind readBaselineLine with
  | error fault => rfl
  | ok found =>
      cases found with
      | none => rfl
      | some entry => rfl

/- A comparison goes by what is found in the log. -/
theorem Comparison.ofStream_eq_findings
    (b : Baseline)
    (bytes : Bytes) :
    ofStream b ⟨bytes, none⟩ =
      .ok
        ((findings readCheckpointLine bytes).foldl
          (addFinding b) { }) := by
  apply congrArg Except.ok
  apply foldl_eq_foldl_findings
  intro c line
  rw [absorb, readRecord]
  cases line.bind readCheckpointLine with
  | error fault => rfl
  | ok found =>
      cases found with
      | none => rfl
      | some r => rfl

section Insertion

variable {front line : Bytes}

/- A line that a baseline skips is counted, and no more. -/
theorem Baseline.ofStream_insert_stray
    (hFront : EndsLine front)
    (hLine : lineFeed ∉ line)
    (hStray : IsStray line)
    (back : Bytes)
    (failure : Option DeviceFault) :
    ofStream ⟨front ++ (line ++ lineFeed :: back), failure⟩ =
      (ofStream ⟨front ++ back, failure⟩).map skip := by
  cases failure with
  | some fault => rfl
  | none =>
      rcases hStray.exists_fault with ⟨fault, hFinding⟩
      rw [ofStream_eq_findings, ofStream_eq_findings,
        readsByFields_baseline.findings_insert_line hFront
          hLine,
        hFinding, findings_append hFront]
      apply congrArg Except.ok
      apply foldl_insert_fault
      · intro b fault
        rfl
      · intro b found
        cases found with
        | error fault => rfl
        | ok entry => rfl

/- A malformed line of a checkpoint is counted, and no more. -/
theorem Comparison.ofStream_insert_malformed
    (b : Baseline)
    (hFront : EndsLine front)
    (hLine : lineFeed ∉ line)
    (hMalformed : Means line .malformed)
    (back : Bytes)
    (failure : Option DeviceFault) :
    ofStream b ⟨front ++ (line ++ lineFeed :: back), failure⟩ =
      (ofStream b ⟨front ++ back, failure⟩).map skip := by
  cases failure with
  | some fault => rfl
  | none =>
      rcases exists_fault_of_malformed hMalformed with
        ⟨fault, hFinding⟩
      rw [ofStream_eq_findings, ofStream_eq_findings,
        readsByFields_checkpoint.findings_insert_line hFront
          hLine,
        hFinding, findings_append hFront]
      apply congrArg Except.ok
      apply foldl_insert_fault
      · intro c fault
        rfl
      · intro c found
        cases found with
        | error fault => rfl
        | ok r => rfl

end Insertion

------------------------------------------------------------
-- Respaced Logs
------------------------------------------------------------

/-
  However the blanks of a log are changed, any number of
  times, its baseline and every comparison with it stay the
  same, whatever else stands in the log. Inserting one
  malformed line where a line begins raises the number of
  malformed lines by one and changes nothing else.
-/
theorem respaced_logs_read_the_same :
    (∀ (bytes other : Bytes) (failure : Option DeviceFault),
      Relation.ReflTransGen Respaces bytes other →
      Baseline.ofStream ⟨other, failure⟩ =
          Baseline.ofStream ⟨bytes, failure⟩ ∧
        ∀ b,
          Comparison.ofStream b ⟨other, failure⟩ =
            Comparison.ofStream b ⟨bytes, failure⟩) ∧
    ∀ (front line back : Bytes)
      (failure : Option DeviceFault),
      EndsLine front →
      lineFeed ∉ line →
      (IsStray line →
        Baseline.ofStream
            ⟨front ++ (line ++ lineFeed :: back), failure⟩ =
          (Baseline.ofStream ⟨front ++ back, failure⟩).map
            fun b => { b with malformed := b.malformed + 1 }) ∧
      (Means line .malformed →
        ∀ b,
          Comparison.ofStream b
              ⟨front ++ (line ++ lineFeed :: back), failure⟩ =
            (Comparison.ofStream b
              ⟨front ++ back, failure⟩).map
              fun c =>
                { c with malformed := c.malformed + 1 }) := by
  constructor
  · intro bytes other failure hRespaces
    cases failure with
    | some fault => exact ⟨rfl, fun b => rfl⟩
    | none =>
        constructor
        · rw [Baseline.ofStream_eq_findings,
            Baseline.ofStream_eq_findings,
            findings_eq_of_respaces readsByFields_baseline
              hRespaces]
        · intro b
          rw [Comparison.ofStream_eq_findings,
            Comparison.ofStream_eq_findings,
            findings_eq_of_respaces readsByFields_checkpoint
              hRespaces]
  · intro front line back failure hFront hLine
    constructor
    · intro hStray
      exact
        Baseline.ofStream_insert_stray hFront hLine hStray
          back failure
    · intro hMalformed b
      exact
        Comparison.ofStream_insert_malformed b hFront hLine
          hMalformed back failure

/-
  A blank and carriage returns in a log, a character that
  breaks off, and a line with too few fields.
-/
theorem respaced_logs_read_the_same_sample :
    Comparison.ofStream { }
        ⟨withReturns
          (Utf8.encode "p ,x,1" ++ Utf8.encode "\nq"), none⟩ =
      Comparison.ofStream { }
        ⟨Utf8.encode "p,x,1" ++ Utf8.encode "\nq", none⟩ ∧
    Baseline.ofStream
        ⟨Utf8.encode "p,x\n" ++
          ([195] ++ lineFeed :: Utf8.encode "q,y"), none⟩ =
      (Baseline.ofStream
        ⟨Utf8.encode "p,x\n" ++ Utf8.encode "q,y", none⟩).map
        (fun b => { b with malformed := b.malformed + 1 }) ∧
    Comparison.ofStream { }
        ⟨Utf8.encode "r,z" ++ lineFeed :: Utf8.encode "q,y,2",
          none⟩ =
      (Comparison.ofStream { }
        ⟨Utf8.encode "q,y,2", none⟩).map
        fun c => { c with malformed := c.malformed + 1 } := by
  have hMain := respaced_logs_read_the_same
  refine ⟨?_, ?_, ?_⟩
  · have hPads : PadsLine "p,x,1" "p ,x,1" :=
      @PadsLine.beforeComma " " ⟨by decide, by decide⟩ "p"
        "x,1"
    have hLine :
        Respaces
          (Utf8.encode "p,x,1" ++ Utf8.encode "\nq")
          (Utf8.encode "p ,x,1" ++ Utf8.encode "\nq") :=
      @Respaces.line [] (Utf8.encode "\nq") _ _ EndsLine.nil
        (by decide) hPads (by decide +kernel)
    exact
      (hMain.1 _ _ none
        (.tail (.single hLine) (.returns _))).2 { }
  · have hStray : IsStray [195] :=
      .noText ((Utf8.decode_eq_none_iff _).mp (by decide))
    exact
      (hMain.2 (Utf8.encode "p,x\n") [195]
        (Utf8.encode "q,y") none (by decide +kernel)
        (by decide)).1 hStray
  · have hMalformed :
        Means (Utf8.encode "r,z") .malformed :=
      .fewFields "r,z" (by decide) (by decide)
    exact
      (hMain.2 [] (Utf8.encode "r,z") (Utf8.encode "q,y,2")
        none EndsLine.nil (by decide +kernel)).2
        hMalformed { }

end PageHeat
