import PageHeat.Proofs.Disk.Path
import PageHeat.Proofs.Disk.Writing
import PageHeat.Proofs.Json.Layout
import PageHeat.Report.Stored

/-
  What a stored report tells.

  The document of a summary is read as a value, and the
  parts of a summary are found in this value by the keys of
  its fields. If the paths of the summary are texts, this
  gives the summary back, with all of its lists in their
  order; so different summaries have different documents.
  No other summary is stored.

  Key definitions include:
    * `Json.Value.field?`
    * `Json.Value.natural?`
    * `Json.Value.listOf?`
    * `Summary.ofValue?`
    * `Summary.read?`

  Key lemmas include:
    * `Json.Value.listOf?_value`
    * `Summary.ofValue?_toJson`
    * `Summary.save_of_not_isText`
    * `Summary.document_is_read_back`
-/

------------------------------------------------------------
-- Parts Of Values
------------------------------------------------------------

namespace PageHeat

namespace Json

namespace Value

/- The value under a key of an object. -/
def field? (key : Text) : Value → Option Value
  | .object fields => fields.lookup key
  | _ => none

def text? : Value → Option Text
  | .text t => some t
  | _ => none

/- The path whose text a value is. -/
def path? (v : Value) : Option Path :=
  v.text?.map Utf8.encode

/- The natural number that a value is. -/
def natural? : Value → Option Nat
  | .number literal =>
      if isDigits literal then
        some (Nat.ofDigitChars 10 literal 0)
      else
        none
  | _ => none

/- The items of a list, if all of them can be read. -/
def listOf?
    {α : Type}
    (read : Value → Option α) : Value → Option (List α)
  | .list items => items.mapM read
  | _ => none

end Value

theorem text?_value (t : Text) :
    (Json.text t).value.text? = some t :=
  rfl

/- What is written for a path that is a text is this path. -/
theorem path?_value
    {p : Path}
    (hText : p.IsText) :
    (Json.text p.shown).value.path? = some p := by
  rw [Value.path?, text?_value, Option.map_some,
    Path.encode_shown hText]

theorem natural?_value (n : Nat) :
    (Json.number n).value.natural? = some n := by
  rcases Decimal.isDigits_text n with ⟨hSome, hAll, hValue⟩
  have hDigits : isDigits (Decimal.text n) = true := by
    rw [isDigits, List.all_eq_true.mpr hAll, Bool.and_true,
      Bool.not_eq_true', List.isEmpty_eq_false_iff]
    exact hSome
  rw [value, Value.natural?, if_pos hDigits, hValue]

/- The value under a key is that of what is written there. -/
theorem field?_value
    (key : Text)
    (fields : List (Text × Json)) :
    (Json.object fields).value.field? key =
      (fields.lookup key).map value := by
  rw [value, Value.field?]
  induction fields with
  | nil => rfl
  | cons field fields ih =>
      rcases field with ⟨other, v⟩
      rw [fieldValues, List.lookup_cons, List.lookup_cons]
      cases key == other with
      | true => rfl
      | false => exact ih

/- A list is read if each of its items is. -/
theorem listOf?_value
    {α : Type}
    {read : Value → Option α}
    {write : α → Json}
    {items : List α}
    (hReads :
      ∀ item ∈ items, read (write item).value = some item) :
    (Json.list (items.map write)).value.listOf? read =
      some items := by
  rw [value, Value.listOf?]
  induction items with
  | nil => rfl
  | cons item items ih =>
      rw [List.forall_mem_cons] at hReads
      rw [List.map_cons, itemValues, List.mapM_cons,
        hReads.1, ih hReads.2]
      rfl

end Json

------------------------------------------------------------
-- Parts Of Summaries
------------------------------------------------------------

open Json.Value

/- The log with skipped lines that a value tells. -/
def MalformedFile.ofValue?
    (v : Json.Value) : Option MalformedFile := do
  let path ← (← v.field? "path").path?
  let lines ← (← v.field? "lines").natural?
  some { path, lines }

def Report.ofValue? (v : Json.Value) : Option Report := do
  let name ← (← v.field? "name").text?
  let output ← (← v.field? "output").path?
  let linesWritten ← (← v.field? "lines_written").natural?
  let skipped ←
    (← v.field? "skipped_checkpoints").listOf? path?
  let malformed ←
    (← v.field? "malformed_files").listOf?
      MalformedFile.ofValue?
  some { name, output, linesWritten, skipped, malformed }

/- The benchmark that failed, as a value tells it. -/
def Failure.ofValue? (v : Json.Value) : Option Failure := do
  let name ← (← v.field? "name").text?
  let reason ← (← v.field? "reason").text?
  some { name, reason }

/- The summary that a value tells. -/
def Summary.ofValue? (v : Json.Value) : Option Summary := do
  let reports ←
    (← v.field? "benchmarks").listOf? Report.ofValue?
  let failures ←
    (← v.field? "failed").listOf? Failure.ofValue?
  some { reports, failures }

def Summary.read? (t : Text) : Option Summary :=
  (Json.Value.read? t).bind Summary.ofValue?

/- A log with skipped lines is told by its value. -/
theorem MalformedFile.ofValue?_toJson
    {file : MalformedFile}
    (hText : file.path.IsText) :
    ofValue? file.toJson.value = some file := by
  have hPath :
      file.toJson.value.field? "path" =
        some (Json.text file.path.shown).value :=
    Json.field?_value _ _
  have hLines :
      file.toJson.value.field? "lines" =
        some (Json.number file.lines).value :=
    Json.field?_value _ _
  rw [ofValue?, hPath, hLines]
  simp only [Option.bind_eq_bind, Option.bind_some,
    Json.path?_value hText, Json.natural?_value]

/- So is a benchmark that failed. -/
theorem Failure.ofValue?_toJson (f : Failure) :
    ofValue? f.toJson.value = some f := by
  have hName :
      f.toJson.value.field? "name" =
        some (Json.text f.name).value :=
    Json.field?_value _ _
  have hReason :
      f.toJson.value.field? "reason" =
        some (Json.text f.reason).value :=
    Json.field?_value _ _
  rw [ofValue?, hName, hReason]
  rfl

/- So is a report. -/
theorem Report.ofValue?_toJson
    {r : Report}
    (hText : r.IsText) :
    ofValue? r.toJson.value = some r := by
  rcases hText with ⟨hOutputText, hSkippedText, hFileText⟩
  have hName :
      r.toJson.value.field? "name" =
        some (Json.text r.name).value :=
    Json.field?_value _ _
  have hOutput :
      r.toJson.value.field? "output" =
        some (Json.text r.output.shown).value :=
    Json.field?_value _ _
  have hLines :
      r.toJson.value.field? "lines_written" =
        some (Json.number r.linesWritten).value :=
    Json.field?_value _ _
  have hSkipped :
      r.toJson.value.field? "skipped_checkpoints" =
        some
          (Json.list
            (r.skipped.map fun path =>
              .text path.shown)).value :=
    Json.field?_value _ _
  have hMalformed :
      r.toJson.value.field? "malformed_files" =
        some
          (Json.list
            (r.malformed.map MalformedFile.toJson)).value :=
    Json.field?_value _ _
  have hPaths :=
    Json.listOf?_value fun path hMem =>
      Json.path?_value (hSkippedText path hMem)
  have hFiles :=
    Json.listOf?_value fun file hMem =>
      MalformedFile.ofValue?_toJson (hFileText file hMem)
  rw [ofValue?, hName, hOutput, hLines, hSkipped, hMalformed]
  simp only [Option.bind_eq_bind, Option.bind_some,
    Json.text?_value, Json.natural?_value,
    Json.path?_value hOutputText, hPaths, hFiles]

namespace Summary

/- So is a summary. -/
theorem ofValue?_toJson
    {s : Summary}
    (hText : s.IsText) :
    ofValue? s.toJson.value = some s := by
  have hReports :
      s.toJson.value.field? "benchmarks" =
        some
          (Json.list (s.reports.map Report.toJson)).value :=
    Json.field?_value _ _
  have hFailures :
      s.toJson.value.field? "failed" =
        some
          (Json.list (s.failures.map Failure.toJson)).value :=
    Json.field?_value _ _
  have hTold :=
    Json.listOf?_value fun r hMem =>
      Report.ofValue?_toJson (hText r hMem)
  have hFailed :
      (Json.list (s.failures.map Failure.toJson)).value.listOf?
          Failure.ofValue? =
        some s.failures :=
    Json.listOf?_value fun f _ => Failure.ofValue?_toJson f
  rw [ofValue?, hReports, hFailures]
  simp only [Option.bind_eq_bind, Option.bind_some, hTold,
    hFailed]

------------------------------------------------------------
-- Documents
------------------------------------------------------------

theorem isDocument_document (s : Summary) :
    Json.IsDocument s.toJson.value s.document :=
  Json.isDocument_pretty s.toJson 0

/- The document of a summary tells this summary. -/
theorem read?_document
    {s : Summary}
    (hText : s.IsText) :
    read? s.document = some s := by
  have hValue :=
    (Json.Value.read?_eq_some_iff _ _).mpr
      s.isDocument_document
  rw [read?, hValue]
  exact ofValue?_toJson hText

/- A document starts with a brace, so it is not empty. -/
theorem document_ne_nil (s : Summary) : s.document ≠ [] := by
  rw [document, toJson, Json.pretty]
  exact List.cons_ne_nil _ _

/- Different summaries are encoded differently. -/
theorem encode_document_inj
    {s other : Summary}
    (hText : s.IsText)
    (hOther : other.IsText)
    (hEq :
      Utf8.encode other.document =
        Utf8.encode s.document) :
    other = s := by
  have hRead := read?_document hOther
  rw [Utf8.encode_inj.mp hEq, read?_document hText] at hRead
  exact (Option.some.inj hRead).symm

------------------------------------------------------------
-- Stored Documents
------------------------------------------------------------

theorem save_of_not_isText
    {s : Summary}
    (hText : ¬ s.IsText)
    (d : Disk)
    (p : Path) :
    s.save d p = (d, some .notText) :=
  if_neg hText

/- A summary that was saved is read with its document. -/
theorem read_of_save
    {s : Summary}
    {d d' : Disk}
    {p : Path}
    (hSave : s.save d p = (d', none)) :
    d'.read p =
        .ok (Stream.ofBytes (Utf8.encode s.document)) ∨
      ∃ l, d'.resolve p = .ok (.present l .nullDevice) := by
  unfold save at hSave
  split at hSave
  · split at hSave
    · rename_i created hWrite
      cases hSave
      refine Disk.read_of_writeFile ?_ hWrite
      intro hNil
      exact s.document_ne_nil
        ((Utf8.encode_inj (u := [])).mp hNil)
    · cases hSave
  · cases hSave

/-
  A summary is written as a JSON document of its value, and
  of no other value. If its paths are texts, then whoever
  reads it and looks up the fields has the summary again, so
  no other such summary is written in the same way. What is
  stored under a path can be read there, unless the path
  leads to a device that keeps nothing. A summary with any
  other path is not stored at all.
-/
theorem document_is_read_back (s : Summary) :
    Json.IsDocument s.toJson.value s.document ∧
    (s.IsText →
      (∀ v, Json.IsDocument v s.document →
        ofValue? v = some s) ∧
      read? s.document = some s ∧
      ∀ other : Summary,
        other.IsText →
        Utf8.encode other.document =
          Utf8.encode s.document →
            other = s) ∧
    (¬ s.IsText →
      ∀ (d : Disk) (p : Path),
        s.save d p = (d, some .notText)) ∧
    ∀ (d d' : Disk) (p : Path),
      s.save d p = (d', none) →
        (∃ bytes,
          d'.read p = .ok (Stream.ofBytes bytes) ∧
            Utf8.decode bytes = some s.document) ∨
        ∃ l, d'.resolve p = .ok (.present l .nullDevice) := by
  refine
    ⟨s.isDocument_document, ?_, save_of_not_isText, ?_⟩
  · intro hText
    refine
      ⟨?_, read?_document hText,
        fun _ => encode_document_inj hText⟩
    intro v hDocument
    cases hDocument.unique s.isDocument_document
    exact ofValue?_toJson hText
  · intro d d' p hSave
    rcases read_of_save hSave with hRead | hNull
    · exact
        .inl ⟨_, hRead, Utf8.decode_encode s.document⟩
    · exact .inr hNull

/- A summary with all that needs care in strings. -/
def trickySummary : Summary :=
  { reports :=
      [ { name := "505.mcf_r"
          output := "out/a\"b\\c"
          linesWritten := 18446744073709551615
          skipped := ["", "new\nline", "tab\t, \x01 \x1f"]
          malformed := [⟨"größe/数/😀.csv", 0⟩, ⟨"[],", 7⟩] },
        { name := "", output := "/" } ]
    failures := [⟨"519.lbm_r", "no \"baseline\"\r\n"⟩] }

def reportDisk : Disk :=
  { entries := [(["out"], .folder)] }

/- It is stored there and read back. -/
theorem document_is_read_back_tricky :
    trickySummary.IsText ∧
      (trickySummary.save reportDisk "out/run.json").2 =
        none ∧
      ∃ bytes,
        (trickySummary.save reportDisk
            "out/run.json").1.read "out/run.json" =
          .ok (Stream.ofBytes bytes) ∧
        (Utf8.decode bytes).bind read? =
          some trickySummary := by
  have hText : trickySummary.IsText := by decide +kernel
  have hNone :
      (trickySummary.save reportDisk
        "out/run.json").2 = none := by
    decide +kernel
  have hKept :
      (trickySummary.save reportDisk
          "out/run.json").1.read "out/run.json" ≠
        .ok (Stream.ofBytes []) := by
    decide +kernel
  rcases document_is_read_back trickySummary with
    ⟨-, hReads, -, hStored⟩
  rcases hSave :
      trickySummary.save reportDisk "out/run.json" with
    ⟨d, fault⟩
  rw [hSave] at hNone hKept
  subst hNone
  refine ⟨hText, rfl, ?_⟩
  rcases hStored reportDisk d "out/run.json" hSave with
    ⟨bytes, hBytes, hDecode⟩ | ⟨l, hNull⟩
  · refine ⟨bytes, hBytes, ?_⟩
    rw [hDecode]
    exact (hReads hText).2.1
  · rw [Disk.read, hNull] at hKept
    exact absurd rfl hKept

end Summary

end PageHeat
