import PageHeat.Proofs.Log.Decoding
import PageHeat.Proofs.Tally.Sink
import PageHeat.Proofs.Text.Decimal
import PageHeat.Tally.Format

/-
  Result lines as they are read back.

  A result line has no line feed but the one at its end, so
  cutting the text of some tallies gives back their lines
  and nothing else.

  Key lemmas include:
    * `LineFormat.cutLines_document`
    * `LineFormat.writeTallies_eq_write`
-/

------------------------------------------------------------
-- Cutting A Document
------------------------------------------------------------

namespace PageHeat

namespace LineFormat

/- A result line has no line feed before its end. -/
theorem lineFeed_notMem_line
    (format : LineFormat)
    (t : Tally) :
    lineFeed ∉ Utf8.encode (format.line t) := by
  apply lineFeed_notMem_encode
  intro hFeed
  have hDigits : ∀ n : Nat, '\n' ∉ Decimal.text n := by
    intro n hText
    exact absurd (Decimal.isDigit_of_mem_text hText)
      (by decide)
  have hSeparator : '\n' ≠ format.separator := by
    cases format with
    | text => decide
    | csv => decide
  simp only [line, List.mem_append, List.mem_singleton,
    hDigits, hSeparator, or_self] at hFeed

theorem encode_endedLine
    (format : LineFormat)
    (t : Tally) :
    Utf8.encode (format.endedLine t) =
      Utf8.encode (format.line t) ++ [lineFeed] := by
  rw [endedLine, Utf8.encode_append]
  rfl

/- The octets of the lines of some tallies. -/
def endedLines
    (format : LineFormat)
    (tallies : List Tally) : List Bytes :=
  tallies.map fun t => Utf8.encode (format.endedLine t)

/- A document is its lines, one behind the other. -/
theorem encode_document_cons
    (format : LineFormat)
    (t : Tally)
    (tallies : List Tally) :
    Utf8.encode (format.document (t :: tallies)) =
      Utf8.encode (format.line t) ++
        lineFeed :: Utf8.encode (format.document tallies) := by
  rw [document, List.flatMap_cons, Utf8.encode_append,
    encode_endedLine, List.append_assoc]
  rfl

/- Cutting a document gives back its lines. -/
theorem cutLines_document
    (format : LineFormat)
    (tallies : List Tally) :
    cutLines (Utf8.encode (format.document tallies)) =
      format.endedLines tallies := by
  induction tallies with
  | nil => rfl
  | cons t tallies ih =>
      rw [encode_document_cons,
        cutLines_append_lineFeed
          (format.lineFeed_notMem_line t),
        ← encode_endedLine, ih]
      rfl

------------------------------------------------------------
-- Writing A Document
------------------------------------------------------------

/- The lines of some tallies are written as their document. -/
theorem writeTallies_eq_write
    (format : LineFormat)
    (tallies : List Tally)
    (sink : Sink) :
    format.writeTallies tallies sink =
      match
        sink.write (Utf8.encode (format.document tallies)) with
      | (sink, none) => (sink, .ok tallies.length)
      | (sink, some fault) => (sink, .error fault) := by
  rw [writeTallies, Sink.writeEach_eq_write]
  rfl

/- Writing tallies fails as writing their document does. -/
theorem writeTallies_eq_error_iff
    {format : LineFormat}
    {tallies : List Tally}
    {sink : Sink}
    {fault : DeviceFault} :
    (format.writeTallies tallies sink).2 = .error fault ↔
      (sink.write (Utf8.encode (format.document tallies))).2 =
        some fault := by
  rw [writeTallies_eq_write]
  rcases
    sink.write (Utf8.encode (format.document tallies)) with
    ⟨sink', _ | cause⟩
  · simp
  · simp

end LineFormat

end PageHeat
