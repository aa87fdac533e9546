import PageHeat.Proofs.Log.Baseline
import PageHeat.Proofs.Tally.Format

/-
  What becomes of tallies that are written to a sink.

  The text of some tallies can be read back: cut at its
  line feeds and split at its separators, it gives the
  tallies again. A sink takes as much of the text as fits,
  and writing succeeds exactly if that is all of it. The
  two formats differ in nothing but the separator.

  Key definitions include:
    * `LineFormat.readTally?`
    * `LineFormat.readTallies?`
    * `Text.replace`

  Key lemmas include:
    * `LineFormat.readTally?_line`
    * `LineFormat.readTallies?_document`
    * `LineFormat.replace_document`
    * `LineFormat.writeTallies_fills_sink`
-/

------------------------------------------------------------
-- Reading Back
------------------------------------------------------------

namespace PageHeat

namespace LineFormat

/- Read the three counters of a line without its end. -/
def readTally?
    (format : LineFormat)
    (line : Text) : Option Tally :=
  match (Text.splitOn format.separator line).map readCount? with
  | [some pages, some accesses, some all] =>
      some ⟨pages, accesses, all⟩
  | _ => none

/- Read a tally from each line of some bytes. -/
def readTallies?
    (format : LineFormat)
    (bytes : Bytes) : Option (List Tally) :=
  (bareLines bytes).mapM fun line =>
    (Utf8.decode line).bind format.readTally?

theorem separator_notMem_text
    (format : LineFormat)
    (n : Nat) :
    format.separator ∉ Decimal.text n := by
  intro hMem
  have hDigit := Decimal.isDigit_of_mem_text hMem
  cases format with
  | text => exact absurd hDigit (by decide)
  | csv => exact absurd hDigit (by decide)

theorem readCount?_text (n : Count) :
    readCount? (Decimal.text n.toNat) = some n :=
  (readCount?_eq_some_iff _ n).mpr
    (.inl (Decimal.isDigits_text n.toNat))

/- A result line is split into its three counters. -/
theorem splitOn_line
    (format : LineFormat)
    (t : Tally) :
    Text.splitOn format.separator (format.line t) =
      [ Decimal.text t.coldPages.toNat,
        Decimal.text t.coldAccesses.toNat,
        Decimal.text t.totalAccesses.toNat ] := by
  have hAlone (n : Nat) :=
    Text.splitOn_of_notMem (format.separator_notMem_text n)
  simp only [line, List.append_assoc, Text.splitOn_append, hAlone,
    List.cons_append, List.nil_append]

/- A tally is read back from its line. -/
theorem readTally?_line
    (format : LineFormat)
    (t : Tally) :
    format.readTally? (format.line t) = some t := by
  rw [readTally?, splitOn_line]
  simp only [List.map_cons, List.map_nil, readCount?_text]

/- The bare lines of a document are the result lines. -/
theorem bareLines_document
    (format : LineFormat)
    (tallies : List Tally) :
    bareLines (Utf8.encode (format.document tallies)) =
      tallies.map fun t => Utf8.encode (format.line t) := by
  rw [bareLines, cutLines_document, endedLines, List.map_map]
  refine List.map_congr_left fun t _ => ?_
  have hComplete :
      IsComplete (Utf8.encode (format.line t) ++ [lineFeed]) :=
    List.getLast?_concat
  rw [Function.comp_apply, encode_endedLine, bareLine,
    if_pos hComplete, List.dropLast_concat]

/- Tallies are read back from their document. -/
theorem readTallies?_document
    (format : LineFormat)
    (tallies : List Tally) :
    format.readTallies?
        (Utf8.encode (format.document tallies)) =
      some tallies := by
  rw [readTallies?, bareLines_document]
  induction tallies with
  | nil => rfl
  | cons t tallies ih =>
      rw [List.map_cons, List.mapM_cons, ih,
        Utf8.decode_encode, Option.bind_some,
        readTally?_line]
      rfl

end LineFormat

------------------------------------------------------------
-- From One Format To The Other
------------------------------------------------------------

/- Put another character in place of one. -/
def Text.replace (old new : Char) (t : Text) : Text :=
  t.map fun c => if c = old then new else c

/- A text without the character stays as it is. -/
theorem Text.replace_of_notMem
    {old : Char}
    (new : Char)
    {t : Text}
    (hNone : old ∉ t) :
    Text.replace old new t = t := by
  have hSame :
      ∀ c ∈ t, (if c = old then new else c) = c := by
    intro c hMem
    exact if_neg (ne_of_mem_of_not_mem hMem hNone)
  rw [replace, List.map_congr_left hSame, List.map_id']

theorem Text.replace_append
    (old new : Char)
    (t u : Text) :
    Text.replace old new (t ++ u) =
      Text.replace old new t ++ Text.replace old new u :=
  List.map_append

theorem Text.replace_singleton (old new : Char) :
    Text.replace old new [old] = [new] := by
  rw [replace, List.map_singleton, if_pos rfl]

namespace LineFormat

/- A result line in another format. -/
theorem replace_endedLine
    (format other : LineFormat)
    (t : Tally) :
    Text.replace format.separator other.separator
        (format.endedLine t) =
      other.endedLine t := by
  have hText (n : Nat) :=
    Text.replace_of_notMem other.separator
      (format.separator_notMem_text n)
  have hFeed : format.separator ∉ ['\n'] := by
    cases format with
    | text => decide
    | csv => decide
  simp only [endedLine, line, Text.replace_append, hText,
    Text.replace_singleton, Text.replace_of_notMem _ hFeed]

/- A document in another format. -/
theorem replace_document
    (format other : LineFormat)
    (tallies : List Tally) :
    Text.replace format.separator other.separator
        (format.document tallies) =
      other.document tallies := by
  induction tallies with
  | nil => rfl
  | cons t tallies ih =>
      rw [document, document, List.flatMap_cons,
        List.flatMap_cons, Text.replace_append,
        replace_endedLine]
      exact congrArg (other.endedLine t ++ ·) ih

------------------------------------------------------------
-- Sinks Of Any Capacity
------------------------------------------------------------

/- What is written of a document to a sink with a limit. -/
theorem writeTallies_ofCapacity
    (format : LineFormat)
    (tallies : List Tally)
    (capacity : Nat)
    (overflow : DeviceFault) :
    let whole := Utf8.encode (format.document tallies)
    let written :=
      format.writeTallies tallies
        (Sink.ofCapacity capacity overflow)
    written.1.received = whole.take capacity ∧
      written.2 =
        if whole.length ≤ capacity then .ok tallies.length
        else .error overflow := by
  intro whole written
  rcases Sink.write_ofCapacity capacity overflow whole with
    ⟨hReceived, hFault⟩
  have hWritten : written = _ :=
    format.writeTallies_eq_write tallies _
  rw [hWritten]
  rcases hWrite :
      (Sink.ofCapacity capacity overflow).write whole with
    ⟨sink, fault⟩
  rw [hWrite] at hReceived hFault
  by_cases hFits : whole.length ≤ capacity
  · rw [if_pos hFits] at hFault ⊢
    subst hFault
    exact ⟨hReceived, rfl⟩
  · rw [if_neg hFits] at hFault ⊢
    subst hFault
    exact ⟨hReceived, rfl⟩

/-
  The text of some tallies has a line for each of them. A
  sink takes as many octets of it as fit, and the outcome
  is the number of the tallies if these are all octets, and
  the fault of the sink otherwise. The tallies are read
  back from the text, and commas in place of its spaces
  make the one format of the other.
-/
theorem writeTallies_fills_sink
    (format : LineFormat)
    (tallies : List Tally)
    (capacity : Nat)
    (overflow : DeviceFault) :
    let text (f : LineFormat) : Text :=
      tallies.flatMap fun t => f.line t ++ ['\n']
    let whole := Utf8.encode (text format)
    let (sink, outcome) :=
      format.writeTallies tallies
        (Sink.ofCapacity capacity overflow)
    sink.received = whole.take (min capacity whole.length) ∧
      outcome =
        (if whole.length ≤ capacity then
          .ok tallies.length
        else
          .error overflow) ∧
      format.readTallies? whole = some tallies ∧
      text .csv = Text.replace ' ' ',' (text .text) := by
  intro text whole
  have hBack : format.readTallies? whole = some tallies :=
    format.readTallies?_document tallies
  have hOther : text .csv = Text.replace ' ' ',' (text .text) :=
    (replace_document .text .csv tallies).symm
  rcases writeTallies_ofCapacity format tallies capacity
      overflow with
    ⟨hReceived, hOutcome⟩
  refine ⟨?_, hOutcome, hBack, hOther⟩
  rw [← List.take_eq_take_min]
  exact hReceived

/- The second line is cut where there is room for eight. -/
example :
    LineFormat.text.writeTallies [⟨1, 5, 22⟩, ⟨0, 0, 7⟩]
        (Sink.ofCapacity 8 .noSpace) =
      ({ room := some 0
         received := Utf8.encode "1 5 22\n0" },
        .error .noSpace) := by
  rfl

end LineFormat

end PageHeat
