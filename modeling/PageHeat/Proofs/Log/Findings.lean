import PageHeat.Proofs.Log.Baseline
import PageHeat.Proofs.Log.Decoding

/-
  What readers find in logs.

  A reader of lines finds a record or a fault in a line, or
  nothing if it is blank. What it finds in a log are the
  findings of its lines in a row, and whoever takes the lines
  of a log one by one, and does nothing for a blank one, goes
  by these findings alone.

  A reader that takes a line by its fields does not look at
  the blanks around them, nor at the line feed behind.

  Key definitions include:
    * `finding`
    * `findings`

  Key lemmas include:
    * `fields_prepend`
    * `findings_insert_line`
    * `findings_replace_line`
    * `foldl_eq_foldl_findings`
-/

------------------------------------------------------------
-- Blanks In Front Of Lines
------------------------------------------------------------

namespace PageHeat

theorem Text.trim_prepend
    {w : Text}
    (hBlank : w.IsBlank)
    (t : Text) :
    Text.trim (w ++ t) = Text.trim t := by
  rw [Text.trim, Text.trim, Text.trimStart_append hBlank]

/- Blanks in front of a line do not change its fields. -/
theorem fields_prepend
    {w : Text}
    (hBlank : w.IsBlank)
    (line : Text) :
    fields (w ++ line) = fields line := by
  have hNone : ',' ∉ w := hBlank.notMem (by decide)
  by_cases hComma : ',' ∈ line
  · rcases List.eq_append_cons_of_mem hComma with
      ⟨first, rest, rfl, hFirst⟩
    have hLonger : ',' ∉ w ++ first := by
      simp [hNone, hFirst]
    rw [← List.append_assoc, fields_append_comma,
      fields_append_comma, fields_of_notMem hLonger,
      fields_of_notMem hFirst, Text.trim_prepend hBlank]
  · have hLonger : ',' ∉ w ++ line := by
      simp [hNone, hComma]
    rw [fields_of_notMem hLonger, fields_of_notMem hComma,
      Text.trim_prepend hBlank]

------------------------------------------------------------
-- Findings
------------------------------------------------------------

variable {β : Type}
variable {reader : Text → Except LineFault (Option β)}

/- A record or a fault, or nothing at all. -/
def found? :
    Except LineFault (Option β) →
      Option (Except LineFault β)
  | .ok none => none
  | .ok (some record) => some (.ok record)
  | .error fault => some (.error fault)

/- What a reader finds in the octets of a line. -/
def finding
    (reader : Text → Except LineFault (Option β))
    (piece : Bytes) : Option (Except LineFault β) :=
  found? ((readPiece piece).bind reader)

/- What a reader finds in a log, line by line. -/
def findings
    (reader : Text → Except LineFault (Option β))
    (bytes : Bytes) : List (Except LineFault β) :=
  (cutLines bytes).filterMap (finding reader)

theorem finding_encode (line : Text) :
    finding reader (Utf8.encode line) =
      found? (reader line) := by
  rw [finding, readPiece_encode]
  rfl

theorem finding_of_noText
    {piece : Bytes}
    (hNone : ∀ line, Utf8.encode line ≠ piece) :
    finding reader piece = some (.error .invalidUtf8) := by
  rw [finding, readPiece,
    (Utf8.decode_eq_none_iff piece).mpr hNone]
  rfl

theorem ReadsByFields.finding_of_isBlank
    (hReader : ReadsByFields reader)
    {line : Text}
    (hBlank : line.IsBlank) :
    finding reader (Utf8.encode line) = none := by
  rw [finding_encode, hReader.blank line hBlank]
  rfl

/- A small blank octet behind a line is not looked at. -/
theorem ReadsByFields.finding_concat
    (hReader : ReadsByFields reader)
    {b : UInt8}
    (hSmall : b.toNat < 0x80)
    (hBlank : Text.isBlank (Char.ofNat b.toNat) = true)
    (piece : Bytes) :
    finding reader (piece ++ [b]) = finding reader piece := by
  have hNone : Utf8.decode [] = some [] := rfl
  unfold finding readPiece
  rw [Utf8.decode_append_cons hSmall, hNone]
  cases Utf8.decode piece with
  | none => rfl
  | some line =>
      have hText : Text.IsBlank [Char.ofNat b.toNat] := by
        simp [Text.IsBlank, hBlank]
      exact congrArg found? (hReader.append hText line)

------------------------------------------------------------
-- Findings Of Logs
------------------------------------------------------------

/- Behind a line end, the findings start anew. -/
theorem findings_append
    {front : Bytes}
    (hEnds : EndsLine front)
    (back : Bytes) :
    findings reader (front ++ back) =
      findings reader front ++ findings reader back := by
  rw [findings, cutLines_append hEnds, List.filterMap_append]
  rfl

namespace ReadsByFields

variable (hReader : ReadsByFields reader)
include hReader

theorem finding_lineFeed (piece : Bytes) :
    finding reader (piece ++ [lineFeed]) =
      finding reader piece :=
  hReader.finding_concat (by decide) (by decide) piece

/- What is found in an unfinished line. -/
theorem findings_of_notMem
    {begun : Bytes}
    (hBegun : lineFeed ∉ begun) :
    findings reader begun = (finding reader begun).toList := by
  by_cases hNil : begun = []
  · subst hNil
    exact
      (congrArg Option.toList
        (hReader.finding_of_isBlank Text.isBlank_nil)).symm
  · rw [findings, cutLines_of_notMem hBegun hNil,
      List.filterMap_cons]
    cases finding reader begun with
    | none => rfl
    | some found => rfl

/- What is found in a line, and in those behind it. -/
theorem findings_append_lineFeed
    {begun : Bytes}
    (hBegun : lineFeed ∉ begun)
    (rest : Bytes) :
    findings reader (begun ++ lineFeed :: rest) =
      (finding reader begun).toList ++
        findings reader rest := by
  rw [findings, cutLines_append_lineFeed hBegun,
    List.filterMap_cons, hReader.finding_lineFeed]
  cases finding reader begun with
  | none => rfl
  | some found => rfl

/-
  What is found in a line behind which the log ends, or goes
  on with a line feed.
-/
theorem findings_append_of_head
    {begun back : Bytes}
    (hBegun : lineFeed ∉ begun)
    (hBack : ∀ b, back.head? = some b → b = lineFeed) :
    findings reader (begun ++ back) =
      (finding reader begun).toList ++
        findings reader (back.drop 1) := by
  cases back with
  | nil =>
      rw [List.append_nil, hReader.findings_of_notMem hBegun,
        List.drop_nil]
      exact (List.append_nil _).symm
  | cons b rest =>
      rw [hBack b rfl, hReader.findings_append_lineFeed hBegun]
      rfl

/- A line that is inserted adds what is found in it. -/
theorem findings_insert_line
    {front line : Bytes}
    (hFront : EndsLine front)
    (hLine : lineFeed ∉ line)
    (back : Bytes) :
    findings reader (front ++ (line ++ lineFeed :: back)) =
      findings reader front ++
        ((finding reader line).toList ++
          findings reader back) := by
  rw [findings_append hFront,
    hReader.findings_append_lineFeed hLine]

/- A line can be replaced if the same is found in it. -/
theorem findings_replace_line
    {front old new back : Bytes}
    (hFront : EndsLine front)
    (hOld : lineFeed ∉ old)
    (hNew : lineFeed ∉ new)
    (hBack : ∀ b, back.head? = some b → b = lineFeed)
    (hSame : finding reader new = finding reader old) :
    findings reader (front ++ (new ++ back)) =
      findings reader (front ++ (old ++ back)) := by
  rw [findings_append hFront, findings_append hFront,
    hReader.findings_append_of_head hNew hBack,
    hReader.findings_append_of_head hOld hBack, hSame]

end ReadsByFields

------------------------------------------------------------
-- Going By Findings
------------------------------------------------------------

/-
  Lines that are taken one by one act by what is found in
  them, if a line does so and a blank one does nothing.
-/
theorem foldl_eq_foldl_findings
    {σ : Type}
    {absorb : σ → Except LineFault Text → σ}
    {add : σ → Except LineFault β → σ}
    (hStep :
      ∀ state line,
        absorb state line =
          (found? (line.bind reader)).elim state (add state))
    (bytes : Bytes)
    (state : σ) :
    ((cutLines bytes).map readPiece).foldl absorb state =
      (findings reader bytes).foldl add state := by
  rw [findings]
  generalize cutLines bytes = pieces
  induction pieces generalizing state with
  | nil => rfl
  | cons piece pieces ih =>
      rw [List.map_cons, List.foldl_cons, hStep, ih,
        List.filterMap_cons]
      unfold finding
      cases found? ((readPiece piece).bind reader) with
      | none => rfl
      | some found => rfl

/-
  A fault among findings acts as it does in the end, if the
  other findings leave it alone.
-/
theorem foldl_insert_fault
    {σ : Type}
    {add : σ → Except LineFault β → σ}
    {count : σ → σ}
    (hFault :
      ∀ state fault, add state (.error fault) = count state)
    (hOther :
      ∀ state found,
        add (count state) found = count (add state found))
    (front back : List (Except LineFault β))
    (fault : LineFault)
    (state : σ) :
    (front ++ .error fault :: back).foldl add state =
      count ((front ++ back).foldl add state) := by
  rw [List.foldl_append, List.foldl_append, List.foldl_cons,
    hFault]
  exact List.foldl_hom count hOther

end PageHeat
