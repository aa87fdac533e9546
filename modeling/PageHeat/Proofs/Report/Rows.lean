import PageHeat.Log.Line
import PageHeat.Proofs.Text.Decimal
import PageHeat.Proofs.Text.Fields
import PageHeat.Report.Table

/-
  The rows of a table, read back.

  A number is read behind any number of blanks and up to
  its last digit, so the width of its column does not
  matter, nor whether the number is wider than that. The
  label of a row is all that follows the blank behind the
  last number, with the blanks and digits it may have.

  Key definitions include:
    * `readColumn?`
    * `TableRow`
    * `readRow?`
    * `TableFile`
    * `readPath?`
    * `readFile?`

  Key lemmas include:
    * `readColumn?_padLeft`
    * `readRow?_row`
    * `readPath?_skippedLine`
    * `readFile?_malformedLine`
-/

------------------------------------------------------------
-- Columns
------------------------------------------------------------

namespace PageHeat

/-
  Read the number behind some blanks, if it is a counter,
  and keep what follows its digits.
-/
def readColumn? (t : Text) : Option (Nat × Text) :=
  let column := t.dropWhile (· == ' ')
  let digits := column.takeWhile Char.isDigit
  match Decimal.readNatural Count.limit digits with
  | .ok n => some (n, column.dropWhile Char.isDigit)
  | .error _ => none

/- Blanks in front of a number do not matter. -/
theorem readColumn?_blanks
    (k : Nat)
    (t : Text) :
    readColumn? (List.replicate k ' ' ++ t) =
      readColumn? t := by
  induction k with
  | zero => rfl
  | succ k ih =>
      rw [List.replicate_succ, List.cons_append, ← ih]
      rfl

/- A number is read up to the blank behind it. -/
theorem readColumn?_text
    {n : Nat}
    (hFits : n ≤ Count.limit)
    (rest : Text) :
    readColumn? (Decimal.text n ++ ' ' :: rest) =
      some (n, ' ' :: rest) := by
  have hDigit (c : Char) (hMem : c ∈ Decimal.text n) :
      c.isDigit = true :=
    Decimal.isDigit_of_mem_text hMem
  have hBlank : ¬ (' ').isDigit = true := by decide
  have hColumn :
      (Decimal.text n ++ ' ' :: rest).dropWhile (· == ' ') =
        Decimal.text n ++ ' ' :: rest := by
    -- The first digit is no blank, so nothing is dropped.
    rcases hText : Decimal.text n with _ | ⟨c, digits⟩
    · exact absurd hText (Decimal.isDigits_text n).1
    · have hFirst : c.isDigit = true :=
        hDigit c (hText ▸ List.mem_cons_self)
      have hNot : ¬ (c == ' ') = true := by
        intro hEq
        rw [eq_of_beq hEq] at hFirst
        exact hBlank hFirst
      exact List.dropWhile_cons_of_neg hNot
  have hDigits :
      (Decimal.text n ++ ' ' :: rest).takeWhile
          Char.isDigit = Decimal.text n := by
    rw [List.takeWhile_append_of_pos hDigit,
      List.takeWhile_cons_of_neg hBlank, List.append_nil]
  have hRest :
      (Decimal.text n ++ ' ' :: rest).dropWhile
          Char.isDigit = ' ' :: rest := by
    rw [List.dropWhile_append_of_pos hDigit,
      List.dropWhile_cons_of_neg hBlank]
  have hRead :
      Decimal.readNatural Count.limit (Decimal.text n) =
        .ok n :=
    (Decimal.readNatural_eq_ok_iff _ _ n).mpr
      ⟨.inl (Decimal.isDigits_text n), hFits⟩
  simp only [readColumn?, hColumn, hDigits, hRest, hRead]

/- A number is read back from a column of any width. -/
theorem readColumn?_padLeft
    {n : Nat}
    (hFits : n ≤ Count.limit)
    (width : Nat)
    (rest : Text) :
    readColumn?
        (Text.padLeft width (Decimal.text n) ++
          ' ' :: rest) =
      some (n, ' ' :: rest) := by
  rw [Text.padLeft, Text.padWith, List.append_assoc,
    readColumn?_blanks, readColumn?_text hFits]

theorem readColumn?_cons (t : Text) :
    readColumn? (' ' :: t) = readColumn? t :=
  readColumn?_blanks 1 t

------------------------------------------------------------
-- Rows
------------------------------------------------------------

/- What stands in a row of the table. -/
structure TableRow where
  lines : Nat
  skipped : Nat
  malformed : Nat
  label : Text
  deriving Repr, DecidableEq

/- Read three numbers and the label behind a blank. -/
def readRow? (t : Text) : Option TableRow := do
  let (lines, t) ← readColumn? t
  let (skipped, t) ← readColumn? t
  let (malformed, t) ← readColumn? t
  let label ← Text.stripPrefix? " " t
  some ⟨lines, skipped, malformed, label⟩

/- A row is read back, whatever its label is. -/
theorem readRow?_row
    {lines skipped malformed : Nat}
    (hLines : lines ≤ Count.limit)
    (hSkipped : skipped ≤ Count.limit)
    (hMalformed : malformed ≤ Count.limit)
    (label : Text) :
    readRow? (Summary.row lines skipped malformed label) =
      some ⟨lines, skipped, malformed, label⟩ := by
  have hRow :
      Summary.row lines skipped malformed label =
        Text.padLeft 9 (Decimal.text lines) ++ ' ' ::
          (Text.padLeft 8 (Decimal.text skipped) ++ ' ' ::
            (Text.padLeft 10 (Decimal.text malformed) ++
              ' ' :: label)) := by
    simp only [Summary.row, List.append_assoc]
    rfl
  have hLabel :
      Text.stripPrefix? " " (' ' :: label) = some label :=
    Text.stripPrefix?_append " " label
  simp only [hRow, readRow?, readColumn?_cons, hLabel,
    readColumn?_padLeft hLines, readColumn?_padLeft hSkipped,
    readColumn?_padLeft hMalformed, Option.bind_eq_bind,
    Option.bind_some]

------------------------------------------------------------
-- Listed Items
------------------------------------------------------------

/- What stands in the line of a log with malformed lines. -/
structure TableFile where
  path : Text
  lines : Nat
  deriving Repr, DecidableEq

/- The line tells the path as it is shown. -/
def TableFile.ofFile (file : MalformedFile) : TableFile where
  path := file.path.shown
  lines := file.lines

/- Read the path behind an indentation. -/
def readPath? (t : Text) : Option Text :=
  Text.stripPrefix? "  " t

/- Read a number and the path behind a blank. -/
def readFile? (t : Text) : Option TableFile := do
  let (lines, t) ← readColumn? t
  let path ← Text.stripPrefix? " " t
  some ⟨path, lines⟩

/- A skipped checkpoint is read back from its line. -/
theorem readPath?_skippedLine (path : Path) :
    readPath? (Summary.skippedLine path) =
      some path.shown :=
  Text.stripPrefix?_append "  " path.shown

/- A log with malformed lines is read back from its line. -/
theorem readFile?_malformedLine
    {file : MalformedFile}
    (hFits : file.lines ≤ Count.limit) :
    readFile? (Summary.malformedLine file) =
      some (TableFile.ofFile file) := by
  have hLine :
      Summary.malformedLine file =
        ' ' :: ' ' ::
          (Text.padLeft 6 (Decimal.text file.lines) ++
            ' ' :: file.path.shown) := by
    simp only [Summary.malformedLine, List.append_assoc]
    rfl
  have hPath :
      Text.stripPrefix? " " (' ' :: file.path.shown) =
        some file.path.shown :=
    Text.stripPrefix?_append " " file.path.shown
  simp only [hLine, readFile?, readColumn?_cons, hPath,
    readColumn?_padLeft hFits, Option.bind_eq_bind,
    Option.bind_some, TableFile.ofFile]

end PageHeat
