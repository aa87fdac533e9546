import PageHeat.Text.Quoted
import PageHeat.Text.Decimal

/-
  The lines of page-access logs.

  A line is a list of fields between commas, each without
  the blanks around it. A baseline line names a page and
  its footprint tag; a checkpoint line also counts the
  accesses to the page. Blank lines hold no record, and
  fields beyond the needed ones are not looked at.

  Key definitions include:
    * `LineFault`
    * `BaselineEntry`
    * `AccessRecord`
    * `fields`
    * `readCount?`
    * `readBaselineLine`
    * `readCheckpointLine`
-/

------------------------------------------------------------
-- Faults
------------------------------------------------------------

namespace PageHeat

/- Why a line of a log is rejected. -/
inductive LineFault where
  | tooFewFields (expected found : Nat)
  | invalidCount (field : Text)
  | invalidUtf8
  deriving Repr, DecidableEq

/- The sentence for a rejected line. -/
def LineFault.message : LineFault → Text
  | .tooFewFields expected found =>
      "expected at least " ++ Decimal.text expected ++
        " fields, found " ++ Decimal.text found
  | .invalidCount field =>
      "invalid access count: " ++ Quoted.text field
  | .invalidUtf8 => "line is not valid UTF-8"

------------------------------------------------------------
-- Records
------------------------------------------------------------

/- A counter is a word of 64 bits. -/
abbrev Count := UInt64

def Count.limit : Nat := UInt64.size - 1

/- One line of a baseline log. -/
structure BaselineEntry where
  pageId : Text
  tag : Text
  deriving Repr, DecidableEq

/- One line of a checkpoint log. -/
structure AccessRecord where
  pageId : Text
  tag : Text
  count : Count
  deriving Repr, DecidableEq

------------------------------------------------------------
-- Reading Lines
------------------------------------------------------------

/- The fields of a line, without the blanks around them. -/
def fields (line : Text) : List Text :=
  (Text.splitOn ',' line).map Text.trim

/- Read a counter in decimal, with an optional plus sign. -/
def readCount? (field : Text) : Option Count :=
  match Decimal.readNatural Count.limit field with
  | .ok n => some (UInt64.ofNat n)
  | .error _ => none

/- Read a line of a baseline log. -/
def readBaselineLine
    (line : Text) :
    Except LineFault (Option BaselineEntry) :=
  if line.IsBlank then
    .ok none
  else
    match fields line with
    | pageId :: tag :: _ => .ok (some ⟨pageId, tag⟩)
    | _ => .error (.tooFewFields 2 1)

/- Read a line of a checkpoint log. -/
def readCheckpointLine
    (line : Text) :
    Except LineFault (Option AccessRecord) :=
  if line.IsBlank then
    .ok none
  else
    match fields line with
    | pageId :: tag :: field :: _ =>
        match readCount? field with
        | some count => .ok (some ⟨pageId, tag, count⟩)
        | none => .error (.invalidCount field)
    | tooFew => .error (.tooFewFields 3 tooFew.length)

end PageHeat
