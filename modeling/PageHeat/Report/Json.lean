import PageHeat.Report.Basic
import PageHeat.Text.Decimal

/-
  The summary as a JSON document.

  A document is laid out with two spaces of indentation and
  one item or field on a line; an empty list is written as
  two brackets. Fields keep their order. Only a summary
  whose paths are texts is kept as a document.

  Key definitions include:
    * `Json`
    * `Json.pretty`
    * `Summary.toJson`
    * `Summary.document`
-/

------------------------------------------------------------
-- Values
------------------------------------------------------------

namespace PageHeat

/- The JSON values that reports are made of. -/
inductive Json where
  | text (t : Text)
  | number (n : Nat)
  | list (items : List Json)
  | object (fields : List (Text × Json))
  deriving Repr

namespace Json

------------------------------------------------------------
-- Strings
------------------------------------------------------------

/- The digits of a control character, four of them. -/
def controlDigits (c : Char) : Text :=
  let digits := Nat.toDigits 16 c.toNat
  List.replicate (4 - digits.length) '0' ++ digits

/- One character of a string. -/
def escape (c : Char) : Text :=
  match c with
  | '"' => "\\\""
  | '\\' => "\\\\"
  | '\n' => "\\n"
  | '\r' => "\\r"
  | '\t' => "\\t"
  | '\x08' => "\\b"
  | '\x0c' => "\\f"
  | c =>
      if c.toNat < 0x20 then
        "\\u" ++ controlDigits c
      else
        [c]

/- A text as a string. -/
def quote (t : Text) : Text :=
  "\"" ++ t.flatMap escape ++ "\""

------------------------------------------------------------
-- Layout
------------------------------------------------------------

/- A line end and the indentation of the next line. -/
def newLine (depth : Nat) : Text :=
  '\n' :: List.replicate (2 * depth) ' '

mutual

/- A value that starts at a given depth. -/
def pretty (depth : Nat) : Json → Text
  | .text t => quote t
  | .number n => Decimal.text n
  | .list [] => "[]"
  | .list (item :: items) =>
      "[" ++ prettyItems (depth + 1) (item :: items) ++
        newLine depth ++ "]"
  | .object [] => "\x7b\x7d"
  | .object (field :: fields) =>
      "\x7b" ++ prettyFields (depth + 1) (field :: fields) ++
        newLine depth ++ "\x7d"

/- The items of a list, each on a line. -/
def prettyItems (depth : Nat) : List Json → Text
  | [] => []
  | [item] => newLine depth ++ pretty depth item
  | item :: next :: rest =>
      newLine depth ++ pretty depth item ++ "," ++
        prettyItems depth (next :: rest)

/- The fields of an object, each on a line. -/
def prettyFields (depth : Nat) : List (Text × Json) → Text
  | [] => []
  | [(key, value)] =>
      newLine depth ++ quote key ++ ": " ++
        pretty depth value
  | (key, value) :: next :: rest =>
      newLine depth ++ quote key ++ ": " ++
        pretty depth value ++ "," ++
        prettyFields depth (next :: rest)

end

end Json

------------------------------------------------------------
-- Reports As Values
------------------------------------------------------------

/- A log with skipped lines as a value. -/
def MalformedFile.toJson (file : MalformedFile) : Json :=
  .object
    [ ("path", .text file.path.shown),
      ("lines", .number file.lines) ]

/- The report of a benchmark as a value. -/
def Report.toJson (r : Report) : Json :=
  .object
    [ ("name", .text r.name),
      ("output", .text r.output.shown),
      ("lines_written", .number r.linesWritten),
      ("skipped_checkpoints",
        .list (r.skipped.map fun path => .text path.shown)),
      ("malformed_files",
        .list (r.malformed.map MalformedFile.toJson)) ]

/- A benchmark that failed as a value. -/
def Failure.toJson (f : Failure) : Json :=
  .object [("name", .text f.name), ("reason", .text f.reason)]

namespace Summary

/- A summary as a value. -/
def toJson (s : Summary) : Json :=
  .object
    [ ("benchmarks", .list (s.reports.map Report.toJson)),
      ("failed", .list (s.failures.map Failure.toJson)) ]

/- A summary as a document. -/
def document (s : Summary) : Text :=
  s.toJson.pretty 0

end Summary

end PageHeat
