import PageHeat.Toml.Lexical
import PageHeat.Toml.Number

/-
  Reading TOML documents.

  A document is a list of lines: keys with values, headers
  of tables, comments. A value may reach over several lines
  only inside brackets or in a long string.

  Key definitions include:
    * `Toml.readValue`
    * `Toml.readLine`
    * `Toml.readDocument`
-/

------------------------------------------------------------
-- Lists And Tables On A Line
------------------------------------------------------------

namespace PageHeat

namespace Toml

/- How a value is read from the front of a text. -/
abbrev ValueReader := Text → Option (Value × Text)

/-
  Read the items of a list up to its closing bracket. A
  comma may stand behind the last item.
-/
def readItems (readOne : ValueReader) :
    Nat → Text → Option (List Value × Text)
  | 0, _ => none
  | fuel + 1, t =>
      match skipLines t.length t with
      | ']' :: rest => some ([], rest)
      | t => do
          let (v, rest) ← readOne t
          match skipLines rest.length rest with
          | ']' :: rest => some ([v], rest)
          | ',' :: rest => do
              let (vs, rest) ← readItems readOne fuel rest
              some (v :: vs, rest)
          | _ => none

/- Read a key, its value, and the blanks behind it. -/
def readPair
    (readOne : ValueReader)
    (t : Text) : Option (List Text × Text × Value × Text) := do
  let (path, key, rest) ← readKey t
  let rest ← expect '=' rest
  let (v, rest) ← readOne (skipBlanks rest)
  some (path, key, v, skipBlanks rest)

/- Read the pairs between braces, of which there is one. -/
def readPairs (readOne : ValueReader) :
    Nat → Entries → Text → Option (Entries × Text)
  | 0, _, _ => none
  | fuel + 1, es, t => do
      let (path, key, v, rest) ← readPair readOne t
      let es ← insert path key v es
      match rest with
      | '\x7d' :: rest => some (es, rest)
      | ',' :: rest => readPairs readOne fuel es rest
      | _ => none

/- Read a table behind its opening brace. -/
def readBraces
    (readOne : ValueReader)
    (t : Text) : Option (Value × Text) :=
  match skipBlanks t with
  | '\x7d' :: rest => some (.table .braces [], rest)
  | t => do
      let (es, rest) ← readPairs readOne (t.length + 1) [] t
      some (.table .braces es, rest)

------------------------------------------------------------
-- Values
------------------------------------------------------------

/- Read a value that holds no other values. -/
def readLeaf (t : Text) : Option (Value × Text) :=
  match t with
  | [] => none
  | '"' :: _ =>
      (readString t).map fun (s, rest) => (.string s, rest)
  | '\'' :: _ =>
      (readString t).map fun (s, rest) => (.string s, rest)
  | 't' :: 'r' :: 'u' :: 'e' :: rest =>
      some (.boolean true, rest)
  | 'f' :: 'a' :: 'l' :: 's' :: 'e' :: rest =>
      some (.boolean false, rest)
  | t => readNumeral t

/- Read a value, in which others are nested to a depth. -/
def readValue : Nat → ValueReader
  | 0, t =>
      match t with
      | '[' :: _ => none
      | '\x7b' :: _ => none
      | t => readLeaf t
  | depth + 1, t =>
      match t with
      | '[' :: rest => do
          let (vs, rest) ←
            readItems (readValue depth) (rest.length + 1) rest
          some (.list vs, rest)
      | '\x7b' :: rest => readBraces (readValue depth) rest
      | t => readLeaf t

------------------------------------------------------------
-- Documents
------------------------------------------------------------

/- Read the header of a table behind its brackets. -/
def readHeader
    (close : Text)
    (t : Text) : Option (List Text × Text) := do
  let (path, key, rest) ← readKey t
  let rest ← Text.stripPrefix? close rest
  let rest ← endLine rest
  some (path ++ [key], rest)

/- Read one line into a document. -/
def readLine (d : Draft) (t : Text) : Option (Draft × Text) :=
  match t with
  | '[' :: '[' :: rest => do
      let (path, rest) ← readHeader "]]" rest
      let d ← d.openTables path
      some (d, rest)
  | '[' :: rest => do
      let (path, rest) ← readHeader "]" rest
      let d ← d.openTable path
      some (d, rest)
  | t => do
      let (path, key, v, rest) ←
        readPair (readValue (depthLimit - 1)) t
      let rest ← endLine rest
      let d ← d.add path key v
      some (d, rest)

/- Read lines up to the end of a text. -/
def readLines : Nat → Draft → Text → Option Entries
  | 0, _, _ => none
  | fuel + 1, d, t =>
      let t := skipBlanks t
      match t with
      | [] => d.close
      | t =>
          match endLine t with
          | some rest => readLines fuel d rest
          | none =>
              match readLine d t with
              | some (d, rest) => readLines fuel d rest
              | none => none

/- The entries of a document. -/
def readDocument (t : Text) : Option Entries :=
  let t :=
    match t with
    | '\ufeff' :: rest => rest
    | t => t
  readLines (t.length + 1) { } t

end Toml

end PageHeat
