import PageHeat.Toml.Basic
import PageHeat.Unicode.RangeSet

/-
  Blanks, comments, keys and strings of TOML documents.

  Every reader takes the front of a text and returns what
  it means with the rest, or nothing if it does not stand
  there.

  Key definitions include:
    * `Toml.skipBlanks`
    * `Toml.skipLines`
    * `Toml.endLine`
    * `Toml.readString`
    * `Toml.readKey`
-/

------------------------------------------------------------
-- Blanks And Line Ends
------------------------------------------------------------

namespace PageHeat

namespace Toml

def isSpace (c : Char) : Bool :=
  c == ' ' || c == '\t'

/- Pass over spaces and tabs. -/
def skipBlanks (t : Text) : Text :=
  t.dropWhile isSpace

/- What is behind the end of a line. -/
def newLine? : Text → Option Text
  | '\n' :: rest => some rest
  | '\r' :: '\n' :: rest => some rest
  | _ => none

/- A character that may stand in a comment. -/
def isPrintable (c : Char) : Bool :=
  c == '\t' || (0x20 ≤ c.toNat && c.toNat != 0x7F)

/- Pass over a comment up to the end of its line. -/
def skipComment (t : Text) : Text :=
  match t with
  | '#' :: rest => rest.dropWhile isPrintable
  | t => t

/- What is behind a line, if nothing more stands on it. -/
def endLine (t : Text) : Option Text :=
  match skipComment (skipBlanks t) with
  | [] => some []
  | t => newLine? t

/- Pass over blanks, comments and the ends of lines. -/
def skipLines : Nat → Text → Text
  | 0, t => t
  | fuel + 1, t =>
      let t := skipBlanks t
      match newLine? (skipComment t) with
      | some rest => skipLines fuel rest
      | none => t

------------------------------------------------------------
-- Escapes
------------------------------------------------------------

/- The character of a number of hexadecimal digits. -/
def codePoint (count : Nat) (t : Text) : Option (Char × Text) := do
  let digits := t.take count
  if digits.length ≠ count then none
  let values ← digits.mapM RangeSet.hexValue?
  let n := values.foldl (fun n d => n * 16 + d) 0
  if n.isValidChar then
    some (Char.ofNat n, t.drop count)
  else
    none

/- Read what is behind a backslash. -/
def readEscape : Text → Option (Char × Text)
  | 'b' :: rest => some ('\x08', rest)
  | 't' :: rest => some ('\t', rest)
  | 'n' :: rest => some ('\n', rest)
  | 'f' :: rest => some ('\x0c', rest)
  | 'r' :: rest => some ('\r', rest)
  | '"' :: rest => some ('"', rest)
  | '\\' :: rest => some ('\\', rest)
  | 'u' :: rest => codePoint 4 rest
  | 'U' :: rest => codePoint 8 rest
  | _ => none

/-
  What is behind the end of a line with all blanks and line
  ends that follow, if there is nothing but blanks before.
-/
def skipBreak (fuel : Nat) (t : Text) : Option Text :=
  (newLine? (skipBlanks t)).map (skipAll fuel)
where
  /- Pass over blanks and the ends of lines. -/
  skipAll : Nat → Text → Text
    | 0, t => t
    | fuel + 1, t =>
        let t := skipBlanks t
        match newLine? t with
        | some rest => skipAll fuel rest
        | none => t

------------------------------------------------------------
-- Strings
------------------------------------------------------------

/- Read a string on one line behind its opening quote. -/
def readPlain (raw : Bool) (quote : Char) :
    Nat → Text → Option (Text × Text)
  | 0, _ => none
  | _ + 1, [] => none
  | fuel + 1, c :: rest =>
      if c = quote then
        some ([], rest)
      else if c = '\\' ∧ raw = false then do
        let (d, rest) ← readEscape rest
        let (t, rest) ← readPlain raw quote fuel rest
        some (d :: t, rest)
      else if isPrintable c then do
        let (t, rest) ← readPlain raw quote fuel rest
        some (c :: t, rest)
      else
        none

/- The number of quotes in front of a text. -/
def quotesAhead (quote : Char) (t : Text) : Nat :=
  (t.takeWhile (· == quote)).length

/-
  Read a string over several lines behind its three opening
  quotes. Up to two quotes may stand before the three that
  close it.
-/
def readLong (raw : Bool) (quote : Char) :
    Nat → Text → Option (Text × Text)
  | 0, _ => none
  | _ + 1, [] => none
  | fuel + 1, c :: rest =>
      if c = quote then
        let ahead := quotesAhead quote (c :: rest)
        if ahead < 3 then do
          let (t, rest) ← readLong raw quote fuel rest
          some (c :: t, rest)
        else
          let inside := min (ahead - 3) 2
          some (List.replicate inside quote,
            (c :: rest).drop (inside + 3))
      else if c = '\\' ∧ raw = false then
        match skipBreak rest.length rest with
        | some rest => readLong raw quote fuel rest
        | none => do
            let (d, rest) ← readEscape rest
            let (t, rest) ← readLong raw quote fuel rest
            some (d :: t, rest)
      else
        match newLine? (c :: rest) with
        | some rest => do
            let (t, rest) ← readLong raw quote fuel rest
            some ('\n' :: t, rest)
        | none =>
            if isPrintable c then do
              let (t, rest) ← readLong raw quote fuel rest
              some (c :: t, rest)
            else
              none

/- The text without a line end in front. -/
def skipFirstBreak (t : Text) : Text :=
  (newLine? t).getD t

def readString : Text → Option (Text × Text)
  | '"' :: '"' :: '"' :: rest =>
      readLong false '"' (rest.length + 1) (skipFirstBreak rest)
  | '"' :: rest => readPlain false '"' (rest.length + 1) rest
  | '\'' :: '\'' :: '\'' :: rest =>
      readLong true '\'' (rest.length + 1) (skipFirstBreak rest)
  | '\'' :: rest => readPlain true '\'' (rest.length + 1) rest
  | _ => none

------------------------------------------------------------
-- Keys
------------------------------------------------------------

/- A character of a key without quotes. -/
def isKeyCharacter (c : Char) : Bool :=
  c.isAlphanum || c == '_' || c == '-'

/- Read one part of a key with the blanks around it. -/
def readKeyPart (t : Text) : Option (Text × Text) := do
  let t := skipBlanks t
  let (part, rest) ←
    match t with
    | '"' :: rest => readPlain false '"' (rest.length + 1) rest
    | '\'' :: rest => readPlain true '\'' (rest.length + 1) rest
    | t =>
        match t.span isKeyCharacter with
        | ([], _) => none
        | (part, rest) => some (part, rest)
  some (part, skipBlanks rest)

/- The parts that a key may have, and one more. -/
def depthLimit : Nat := 80

/- Read the parts of a key between dots. -/
def readKeyParts : Nat → Text → Option (List Text × Text)
  | 0, _ => none
  | fuel + 1, t => do
      let (part, rest) ← readKeyPart t
      match rest with
      | '.' :: rest => do
          let (parts, rest) ← readKeyParts fuel rest
          some (part :: parts, rest)
      | rest => some ([part], rest)

/- Read a key: the parts before the last one, and that. -/
def readKey (t : Text) : Option (List Text × Text × Text) := do
  let (parts, rest) ← readKeyParts (depthLimit - 1) t
  let last ← parts.getLast?
  some (parts.dropLast, last, rest)

end Toml

end PageHeat
