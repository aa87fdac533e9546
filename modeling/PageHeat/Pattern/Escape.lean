import PageHeat.Pattern.Modes
import PageHeat.Unicode.Age
import PageHeat.Unicode.Property
import PageHeat.Unicode.ScriptExtension

/-
  Escapes in patterns: what follows a backslash.

  An escape is a character by its sign, its letter, or its
  code point, a class of characters by its letter or its
  Unicode property, or a boundary.

  Key definitions include:
    * `Escape`
    * `propertySet?`
    * `readEscape`
-/

------------------------------------------------------------
-- Escapes
------------------------------------------------------------

namespace PageHeat

/- What an escape stands for. -/
inductive Escape where
  | character (c : Char)
  | set (members : RangeSet)
  | boundary (b : Boundary)
  deriving Repr, DecidableEq

/- The signs that have a meaning in patterns. -/
def isMeaningful (c : Char) : Bool :=
  c ∈ ("\\.+*?()|[]\x7b\x7d^$#&-~" : Text)

/- The signs that may be escaped. -/
def isEscapable (c : Char) : Bool :=
  isMeaningful c ||
    (c.toNat < 0x80 && !c.isAlphanum && c != '<' && c != '>')

def letterCharacter? : Char → Option Char
  | 'a' => some '\x07'
  | 'f' => some '\x0c'
  | 't' => some '\t'
  | 'n' => some '\n'
  | 'r' => some '\r'
  | 'v' => some '\x0b'
  | _ => none

------------------------------------------------------------
-- Code Points
------------------------------------------------------------

/- The character of a code point. -/
def characterAt? (n : Nat) : Option Char :=
  if n.isValidChar then some (Char.ofNat n) else none

/- Read a code point of a fixed number of digits. -/
def readDigits?
    (m : Modes) :
    Nat → Nat → Text → Option (Nat × Text)
  | 0, n, t => some (n, t)
  | k + 1, n, t =>
      match m.rest t with
      | [] => none
      | c :: rest =>
          match RangeSet.hexValue? c with
          | some d => readDigits? m k (n * 16 + d) rest
          | none => none

/- Read the code point after a letter. -/
def readCodePoint
    (m : Modes)
    (digits : Nat)
    (t : Text) : Option (Char × Text) :=
  match m.rest t with
  | '\x7b' :: rest => do
      let (inside, rest) ← m.untilBrace false rest
      if inside.isEmpty then none
      let values ← inside.mapM RangeSet.hexValue?
      let c ← characterAt?
        (values.foldl (fun n d => n * 16 + d) 0)
      some (c, rest)
  | t => do
      let (n, rest) ← readDigits? m digits 0 t
      let c ← characterAt? n
      some (c, rest)

/-
  Among the octets of ASCII alone, two digits that are
  greater name no character.
-/
def isBareOctet (m : Modes) (t : Text) (c : Char) : Bool :=
  !m.everyScript && (m.rest t).head? != some '\x7b' &&
    0x80 ≤ c.toNat

------------------------------------------------------------
-- Properties
------------------------------------------------------------

/-
  The name of a property in lower case, without separators
  and without a leading `is`, which alone is kept in front
  of a lone `c`.
-/
def propertyName (t : Text) : String :=
  let lower (c : Char) :=
    if c.isUpper then Char.ofNat (c.toNat + 32) else c
  let t := t.map lower
  let short := (Text.stripPrefix? "is" t).getD t
  let kept :=
    short.filter fun c =>
      c.toNat < 0x80 && c != ' ' && c != '_' && c != '-'
  if kept = ['c'] ∧ short ≠ t then "isc"
  else Text.toString kept

/- The general categories and the three wider classes. -/
def categorySet? (name : String) : Option RangeSet :=
  match name with
  | "any" => some RangeSet.full
  | "ascii" => some [(0, 0x7F)]
  | "assigned" => some (RangeSet.complement Unicode.unassigned)
  | name => Unicode.category? name

/- The members of a class that is named without a key. -/
def plainSet? (name : String) : Option RangeSet :=
  let asProperty :=
    if name = "cf" ∨ name = "sc" ∨ name = "lc" then none
    else Unicode.property? name
  asProperty <|> categorySet? name <|> Unicode.script? name

/- The members of a class that is named by key and value. -/
def keyedSet? (key value : String) : Option RangeSet :=
  match key with
  | "gc" | "generalcategory" => categorySet? value
  | "sc" | "script" => Unicode.script? value
  | "scx" | "scriptextensions" =>
      Unicode.scriptExtension? value
  | "age" => Unicode.age? value
  | "gcb" | "graphemeclusterbreak" =>
      Unicode.role? Unicode.clusterRoles value
  | "wb" | "wordbreak" =>
      Unicode.role? Unicode.wordRoles value
  | "sb" | "sentencebreak" =>
      Unicode.role? Unicode.sentenceRoles value
  | _ => none

/- Split a text at the first occurrence of a separator. -/
def splitFirst? (sep : Text) : Text → Option (Text × Text)
  | [] => none
  | c :: rest =>
      match Text.stripPrefix? sep (c :: rest) with
      | some behind => some ([], behind)
      | none =>
          (splitFirst? sep rest).map
            fun (before, behind) => (c :: before, behind)

/- The members of a class, and whether they are excluded. -/
def propertySet? (t : Text) : Option (RangeSet × Bool) :=
  let keyed (parts : Text × Text) :=
    keyedSet? (propertyName parts.1) (propertyName parts.2)
  match splitFirst? "!=" t with
  | some parts => (keyed parts).map fun s => (s, true)
  | none =>
      match splitFirst? ":" t <|> splitFirst? "=" t with
      | some parts => (keyed parts).map fun s => (s, false)
      | none =>
          (plainSet? (propertyName t)).map fun s => (s, false)

/- Read the property behind its letter. -/
def readProperty
    (m : Modes)
    (negated : Bool)
    (t : Text) : Option (Escape × Text) := do
  let (name, rest) ←
    match m.rest t with
    | [] => none
    | '\\' :: _ => none
    | '\x7b' :: rest => m.untilBrace false rest
    | c :: rest => some ([c], rest)
  if !m.everyScript then none
  let (members, excluded) ← propertySet? name
  let members ←
    m.signed? (negated != excluded) (m.foldSet members)
  some (.set members, rest)

------------------------------------------------------------
-- Classes
------------------------------------------------------------

/- The class of a letter in lower case. -/
def letterClass? (m : Modes) : Char → Option RangeSet
  | 'd' =>
      some
        (if m.everyScript then Unicode.digitSet
         else [(0x30, 0x39)])
  | 's' =>
      some
        (if m.everyScript then Unicode.spaceSet
         else [(0x09, 0x0D), (0x20, 0x20)])
  | 'w' =>
      some
        (if m.everyScript then Unicode.wordSet
         else [(0x30, 0x39), (0x41, 0x5A), (0x5F, 0x5F),
               (0x61, 0x7A)])
  | _ => none

/- The edges of words that have a name in braces. -/
def namedEdge? (name : Text) : Option WordEdge :=
  if name = "start".toList then some .start
  else if name = "end".toList then some .finish
  else if name = "start-half".toList then some .startHalf
  else if name = "end-half".toList then some .finishHalf
  else none

/- The characters of the names of edges. -/
def isEdgeLetter (c : Char) : Bool :=
  c.isAlpha || c == '-'

/-
  Read the edge behind its letter. A brace that is followed
  by something else belongs to a repetition.
-/
def readEdge
    (m : Modes)
    (t : Text) : Option (WordEdge × Text) :=
  match t with
  | '\x7b' :: inside =>
      match m.rest inside with
      | [] => none
      | c :: _ =>
          if isEdgeLetter c then do
            let (name, rest) ← m.untilBrace false inside
            let edge ← namedEdge? name
            some (edge, rest)
          else
            some (.border, t)
  | t => some (.border, t)

------------------------------------------------------------
-- Reading
------------------------------------------------------------

/- Read what follows a backslash. -/
def readEscape
    (m : Modes) :
    Text → Option (Escape × Text)
  | [] => none
  | c :: rest =>
      if c = 'x' then do
        let (d, behind) ← readCodePoint m 2 rest
        if isBareOctet m rest d then none
        some (.character d, behind)
      else if c = 'u' then do
        let (d, rest) ← readCodePoint m 4 rest
        some (.character d, rest)
      else if c = 'U' then do
        let (d, rest) ← readCodePoint m 8 rest
        some (.character d, rest)
      else if c = 'p' then
        readProperty m false rest
      else if c = 'P' then
        readProperty m true rest
      else if c = 'b' then do
        let (edge, rest) ← readEdge m rest
        some (.boundary (.word edge m.everyScript), rest)
      else if c = 'B' then
        some (.boundary (.word .inside m.everyScript), rest)
      else if c = '<' then
        some (.boundary (.word .start m.everyScript), rest)
      else if c = '>' then
        some (.boundary (.word .finish m.everyScript), rest)
      else if c = 'A' then
        some (.boundary .textStart, rest)
      else if c = 'z' then
        some (.boundary .textEnd, rest)
      else if isEscapable c then
        some (.character c, rest)
      else
        match letterCharacter? c, letterClass? m c.toLower with
        | some d, _ => some (.character d, rest)
        | none, some members => do
            let members ← m.signed? c.isUpper members
            some (.set members, rest)
        | none, none => none

end PageHeat
