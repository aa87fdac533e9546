import PageHeat.Pattern.Bracket
import PageHeat.Pattern.Construction
import PageHeat.Pattern.Matching
import PageHeat.Pattern.Weight
import PageHeat.Text.Decimal
import PageHeat.Unicode.Recent

/-
  Reading patterns.

  A pattern is read from the left. Groups may hold a choice
  of sequences, name themselves, and switch modes; a mode
  that is switched within a group lasts to its end.

  Key definitions include:
    * `PatternFault`
    * `Pattern.Reading`
    * `Pattern.parse?`
    * `Pattern.read`
-/

------------------------------------------------------------
-- Faults
------------------------------------------------------------

namespace PageHeat

/- Why a text is no usable pattern. -/
inductive PatternFault where
  | malformed (pattern : Text)
  | tooHeavy
  deriving Repr, DecidableEq

/- The sentence for an unusable pattern. -/
def PatternFault.message : PatternFault → Text
  | .malformed pattern => "regex parse error: " ++ pattern
  | .tooHeavy =>
      "Compiled regex exceeds size limit of " ++
        Decimal.text Machine.roomLimit ++ " bytes."

namespace Pattern

------------------------------------------------------------
-- Pieces
------------------------------------------------------------

/-
  A part of a pattern: how deep it is nested, and whether
  it can be repeated, as a switch of modes cannot.
-/
structure Piece where
  pattern : Pattern
  depth : Nat := 0
  repeatable : Bool := true
  deriving Repr, DecidableEq

/- The depth of parts that are joined. -/
def jointDepth (pieces : List Piece) : Nat :=
  (pieces.map Piece.depth).foldl max 0 + 1

/- Pieces one after the other. -/
def joinSequence (pieces : List Piece) : Piece :=
  match pieces with
  | [] => { pattern := .empty }
  | [piece] => piece
  | pieces =>
      { pattern := sequence (pieces.map Piece.pattern)
        depth := jointDepth pieces }

def joinChoice (pieces : List Piece) : Piece :=
  match pieces with
  | [piece] => piece
  | pieces =>
      { pattern := choice (pieces.map Piece.pattern)
        depth := jointDepth pieces }

------------------------------------------------------------
-- Open Groups
------------------------------------------------------------

/-
  A group that is being read: the modes around it, its
  number if it has one, the branches that are finished and
  the pieces of the branch that is not, the last ones
  first.
-/
structure OpenGroup where
  around : Modes
  number : Option Nat := none
  branches : List Piece := []
  pieces : List Piece := []
  deriving Repr, DecidableEq

namespace OpenGroup

/- The branch that is being read. -/
def branch (g : OpenGroup) : Piece :=
  joinSequence g.pieces.reverse

/- The choice in the group. -/
def whole (g : OpenGroup) : Piece :=
  joinChoice (g.branch :: g.branches).reverse

/- The group as a piece of what is around it. -/
def close (g : OpenGroup) : Piece :=
  let whole := g.whole
  { pattern :=
      match g.number with
      | some n => .group n whole.pattern
      | none => whole.pattern
    depth := whole.depth + 1 }

/- Add a piece to the branch. -/
def push (g : OpenGroup) (piece : Piece) : OpenGroup :=
  { g with pieces := piece :: g.pieces }

end OpenGroup

/-
  A reader between two parts of a pattern: the modes, the
  names and the number of groups so far, and the open
  groups from the innermost outward.
-/
structure Reading where
  modes : Modes := { }
  names : List Text := []
  groups : Nat := 0
  inner : OpenGroup
  outer : List OpenGroup := []
  deriving Repr, DecidableEq

namespace Reading

/- Add a piece to the innermost group. -/
def push (r : Reading) (piece : Piece) : Reading :=
  { r with inner := r.inner.push piece }

/- Add a pattern that has no parts. -/
def pushLeaf (r : Reading) (p : Pattern) : Reading :=
  r.push { pattern := p }

/- Begin a group in which other modes may hold. -/
def openModes (r : Reading) (modes : Modes) : Reading :=
  { r with
    modes := modes
    inner := { around := r.modes }
    outer := r.inner :: r.outer }

/- Begin a group that is numbered. -/
def openGroup (r : Reading) : Reading :=
  { r with
    groups := r.groups + 1
    inner := { around := r.modes, number := some r.groups }
    outer := r.inner :: r.outer }

/- End a group. -/
def closeGroup? (r : Reading) : Option Reading :=
  match r.outer with
  | [] => none
  | around :: outer =>
      some
        { r with
          modes := r.inner.around
          inner := around.push r.inner.close
          outer := outer }

/- Begin the next branch of the innermost group. -/
def nextBranch (r : Reading) : Reading :=
  { r with
    inner :=
      { r.inner with
        branches := r.inner.branch :: r.inner.branches
        pieces := [] } }

/-
  Repeat the last piece. In lazy mode, repetitions prefer
  to be short unless they are marked.
-/
def repeat?
    (r : Reading)
    (least : Nat)
    (most : Option Nat)
    (marked : Bool) : Option Reading :=
  match r.inner.pieces with
  | [] => none
  | last :: pieces =>
      if last.repeatable then
        some
          { r with
            inner :=
              { r.inner with
                pieces :=
                  { pattern :=
                      last.pattern.times least most
                        (r.modes.lazy != marked)
                    depth := last.depth + 1 } :: pieces } }
      else
        none

/- The nesting that is allowed. -/
def depthLimit : Nat := 250

/- The pattern, when every group is closed. -/
def finish? (r : Reading) : Option Pattern :=
  match r.outer with
  | _ :: _ => none
  | [] =>
      let whole := r.inner.whole
      if whole.depth ≤ depthLimit then
        some whole.pattern
      else
        none

end Reading

------------------------------------------------------------
-- Characters And Boundaries
------------------------------------------------------------

def ofCharacter (m : Modes) (c : Char) : Pattern :=
  ofSet (m.foldSet (RangeSet.single c.toNat)) !m.everyScript

/- Any character, or any that ends no line. -/
def anyCharacter? (m : Modes) : Option Pattern :=
  if !m.everyScript then
    none
  else if m.dotAll then
    some (ofSet RangeSet.full false)
  else if m.withReturn then
    some (ofSet
      (RangeSet.complement [(0x0A, 0x0A), (0x0D, 0x0D)])
      false)
  else
    some (ofSet (RangeSet.complement [(0x0A, 0x0A)]) false)

def caret (m : Modes) : Boundary :=
  if m.byLine then .lineStart m.withReturn else .textStart

/- What a dollar sign stands for. -/
def dollar (m : Modes) : Boundary :=
  if m.byLine then .lineEnd m.withReturn else .textEnd

def ofEscape (m : Modes) : Escape → Pattern
  | .character c => ofCharacter m c
  | .set members =>
      ofSet (RangeSet.ofRanges members) !m.everyScript
  | .boundary b => .boundary b

------------------------------------------------------------
-- Groups
------------------------------------------------------------

/- Whether a character may stand in the name of a group. -/
def isNameCharacter (first : Bool) (c : Char) : Bool :=
  if first then
    c == '_' || Unicode.currentAlphabetic.hasChar c
  else
    c == '_' || c == '.' || c == '[' || c == ']' ||
      Unicode.currentAlphanumeric.hasChar c

/- Read the name of a group up to its closing sign. -/
def readName : Text → Option (Text × Text)
  | t =>
      match t.span (· != '>') with
      | ([], _) => none
      | (_, []) => none
      | (c :: name, _ :: rest) =>
          if isNameCharacter true c &&
              name.all (isNameCharacter false) then
            some (c :: name, rest)
          else
            none

/- The ways to begin a group that only looks around. -/
def lookaroundSigns : List Text :=
  ["?=", "?!", "?<=", "?<!"]

/- The group with a name, behind the sign before the name. -/
def takeNamedGroup
    (r : Reading)
    (t : Text) : Option (Reading × Text) := do
  let (name, rest) ← readName t
  if name ∈ r.names then none
  some ({ r with names := name :: r.names }.openGroup, rest)

/- The letters of modes behind a question mark. -/
def takeSwitches
    (r : Reading)
    (t : Text) : Option (Reading × Text) := do
  let (switches, sign, rest) ←
    Modes.readSwitches [] false false t
  let modes := switches.foldl Modes.switch r.modes
  if sign = ':' then
    some (r.openModes modes, rest)
  else if switches.isEmpty then
    none
  else
    let switched : Piece :=
      { pattern := .empty, repeatable := false }
    some ({ r with modes := modes }.push switched, rest)

/- Take what follows an opening parenthesis. -/
def takeGroup
    (r : Reading)
    (t : Text) : Option (Reading × Text) :=
  let t := r.modes.rest t
  if lookaroundSigns.any (·.isPrefixOf t) then
    none
  else
    match t with
    | '?' :: 'P' :: '<' :: rest => takeNamedGroup r rest
    | '?' :: '<' :: rest => takeNamedGroup r rest
    | '?' :: rest => takeSwitches r rest
    | t => some (r.openGroup, t)

------------------------------------------------------------
-- Repetitions
------------------------------------------------------------

/- The largest number of repetitions. -/
def countLimit : Nat := UInt32.size - 1

/-
  Read the digits of a number, between which blanks may
  stand in spaced mode.
-/
def readCountDigits
    (m : Modes) :
    Nat → Text → Text → Text × Text
  | 0, digits, t => (digits, t)
  | fuel + 1, digits, t =>
      match t with
      | c :: rest =>
          if c.isDigit then
            readCountDigits m fuel (digits ++ [c])
              (m.rest rest)
          else
            (digits, t)
      | [] => (digits, t)

/- Read a number of repetitions with the blanks around it. -/
def readCount (m : Modes) (t : Text) : Option (Nat × Text) :=
  let (digits, rest) :=
    readCountDigits m (t.length + 1) [] (Text.trimStart t)
  match Decimal.readNatural countLimit digits with
  | .ok n => some (n, m.rest (Text.trimStart rest))
  | .error _ => none

/-
  Whether a repetition is marked by a question mark, and
  what is behind it.
-/
def takeMark : Text → Bool × Text
  | '?' :: rest => (true, rest)
  | t => (false, t)

/- Take the numbers behind an opening brace. -/
def takeCounts
    (r : Reading)
    (t : Text) : Option (Reading × Text) := do
  let (least, rest) ← readCount r.modes (r.modes.rest t)
  let (most, rest) ←
    match rest with
    | ',' :: rest =>
        match r.modes.rest rest with
        | '\x7d' :: rest => some (none, '\x7d' :: rest)
        | rest => do
            let (most, rest) ← readCount r.modes rest
            some (some most, rest)
    | rest => some (some least, rest)
  match rest with
  | '\x7d' :: rest =>
      if (most.getD least) < least then none
      let (marked, rest) := takeMark (r.modes.rest rest)
      let r ← r.repeat? least most marked
      some (r, rest)
  | _ => none

------------------------------------------------------------
-- Reading
------------------------------------------------------------

/- Take the next part of a pattern, which starts with `c`. -/
def take
    (r : Reading)
    (c : Char)
    (rest : Text) : Option (Reading × Text) :=
  if c = '(' then
    takeGroup r rest
  else if c = ')' then do
    let r ← r.closeGroup?
    some (r, rest)
  else if c = '|' then
    some (r.nextBranch, rest)
  else if c = '[' then do
    let (members, depth, rest) ← readSet r.modes rest
    some
      (r.push
          { pattern := ofSet members !r.modes.everyScript
            depth := depth },
        rest)
  else if c = '?' then do
    let (marked, rest) := takeMark rest
    let r ← r.repeat? 0 (some 1) marked
    some (r, rest)
  else if c = '*' then do
    let (marked, rest) := takeMark rest
    let r ← r.repeat? 0 none marked
    some (r, rest)
  else if c = '+' then do
    let (marked, rest) := takeMark rest
    let r ← r.repeat? 1 none marked
    some (r, rest)
  else if c = '\x7b' then
    takeCounts r rest
  else if c = '\\' then do
    let (escape, rest) ← readEscape r.modes rest
    some (r.pushLeaf (ofEscape r.modes escape), rest)
  else if c = '.' then do
    let p ← anyCharacter? r.modes
    some (r.pushLeaf p, rest)
  else if c = '^' then
    some (r.pushLeaf (.boundary (caret r.modes)), rest)
  else if c = '$' then
    some (r.pushLeaf (.boundary (dollar r.modes)), rest)
  else
    some (r.pushLeaf (ofCharacter r.modes c), rest)

/- Read on until the text ends. -/
def readFrom : Nat → Reading → Text → Option Pattern
  | 0, _, _ => none
  | fuel + 1, r, t =>
      match r.modes.rest t with
      | [] => r.finish?
      | c :: rest => do
          let (r, rest) ← take r c rest
          readFrom fuel r rest

/- The pattern of a text, however heavy it is. -/
def parse? (t : Text) : Option Pattern :=
  readFrom (t.length + 1) { inner := { around := { } } } t

/- The pattern of a text that can be used. -/
def read (t : Text) : Except PatternFault Pattern :=
  match parse? t with
  | none => .error (.malformed t)
  | some p =>
      if p.fits then
        .ok p
      else
        .error .tooHeavy

end Pattern

end PageHeat
