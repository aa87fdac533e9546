import PageHeat.Pattern.Escape

/-
  Character sets between brackets.

  A set lists characters, ranges, classes and further sets.
  Two signs in a row join the sets on both sides, from left
  to right. A minus sign or a closing bracket in front is a
  member, and so is a minus sign behind.

  Key definitions include:
    * `SetOperator`
    * `OpenSet`
    * `OpenSet.close?`
    * `readSet`
-/

------------------------------------------------------------
-- Named Classes
------------------------------------------------------------

namespace PageHeat

/- The ASCII classes by their names. -/
def asciiClasses : List (Text × RangeSet) :=
  [
    ("alnum", [(0x30, 0x39), (0x41, 0x5A), (0x61, 0x7A)]),
    ("alpha", [(0x41, 0x5A), (0x61, 0x7A)]),
    ("ascii", [(0, 0x7F)]),
    ("blank", [(0x09, 0x09), (0x20, 0x20)]),
    ("cntrl", [(0, 0x1F), (0x7F, 0x7F)]),
    ("digit", [(0x30, 0x39)]),
    ("graph", [(0x21, 0x7E)]),
    ("lower", [(0x61, 0x7A)]),
    ("print", [(0x20, 0x7E)]),
    ("punct",
      [(0x21, 0x2F), (0x3A, 0x40), (0x5B, 0x60),
       (0x7B, 0x7E)]),
    ("space", [(0x09, 0x0D), (0x20, 0x20)]),
    ("upper", [(0x41, 0x5A)]),
    ("word",
      [(0x30, 0x39), (0x41, 0x5A), (0x5F, 0x5F),
       (0x61, 0x7A)]),
    ("xdigit", [(0x30, 0x39), (0x41, 0x46), (0x61, 0x66)])
  ]

/-
  Read a named class behind its opening bracket: a name
  between colons, after a caret if it is excluded. Anything
  else is no named class.
-/
def readNamedClass
    (t : Text) : Option (RangeSet × Bool × Text) :=
  match t with
  | ':' :: rest =>
      let (negated, rest) :=
        match rest with
        | '^' :: rest => (true, rest)
        | rest => (false, rest)
      match rest.span (· != ':') with
      | (name, ':' :: ']' :: rest) =>
          (asciiClasses.lookup name).map
            fun members => (members, negated, rest)
      | _ => none
  | _ => none

------------------------------------------------------------
-- Operands
------------------------------------------------------------

/- How the sets on both sides of two signs are joined. -/
inductive SetOperator where
  | intersection
  | difference
  | symmetricDifference
  deriving Repr, DecidableEq

def SetOperator.join (o : SetOperator) :
    RangeSet → RangeSet → RangeSet :=
  match o with
  | .intersection => RangeSet.intersection
  | .difference => RangeSet.difference
  | .symmetricDifference => RangeSet.symmetricDifference

/-
  A list of members: its set, the number of parts, and how
  deep brackets are nested in them.
-/
structure Operand where
  set : RangeSet := []
  parts : Nat := 0
  depth : Nat := 0
  deriving Repr, DecidableEq

namespace Operand

def add
    (o : Operand)
    (members : RangeSet)
    (depth : Nat) : Operand :=
  { set := o.set ++ members
    parts := o.parts + 1
    depth := max o.depth depth }

/- The nesting of the whole list. -/
def height (o : Operand) : Nat :=
  if o.parts ≤ 1 then o.depth else o.depth + 1

end Operand

------------------------------------------------------------
-- Open Sets
------------------------------------------------------------

/-
  A set whose bracket is not closed: whether its members
  are excluded, what stands left of an operator, and the
  list that is being read.
-/
structure OpenSet where
  negated : Bool
  left : Option (SetOperator × RangeSet × Nat) := none
  operand : Operand := { }
  deriving Repr, DecidableEq

namespace OpenSet

/- Add a part to the list that is being read. -/
def add
    (s : OpenSet)
    (members : RangeSet)
    (depth : Nat) : OpenSet :=
  { s with operand := s.operand.add members depth }

/- The set so far and its nesting. -/
def soFar (s : OpenSet) (m : Modes) : RangeSet × Nat :=
  match s.left with
  | none =>
      (RangeSet.ofRanges s.operand.set, s.operand.height)
  | some (o, left, depth) =>
      (o.join (m.foldSet left) (m.foldSet s.operand.set),
        max depth s.operand.height + 1)

/- Begin the right side of an operator. -/
def operate
    (s : OpenSet)
    (m : Modes)
    (o : SetOperator) : OpenSet :=
  let (set, depth) := s.soFar m
  { negated := s.negated, left := some (o, set, depth) }

/- The finished set and its nesting. -/
def close? (s : OpenSet) (m : Modes) : Option (RangeSet × Nat) :=
  let (set, depth) := s.soFar m
  (m.signed? s.negated (m.foldSet set)).map
    fun set => (set, depth + 1)

/-
  Take the minus signs in front, and behind them a closing
  bracket if there was none.
-/
def takeFront
    (m : Modes)
    (s : OpenSet) :
    Nat → Text → OpenSet × Text
  | 0, t => (s, t)
  | fuel + 1, t =>
      match t with
      | '-' :: rest =>
          takeFront m (s.add (RangeSet.single 0x2D) 0) fuel
            (m.rest rest)
      | ']' :: rest =>
          if s.operand.parts = 0 then
            (s.add (RangeSet.single 0x5D) 0, m.rest rest)
          else
            (s, t)
      | t => (s, t)

/- Begin a set behind its opening bracket. -/
def begin (m : Modes) (t : Text) : OpenSet × Text :=
  match m.rest t with
  | '^' :: rest =>
      takeFront m { negated := true } (rest.length + 1)
        (m.rest rest)
  | t => takeFront m { negated := false } (t.length + 1) t

end OpenSet

------------------------------------------------------------
-- Members
------------------------------------------------------------

/- Read one character or escape of a set. -/
def readMember (m : Modes) : Text → Option (Escape × Text)
  | [] => none
  | '\\' :: rest => readEscape m rest
  | c :: rest => some (.character c, rest)

/- The code point of a character that a set can hold. -/
def memberCode? (m : Modes) : Escape → Option Nat
  | .character c =>
      if m.everyScript ∨ c.toNat < 0x80 then
        some c.toNat
      else
        none
  | _ => none

/- Read one part of a list: a character, a range or a class. -/
def readPart (m : Modes) (t : Text) : Option (RangeSet × Text) := do
  let (first, rest) ← readMember m t
  match m.rest rest with
  | [] => none
  | '-' :: behind =>
      if m.peek? behind = some ']' ∨
          m.peek? behind = some '-' then
        alone first (m.rest rest)
      else
        let (last, rest) ← readMember m (m.rest behind)
        let a ← memberCode? m first
        let b ← memberCode? m last
        if b < a then none
        some (RangeSet.between a b, rest)
  | rest => alone first rest
where
  /- The set of one character or class. -/
  alone (e : Escape) (rest : Text) : Option (RangeSet × Text) :=
    match e with
    | .set members => some (members, rest)
    | .boundary _ => none
    | e => do
        let n ← memberCode? m e
        some (RangeSet.single n, rest)

------------------------------------------------------------
-- Reading
------------------------------------------------------------

/- Read on in the innermost of the open sets. -/
def readOpenSets
    (m : Modes) :
    Nat → OpenSet → List OpenSet → Text →
      Option (RangeSet × Nat × Text)
  | 0, _, _, _ => none
  | fuel + 1, inner, outer, t =>
      match m.rest t with
      | [] => none
      | '[' :: rest =>
          match readNamedClass rest with
          | some (members, negated, rest) => do
              let members ←
                m.signed? negated (m.foldSet members)
              readOpenSets m fuel (inner.add members 0) outer
                rest
          | none =>
              let (opened, rest) := OpenSet.begin m rest
              readOpenSets m fuel opened (inner :: outer) rest
      | ']' :: rest => do
          let (members, depth) ← inner.close? m
          match outer with
          | [] => some (members, depth, rest)
          | around :: outer =>
              readOpenSets m fuel (around.add members depth)
                outer rest
      | '&' :: '&' :: rest =>
          readOpenSets m fuel (inner.operate m .intersection)
            outer rest
      | '-' :: '-' :: rest =>
          readOpenSets m fuel (inner.operate m .difference)
            outer rest
      | '~' :: '~' :: rest =>
          readOpenSets m fuel
            (inner.operate m .symmetricDifference) outer rest
      | t => do
          let (members, rest) ← readPart m t
          readOpenSets m fuel (inner.add members 0) outer rest

/-
  Read a set behind its opening bracket: its members, its
  nesting, and what is behind it.
-/
def readSet
    (m : Modes)
    (t : Text) : Option (RangeSet × Nat × Text) :=
  let (opened, rest) := OpenSet.begin m t
  readOpenSets m (t.length + 1) opened [] rest

end PageHeat
