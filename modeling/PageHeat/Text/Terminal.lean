import PageHeat.Text.Utf8

/-
  What a terminal shows of a text.

  An escape opens a control sequence, of which nothing is
  seen; how far it reaches depends on the character behind
  the escape. Outside of sequences those control characters
  are kept that move to another place or line. Such a move
  is also kept when it interrupts a sequence, which is then
  forgotten, or suspended up to the next character that is
  not seen outside of sequences.

  Key definitions include:
    * `Terminal.Place`
    * `Terminal.Place.next`
    * `Terminal.Place.Shows`
    * `Terminal.Interruption`
    * `Terminal.seen`
-/

------------------------------------------------------------
-- Characters
------------------------------------------------------------

namespace PageHeat

namespace Terminal

/- The character that opens a control sequence. -/
def escape : Char := '\x1b'

/- A character that breaks off whatever was opened. -/
def isCancel (c : Char) : Bool :=
  c == '\x18' || c == '\x1a'

/- A control character that moves to another place. -/
def isMove (c : Char) : Bool :=
  c == '\t' || c == '\n' || c == '\x0c' || c == '\r'

/- A character beyond the ASCII ones. -/
def isWide (c : Char) : Bool :=
  0x80 ≤ c.toNat

/- A character that is seen outside of sequences. -/
def isShown (c : Char) : Bool :=
  isMove c || (0x20 ≤ c.toNat && c.toNat ≠ 0x7F)

/- A mark in the middle of a sequence. -/
def isMark (c : Char) : Bool :=
  0x20 ≤ c.toNat && c.toNat ≤ 0x2F

/- A digit or separator of the numbers in a sequence. -/
def isNumeric (c : Char) : Bool :=
  0x30 ≤ c.toNat && c.toNat ≤ 0x3B

/- A sign in front of the numbers in a sequence. -/
def isSign (c : Char) : Bool :=
  0x3C ≤ c.toNat && c.toNat ≤ 0x3F

/- A letter that ends a sequence. -/
def isFinal (c : Char) : Bool :=
  0x40 ≤ c.toNat && c.toNat ≤ 0x7E

/- A character whose octets hold the end of a string. -/
def holdsStringEnd (c : Char) : Bool :=
  (Utf8.encode [c]).contains 0x9C

------------------------------------------------------------
-- Places
------------------------------------------------------------

/-
  How far a text has come in a control sequence. Strings
  for a device start with numbers and marks of their own,
  and a command of the system is a string too.
-/
inductive Place where
  | outside
  | escaped
  | marked
  | numbers
  | deviceStart
  | deviceNumbers
  | deviceMarks
  | string
  | command
  deriving Repr, DecidableEq

namespace Place

/- The place behind the character after an escape. -/
def afterEscaped (c : Char) : Place :=
  if c = '[' then .numbers
  else if c = ']' then .command
  else if c = 'P' then .deviceStart
  else if c = 'X' ∨ c = '^' ∨ c = '_' then .string
  else if isMark c then .marked
  else if isNumeric c || isSign c || isFinal c then .outside
  else .escaped

/- The place behind a character that is not seen. -/
def next (p : Place) (c : Char) : Place :=
  if c = escape then .escaped
  else if isCancel c then .outside
  else
    match p with
    | .outside => .outside
    | .escaped => afterEscaped c
    | .marked =>
        if isNumeric c || isSign c || isFinal c then
          .outside
        else
          .marked
    | .numbers => if isFinal c then .outside else .numbers
    | .deviceStart =>
        if isMark c then .deviceMarks
        else if isNumeric c || isSign c then .deviceNumbers
        else if isFinal c then .string
        else .deviceStart
    | .deviceNumbers =>
        if isMark c then .deviceMarks
        else if isSign c || isFinal c then .string
        else .deviceNumbers
    | .deviceMarks =>
        if isNumeric c || isSign c || isFinal c then
          .string
        else
          .deviceMarks
    | .string =>
        if holdsStringEnd c then .outside else .string
    | .command => if c = '\x07' then .outside else .command

/- Whether a character is seen at a place. -/
def Shows (p : Place) (c : Char) : Prop :=
  match p with
  | .outside => isShown c = true
  | .escaped => isMove c = true
  | .marked => isMove c = true
  | .numbers => isMove c = true
  | _ => False

instance (p : Place) (c : Char) : Decidable (p.Shows c) := by
  unfold Shows
  split <;> infer_instance

end Place

------------------------------------------------------------
-- Texts
------------------------------------------------------------

/- What becomes of a sequence that a move interrupts. -/
inductive Interruption where
  | forgets
  | suspends
  deriving Repr, DecidableEq

/- The place behind a character that is seen. -/
def Interruption.after
    (i : Interruption)
    (p : Place)
    (c : Char) : Place :=
  match i with
  | .forgets => .outside
  | .suspends => if isWide c then .outside else p

/-
  What is seen of a text from a place on. Behind a
  character that is seen everything is, up to the next one
  that is not seen outside of sequences.
-/
def seenFrom
    (i : Interruption)
    (p : Place)
    (showing : Bool) : Text → Text
  | [] => []
  | c :: rest =>
      if (showing && isShown c) || decide (p.Shows c) then
        c :: seenFrom i (i.after p c) true rest
      else
        seenFrom i (p.next c) false rest

/- What is seen of a text. -/
def seen (i : Interruption) (t : Text) : Text :=
  seenFrom i .outside false t

end Terminal

end PageHeat
