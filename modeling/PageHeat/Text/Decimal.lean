import PageHeat.Text.Basic

/-
  Decimal numbers in texts.

  A number is written without sign and without leading
  zeros. It is read with an optional sign and any number of
  leading zeros, against a largest admissible value. Digits
  are looked at from the left, so the first thing that is
  wrong decides the fault.

  Key definitions include:
    * `Decimal.text`
    * `Decimal.Fault`
    * `Decimal.readNatural`
    * `Decimal.readInteger`
-/

------------------------------------------------------------
-- Writing
------------------------------------------------------------

namespace PageHeat

namespace Decimal

/- The decimal digits of a number. -/
def text (n : Nat) : Text :=
  Nat.toDigits 10 n

/- The decimal digits of an integer, after a minus sign. -/
def integerText : Int → Text
  | .ofNat n => text n
  | .negSucc n => '-' :: text (n + 1)

------------------------------------------------------------
-- Reading
------------------------------------------------------------

/- Why a text is not an admissible number. -/
inductive Fault where
  | empty
  | invalidDigit
  | tooLarge
  | tooSmall
  deriving Repr, DecidableEq

/- How far below zero numbers of 64 bits with sign reach. -/
def signedReach : Nat := 0x8000000000000000

namespace Fault

/- The sentence for a fault. -/
def message : Fault → Text
  | .empty => "cannot parse integer from empty string"
  | .invalidDigit => "invalid digit found in string"
  | .tooLarge => "number too large to fit in target type"
  | .tooSmall => "number too small to fit in target type"

end Fault

def digitValue (c : Char) : Nat :=
  c.toNat - '0'.toNat

/-
  Read digits from the left, continuing a number read so
  far. `excess` is the fault of exceeding `limit`.
-/
def readDigits
    (limit : Nat)
    (excess : Fault)
    (soFar : Nat) :
    Text → Except Fault Nat
  | [] => .ok soFar
  | c :: rest =>
      if c.isDigit then
        let next := soFar * 10 + digitValue c
        if next ≤ limit then
          readDigits limit excess next rest
        else
          .error excess
      else
        .error .invalidDigit

/- Read a number without sign; there is at least one digit. -/
def readUnsigned
    (limit : Nat)
    (excess : Fault)
    (t : Text) :
    Except Fault Nat :=
  match t with
  | [] => .error .invalidDigit
  | c :: rest => readDigits limit excess 0 (c :: rest)

/- Read a natural number of at most `limit`. -/
def readNatural
    (limit : Nat) :
    Text → Except Fault Nat
  | [] => .error .empty
  | '+' :: rest => readUnsigned limit .tooLarge rest
  | c :: rest => readUnsigned limit .tooLarge (c :: rest)

/- Read an integer between `-below` and `above`. -/
def readInteger
    (below above : Nat) :
    Text → Except Fault Int
  | [] => .error .empty
  | '+' :: rest =>
      (readUnsigned above .tooLarge rest).map Int.ofNat
  | '-' :: rest =>
      (readUnsigned below .tooSmall rest).map
        fun n => -(Int.ofNat n)
  | c :: rest =>
      (readUnsigned above .tooLarge (c :: rest)).map
        Int.ofNat

end Decimal

end PageHeat
