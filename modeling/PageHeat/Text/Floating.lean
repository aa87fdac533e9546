import PageHeat.Text.Decimal

/-
  Binary floating-point numbers of 64 bits, in exact
  arithmetic.

  A finite number is a whole number of at most 53 bits,
  scaled by a power of two. A decimal is rounded to the
  nearest one, and of two equally near ones to the even
  one. It is shown by the fewest digits that are rounded
  back to it, and of these by the nearest.

  Key definitions include:
    * `Floating`
    * `Floating.ofDecimal`
    * `Floating.shortest`
    * `Floating.text`
-/

------------------------------------------------------------
-- Numbers
------------------------------------------------------------

namespace PageHeat

/- A floating-point number: `significand * 2 ^ exponent`. -/
inductive Floating where
  | finite
      (negative : Bool)
      (significand : Nat)
      (exponent : Int)
  | infinite (negative : Bool)
  | undefined
  deriving Repr, DecidableEq

namespace Floating

/- The bound of the significands: they have 53 bits. -/
def significandBound : Nat := 0x20000000000000

/- The least significand above the least exponent. -/
def leastSignificand : Nat := 0x10000000000000

/- The least exponent of a finite number. -/
def leastExponent : Int := -1074

/- The greatest exponent of a finite number. -/
def greatestExponent : Int := 971

/- A fraction `num / den` times `base ^ e`. -/
def scale (base num den : Nat) (e : Int) : Nat × Nat :=
  match e with
  | .ofNat k => (num * Nat.pow base k, den)
  | .negSucc k => (num, den * Nat.pow base (k + 1))

/- The whole number nearest to a fraction, or the even one. -/
def nearest (num den : Nat) : Nat :=
  let low := num / den
  let twice := 2 * (num % den)
  if den < twice ∨ (twice = den ∧ low % 2 = 1) then
    low + 1
  else
    low

------------------------------------------------------------
-- Rounding
------------------------------------------------------------

/-
  The exponent for a fraction: its significand is to have
  53 bits, or fewer at the least exponent.
-/
def exponentFor (num den : Nat) : Int :=
  let guess : Int := num.log2 - den.log2 - 53
  let e := max guess leastExponent
  let (n, d) := scale 2 num den (-e)
  if n / d < significandBound then e else e + 1

/- The number nearest to a positive fraction. -/
def ofFraction (negative : Bool) (num den : Nat) : Floating :=
  let e := exponentFor num den
  let (n, d) := scale 2 num den (-e)
  let m := nearest n d
  let (m, e) :=
    if m = significandBound then
      (leastSignificand, e + 1)
    else
      (m, e)
  if greatestExponent < e then
    .infinite negative
  else
    .finite negative m e

/-
  The number nearest to `digits * 10 ^ exponent`. Far out
  of range, the power need not be computed.
-/
def ofDecimal
    (negative : Bool)
    (digits : Nat)
    (exponent : Int) : Floating :=
  let magnitude : Int :=
    (Decimal.text digits).length + exponent
  if digits = 0 ∨ magnitude < -400 then
    .finite negative 0 leastExponent
  else if 400 < magnitude then
    .infinite negative
  else
    let (num, den) := scale 10 digits 1 exponent
    ofFraction negative num den

------------------------------------------------------------
-- Shortest Digits
------------------------------------------------------------

/-
  The fractions that are rounded to a number, over one
  denominator: the number itself, both ends of the
  interval, and the denominator.
-/
def interval (m : Nat) (e : Int) : Nat × Nat × Nat × Nat :=
  let (unit, den) := scale 2 1 4 e
  let below :=
    if m = leastSignificand ∧ leastExponent < e then
      unit
    else
      2 * unit
  (4 * m * unit, 4 * m * unit - below,
    4 * m * unit + 2 * unit, den)

/- The multiple of `10 ^ k` that stands for a number. -/
def onGrid (m : Nat) (e k : Int) : Option Nat :=
  let (value, low, high, den) := interval m e
  let (unit, cell) := scale 10 den 1 k
  let fits (n : Nat) : Bool :=
    let x := n * unit
    if m % 2 = 0 then
      low * cell ≤ x && x ≤ high * cell
    else
      low * cell < x && x < high * cell
  let n := value * cell / unit
  let rest := value * cell % unit
  match fits n, fits (n + 1) with
  | true, true => if 2 * rest ≤ unit then some n else some (n + 1)
  | true, false => some n
  | false, true => some (n + 1)
  | false, false => none

/- The first finer grid with a multiple for a number. -/
def shortestFrom (m : Nat) (e : Int) : Nat → Int → Nat × Int
  | 0, k => (0, k)
  | steps + 1, k =>
      match onGrid m e k with
      | some n => (n, k)
      | none => shortestFrom m e steps (k - 1)

/- The fewest digits for a number, and their power of ten. -/
def shortest (m : Nat) (e : Int) : Nat × Int :=
  let (num, den) := scale 2 m 1 e
  let top : Int :=
    (Decimal.text num).length - (Decimal.text den).length
  shortestFrom m e 20 top

------------------------------------------------------------
-- Text
------------------------------------------------------------

/- Digits with a point before the last `places` of them. -/
def withPoint (digits : Text) (places : Nat) : Text :=
  let padded :=
    List.replicate (places + 1 - digits.length) '0' ++ digits
  let whole := padded.length - places
  padded.take whole ++ ['.'] ++ padded.drop whole

/- A number with a point and at least one digit behind it. -/
def text : Floating → Text
  | .undefined => "NaN"
  | .infinite negative => (if negative then "-" else "") ++ "inf"
  | .finite negative m e =>
      let sign : Text := if negative then "-" else ""
      if m = 0 then
        sign ++ "0.0"
      else
        match shortest m e with
        | (n, .ofNat k) =>
            sign ++ Decimal.text n ++ List.replicate k '0' ++
              ".0"
        | (n, .negSucc k) =>
            sign ++ withPoint (Decimal.text n) (k + 1)

end Floating

end PageHeat
