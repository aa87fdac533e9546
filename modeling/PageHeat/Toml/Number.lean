import PageHeat.Toml.Basic
import PageHeat.Unicode.RangeSet

/-
  Numbers, dates and times of TOML documents.

  An underscore may stand between two digits. A whole
  number has no leading zeros and fits 64 bits with sign,
  unless a point or an exponent makes it a floating-point
  number. Dates and times have fixed widths and have to
  exist in the calendar.

  Key definitions include:
    * `Toml.readInteger`
    * `Toml.readFloating`
    * `Toml.readMoment`
    * `Toml.readNumeral`
-/

------------------------------------------------------------
-- Digits
------------------------------------------------------------

namespace PageHeat

namespace Toml

/- Digits with single underscores between them. -/
def readDigits (isDigit : Char → Bool) : Text → Text × Text
  | [] => ([], [])
  | c :: rest =>
      if isDigit c then
        match rest with
        | '_' :: d :: more =>
            if isDigit d then
              let (digits, rest) := readDigits isDigit (d :: more)
              (c :: digits, rest)
            else
              ([c], '_' :: d :: more)
        | rest =>
            let (digits, rest) := readDigits isDigit rest
            (c :: digits, rest)
      else
        ([], c :: rest)

/- At least one digit, leading zeros included. -/
def readSomeDigits (t : Text) : Option (Text × Text) :=
  match readDigits Char.isDigit t with
  | ([], _) => none
  | (digits, rest) => some (digits, rest)

/- A sign, if there is one; true is for minus. -/
def readSign : Text → Bool × Text
  | '+' :: rest => (false, rest)
  | '-' :: rest => (true, rest)
  | t => (false, t)

/- Digits without leading zeros. -/
def readWhole (t : Text) : Option (Text × Text) :=
  match t with
  | '0' :: rest => some (['0'], rest)
  | t => readSomeDigits t

/- The number of digits in a base. -/
def valueIn (base : Nat) (digits : Text) : Nat :=
  digits.foldl
    (fun n c => n * base + (RangeSet.hexValue? c).getD 0) 0

------------------------------------------------------------
-- Whole Numbers
------------------------------------------------------------

/- The whole numbers of 64 bits with sign. -/
def asInteger (negative : Bool) (n : Nat) : Option Int :=
  if negative then
    if n ≤ Decimal.signedReach then
      some (-(Int.ofNat n))
    else
      none
  else
    if n < Decimal.signedReach then
      some (Int.ofNat n)
    else
      none

/- A whole number in another base, behind its sign. -/
def readInBase
    (base : Nat)
    (isDigit : Char → Bool)
    (t : Text) : Option (Int × Text) :=
  match readDigits isDigit t with
  | ([], _) => none
  | (digits, rest) =>
      (asInteger false (valueIn base digits)).map
        fun n => (n, rest)

/- Read a whole number. -/
def readInteger (t : Text) : Option (Int × Text) :=
  match t with
  | '0' :: 'x' :: rest =>
      readInBase 16 (fun c => (RangeSet.hexValue? c).isSome) rest
  | '0' :: 'o' :: rest =>
      readInBase 8 (fun c => '0' ≤ c && c ≤ '7') rest
  | '0' :: 'b' :: rest =>
      readInBase 2 (fun c => c == '0' || c == '1') rest
  | t => do
      let (negative, t) := readSign t
      let (digits, rest) ← readWhole t
      let n ← asInteger negative (valueIn 10 digits)
      some (n, rest)

------------------------------------------------------------
-- Floating-Point Numbers
------------------------------------------------------------

/- The exponent behind its letter. -/
def readExponent (t : Text) : Option (Int × Text) :=
  let behind (t : Text) : Option (Int × Text) := do
    let (negative, t) := readSign t
    let (digits, rest) ← readSomeDigits t
    let n : Int := valueIn 10 digits
    some (if negative then -n else n, rest)
  match t with
  | 'e' :: rest => behind rest
  | 'E' :: rest => behind rest
  | _ => none

/- The digits behind a point. -/
def readPlaces : Text → Option (Text × Text)
  | '.' :: rest => readSomeDigits rest
  | _ => none

/-
  A number with a point or an exponent. One that is too
  large is refused, but not one that is too small.
-/
def readDecimal (t : Text) : Option (Floating × Text) := do
  let (negative, t) := readSign t
  let (whole, rest) ← readWhole t
  let (places, exponent, rest) ←
    match readPlaces rest with
    | some (places, rest) =>
        match readExponent rest with
        | some (e, rest) => some (places, e, rest)
        | none => some (places, 0, rest)
    | none => do
        let (e, rest) ← readExponent rest
        some ([], e, rest)
  let x :=
    Floating.ofDecimal negative (valueIn 10 (whole ++ places))
      (exponent - Int.ofNat places.length)
  if x = .infinite false then none
  some (x, rest)

/- The names of what is not a number or not finite. -/
def readSpecial (t : Text) : Option (Floating × Text) :=
  match readSign t with
  | (negative, 'i' :: 'n' :: 'f' :: rest) =>
      some (.infinite negative, rest)
  | (_, 'n' :: 'a' :: 'n' :: rest) => some (.undefined, rest)
  | _ => none

def readFloating (t : Text) : Option (Floating × Text) :=
  readDecimal t <|> readSpecial t

------------------------------------------------------------
-- Dates And Times
------------------------------------------------------------

/- A number of a fixed width between two bounds. -/
def readField
    (width low high : Nat)
    (t : Text) : Option (Nat × Text) :=
  let digits := t.take width
  let n := valueIn 10 digits
  if digits.length = width ∧ digits.all Char.isDigit = true ∧
      low ≤ n ∧ n ≤ high then
    some (n, t.drop width)
  else
    none

/- What is behind a sign. -/
def expect (sign : Char) : Text → Option Text
  | [] => none
  | c :: rest => if c = sign then some rest else none

def daysOf (year month : Nat) : Nat :=
  let isLeap := year % 4 = 0 ∧ (year % 100 ≠ 0 ∨ year % 400 = 0)
  if month = 2 then
    if isLeap then 29 else 28
  else if month = 4 ∨ month = 6 ∨ month = 9 ∨ month = 11 then
    30
  else
    31

/- What is behind a date. -/
def skipDate (t : Text) : Option Text := do
  let (year, t) ← readField 4 0 9999 t
  let t ← expect '-' t
  let (month, t) ← readField 2 1 12 t
  let t ← expect '-' t
  let (_, t) ← readField 2 1 (daysOf year month) t
  some t

/- What is behind a time, with parts of a second or not. -/
def skipTime (t : Text) : Option Text := do
  let (_, t) ← readField 2 0 23 t
  let t ← expect ':' t
  let (_, t) ← readField 2 0 59 t
  let t ← expect ':' t
  let (_, t) ← readField 2 0 60 t
  match t with
  | '.' :: rest =>
      match rest.span Char.isDigit with
      | ([], _) => some t
      | (_, rest) => some rest
  | t => some t

/- What is behind the distance of a time zone, if any. -/
def skipZone (t : Text) : Text :=
  let distance (rest : Text) : Option Text := do
    let (_, rest) ← readField 2 0 23 rest
    let rest ← expect ':' rest
    let (_, rest) ← readField 2 0 59 rest
    some rest
  match t with
  | 'Z' :: rest => rest
  | 'z' :: rest => rest
  | '+' :: rest => (distance rest).getD t
  | '-' :: rest => (distance rest).getD t
  | t => t

/- What is behind a time that follows a date, if any. -/
def skipTimeOfDay (t : Text) : Text :=
  match t with
  | c :: rest =>
      if c = 'T' ∨ c = 't' ∨ c = ' ' then
        match skipTime rest with
        | some rest => skipZone rest
        | none => t
      else
        t
  | [] => []

/- Read a date, a time, or both. -/
def readMoment (t : Text) : Option Text :=
  match skipDate t with
  | some rest => some (skipTimeOfDay rest)
  | none => skipTime t

------------------------------------------------------------
-- Numerals
------------------------------------------------------------

/- Read what starts with a sign or a digit. -/
def readNumeral (t : Text) : Option (Value × Text) :=
  match readMoment t with
  | some rest => some (.moment, rest)
  | none =>
      match readFloating t with
      | some (x, rest) => some (.floating x, rest)
      | none =>
          (readInteger t).map
            fun (n, rest) => (.integer n, rest)

end Toml

end PageHeat
