import PageHeat.Text.Basic

/-
  The UTF-8 encoding of texts.

  `Utf8.decode` accepts the shortest encoding of every
  character and nothing else: a lone continuation octet, an
  encoding that is longer than needed, a surrogate and a
  number above the last code point are all refused.

  `Utf8.lossy` reads any octets. Those that are no text are
  replaced, and as many at once as could have been the
  start of a character.

  Key definitions include:
    * `Utf8.encode`
    * `Utf8.decode`
    * `Utf8.lossy`
-/

------------------------------------------------------------
-- Encoding
------------------------------------------------------------

namespace PageHeat

namespace Utf8

/- The octets of a text. -/
def encode (t : Text) : Bytes :=
  t.flatMap String.utf8EncodeChar

------------------------------------------------------------
-- Decoding
------------------------------------------------------------

/- A continuation octet carries six bits. -/
def isContinuation (b : UInt8) : Bool :=
  0x80 ≤ b.toNat && b.toNat < 0xC0

/- The code point of a lead octet and one continuation. -/
def join₂ (a b : UInt8) : Nat :=
  a.toNat % 0x20 * 0x40 + b.toNat % 0x40

/- The code point of a lead octet and two continuations. -/
def join₃ (a b c : UInt8) : Nat :=
  (a.toNat % 0x10 * 0x40 + b.toNat % 0x40) * 0x40 +
    c.toNat % 0x40

/- The code point of a lead octet and three continuations. -/
def join₄ (a b c d : UInt8) : Nat :=
  ((a.toNat % 0x08 * 0x40 + b.toNat % 0x40) * 0x40 +
    c.toNat % 0x40) * 0x40 + d.toNat % 0x40

/- The text of an octet string, if it is well formed. -/
def decode : Bytes → Option Text
  | [] => some []
  | a :: rest =>
      if a.toNat < 0x80 then
        (decode rest).map (Char.ofNat a.toNat :: ·)
      else if a.toNat < 0xC2 then
        none
      else if a.toNat < 0xE0 then
        match rest with
        | b :: rest =>
            if isContinuation b then
              (decode rest).map (Char.ofNat (join₂ a b) :: ·)
            else
              none
        | [] => none
      else if a.toNat < 0xF0 then
        match rest with
        | b :: c :: rest =>
            if isContinuation b && isContinuation c &&
                decide (0x800 ≤ join₃ a b c) &&
                decide (join₃ a b c).isValidChar then
              (decode rest).map
                (Char.ofNat (join₃ a b c) :: ·)
            else
              none
        | _ => none
      else if a.toNat < 0xF5 then
        match rest with
        | b :: c :: d :: rest =>
            if isContinuation b && isContinuation c &&
                isContinuation d &&
                decide (0x10000 ≤ join₄ a b c d) &&
                decide (join₄ a b c d).isValidChar then
              (decode rest).map
                (Char.ofNat (join₄ a b c d) :: ·)
            else
              none
        | _ => none
      else
        none

------------------------------------------------------------
-- Decoding With Replacements
------------------------------------------------------------

/- The character that stands for octets that are no text. -/
def replacement : Char := '\uFFFD'

/- Two octets that can start a character of three. -/
def starts₃ (a b : UInt8) : Bool :=
  isContinuation b && decide (0x800 ≤ join₃ a b 0) &&
    decide (join₃ a b 0).isValidChar

/- Two octets that can start a character of four. -/
def starts₄ (a b : UInt8) : Bool :=
  isContinuation b && decide (0x10000 ≤ join₄ a b 0 0) &&
    decide (join₄ a b 0 0).isValidChar

/- The text that is shown for an octet string. -/
def lossy : Bytes → Text
  | [] => []
  | a :: rest =>
      if a.toNat < 0x80 then
        Char.ofNat a.toNat :: lossy rest
      else if a.toNat < 0xC2 then
        replacement :: lossy rest
      else if a.toNat < 0xE0 then
        match rest with
        | [] => [replacement]
        | b :: more =>
            if isContinuation b then
              Char.ofNat (join₂ a b) :: lossy more
            else
              replacement :: lossy (b :: more)
      else if a.toNat < 0xF0 then
        match rest with
        | [] => [replacement]
        | b :: more =>
            if starts₃ a b then
              match more with
              | [] => [replacement]
              | c :: more =>
                  if isContinuation c then
                    Char.ofNat (join₃ a b c) :: lossy more
                  else
                    replacement :: lossy (c :: more)
            else
              replacement :: lossy (b :: more)
      else if a.toNat < 0xF5 then
        match rest with
        | [] => [replacement]
        | b :: more =>
            if starts₄ a b then
              match more with
              | [] => [replacement]
              | c :: more =>
                  if isContinuation c then
                    match more with
                    | [] => [replacement]
                    | d :: more =>
                        if isContinuation d then
                          Char.ofNat (join₄ a b c d) ::
                            lossy more
                        else
                          replacement :: lossy (d :: more)
                  else
                    replacement :: lossy (c :: more)
            else
              replacement :: lossy (b :: more)
      else
        replacement :: lossy rest

end Utf8

end PageHeat
