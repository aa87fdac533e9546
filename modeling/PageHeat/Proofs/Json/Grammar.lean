import PageHeat.Text.Basic

/-
  The grammar of JSON documents.

  A value is a sequence of tokens, and a document is a text
  of these tokens with any space between and around them.
  What may stand in a string, how its characters may be
  escaped and what a number looks like is said here once,
  without a choice among the spellings.

  Key definitions include:
    * `Json.Value`
    * `Json.Token`
    * `Json.Value.tokens`
    * `Json.SpellsChar`
    * `Json.IsNumber`
    * `Json.Token.Spelled`
    * `Json.Spaced`
    * `Json.IsDocument`
-/

------------------------------------------------------------
-- Values And Tokens
------------------------------------------------------------

namespace PageHeat

namespace Json

/-
  A value of any kind. Of a number what is written is kept,
  and of an object the order of its fields.
-/
inductive Value where
  | null
  | boolean (b : Bool)
  | number (literal : Text)
  | text (t : Text)
  | list (items : List Value)
  | object (fields : List (Text × Value))
  deriving Repr

/- The smallest parts of a document. -/
inductive Token where
  | openList
  | closeList
  | openObject
  | closeObject
  | comma
  | colon
  | null
  | boolean (b : Bool)
  | number (literal : Text)
  | text (t : Text)
  deriving Repr, DecidableEq

mutual

def Value.tokens : Value → List Token
  | .null => [.null]
  | .boolean b => [.boolean b]
  | .number literal => [.number literal]
  | .text t => [.text t]
  | .list items =>
      .openList :: (Value.itemTokens items ++ [.closeList])
  | .object fields =>
      .openObject ::
        (Value.fieldTokens fields ++ [.closeObject])

/- The tokens of items, with commas between them. -/
def Value.itemTokens : List Value → List Token
  | [] => []
  | [item] => item.tokens
  | item :: next :: rest =>
      item.tokens ++ .comma :: Value.itemTokens (next :: rest)

/- The tokens of fields, with commas between them. -/
def Value.fieldTokens : List (Text × Value) → List Token
  | [] => []
  | [(key, value)] => .text key :: .colon :: value.tokens
  | (key, value) :: next :: rest =>
      .text key :: .colon ::
        (value.tokens ++
          .comma :: Value.fieldTokens (next :: rest))

end

------------------------------------------------------------
-- Strings
------------------------------------------------------------

/- The value of a hexadecimal digit, in small or large. -/
def hexValue? (c : Char) : Option Nat :=
  if c.isDigit then
    some (c.toNat - '0'.toNat)
  else if 'a' ≤ c ∧ c ≤ 'f' then
    some (c.toNat - 'a'.toNat + 10)
  else if 'A' ≤ c ∧ c ≤ 'F' then
    some (c.toNat - 'A'.toNat + 10)
  else
    none

/- Four hexadecimal digits of a given value. -/
inductive IsCode : Text → Nat → Prop
  | digits {a b c d : Char} {w x y z : Nat}
      (ha : hexValue? a = some w)
      (hb : hexValue? b = some x)
      (hc : hexValue? c = some y)
      (hd : hexValue? d = some z) :
      IsCode [a, b, c, d] (((w * 16 + x) * 16 + y) * 16 + z)

/- The first half of a character above the first plane. -/
def IsHigh (n : Nat) : Prop :=
  0xD800 ≤ n ∧ n < 0xDC00

/- The second half of such a character. -/
def IsLow (n : Nat) : Prop :=
  0xDC00 ≤ n ∧ n < 0xE000

instance : DecidablePred IsHigh :=
  fun _ => inferInstanceAs (Decidable (_ ∧ _))

instance : DecidablePred IsLow :=
  fun _ => inferInstanceAs (Decidable (_ ∧ _))

/- The code point of two halves. -/
def joinHalves (high low : Nat) : Nat :=
  0x10000 + (high - 0xD800) * 0x400 + (low - 0xDC00)

/- A character that can stand for itself in a string. -/
def IsPlain (c : Char) : Prop :=
  0x20 ≤ c.toNat ∧ c ≠ '"' ∧ c ≠ '\\'

instance : DecidablePred IsPlain :=
  fun _ => inferInstanceAs (Decidable (_ ∧ _ ∧ _))

/- The letters that stand for characters after a backslash. -/
def shortEscapes : List (Char × Char) :=
  [ ('"', '"'), ('\\', '\\'), ('/', '/'), ('b', '\x08'),
    ('f', '\x0c'), ('n', '\n'), ('r', '\r'), ('t', '\t') ]

/- The spellings of a character in a string. -/
inductive SpellsChar : Char → Text → Prop
  | plain {c : Char} (hPlain : IsPlain c) :
      SpellsChar c [c]
  | short {letter c : Char}
      (hShort : shortEscapes.lookup letter = some c) :
      SpellsChar c ['\\', letter]
  | code {c : Char} {digits : Text}
      (hCode : IsCode digits c.toNat) :
      SpellsChar c ('\\' :: 'u' :: digits)
  | halves {c : Char} {digits others : Text} {high low : Nat}
      (hCode : IsCode digits high)
      (hHigh : IsHigh high)
      (hOther : IsCode others low)
      (hLow : IsLow low)
      (hJoin : c.toNat = joinHalves high low) :
      SpellsChar c
        ('\\' :: 'u' :: (digits ++ '\\' :: 'u' :: others))

/- The spellings of a text between quotes. -/
inductive SpellsText : Text → Text → Prop
  | nil : SpellsText [] []
  | cons {c : Char} {t spelling rest : Text}
      (hChar : SpellsChar c spelling)
      (hRest : SpellsText t rest) :
      SpellsText (c :: t) (spelling ++ rest)

------------------------------------------------------------
-- Numbers
------------------------------------------------------------

/- One digit or more. -/
def isDigits (t : Text) : Bool :=
  !t.isEmpty && t.all Char.isDigit

/- An exponent, with a sign or without, or nothing. -/
def isExponent : Text → Bool
  | [] => true
  | e :: '+' :: digits =>
      (e == 'e' || e == 'E') && isDigits digits
  | e :: '-' :: digits =>
      (e == 'e' || e == 'E') && isDigits digits
  | e :: digits => (e == 'e' || e == 'E') && isDigits digits

/- What may follow the digits in front of the point. -/
def isFraction : Text → Bool
  | '.' :: t =>
      isDigits (t.takeWhile Char.isDigit) &&
        isExponent (t.dropWhile Char.isDigit)
  | t => isExponent t

/- A number without sign, and with no needless zero. -/
def isUnsigned : Text → Bool
  | [] => false
  | '0' :: t => isFraction t
  | c :: t =>
      c.isDigit && isFraction (t.dropWhile Char.isDigit)

/- A number, with a minus sign or without. -/
def IsNumber : Text → Prop
  | '-' :: t => isUnsigned t = true
  | t => isUnsigned t = true

instance : DecidablePred IsNumber := by
  intro t
  unfold IsNumber
  split <;> infer_instance

/- A character that a number can have. -/
def isNumeric (c : Char) : Bool :=
  c.isDigit || c == '-' || c == '+' || c == '.' ||
    c == 'e' || c == 'E'

------------------------------------------------------------
-- Documents
------------------------------------------------------------

/- A blank, a tab or one of the two line ends. -/
def isSpace (c : Char) : Bool :=
  c == ' ' || c == '\t' || c == '\n' || c == '\r'

/- A text that separates tokens, or an empty one. -/
def IsSpace (t : Text) : Prop :=
  ∀ c ∈ t, isSpace c = true

namespace Token

/- The tokens that are always written the same way. -/
def fixed? : Token → Option Text
  | .openList => some "["
  | .closeList => some "]"
  | .openObject => some "\x7b"
  | .closeObject => some "\x7d"
  | .comma => some ","
  | .colon => some ":"
  | .null => some "null"
  | .boolean true => some "true"
  | .boolean false => some "false"
  | .number _ => none
  | .text _ => none

/- The spellings of a token. -/
inductive Spelled : Token → Text → Prop
  | fixed {token : Token} {word : Text}
      (hFixed : token.fixed? = some word) :
      Spelled token word
  | number {literal : Text}
      (hNumber : IsNumber literal) :
      Spelled (.number literal) literal
  | text {t body : Text}
      (hText : SpellsText t body) :
      Spelled (.text t) ('"' :: (body ++ ['"']))

/- A number ends where nothing can be added to it. -/
def EndsBefore : Token → Text → Prop
  | .number _, c :: _ => isNumeric c = false
  | _, _ => True

end Token

/- A text of some tokens with space around each of them. -/
inductive Spaced : List Token → Text → Prop
  | done {space : Text}
      (hSpace : IsSpace space) :
      Spaced [] space
  | token
      {space word rest : Text}
      {token : Token}
      {tokens : List Token}
      (hSpace : IsSpace space)
      (hWord : token.Spelled word)
      (hEnds : token.EndsBefore rest)
      (hRest : Spaced tokens rest) :
      Spaced (token :: tokens) (space ++ (word ++ rest))

/- A text is a document of a value if it has its tokens. -/
def IsDocument (v : Value) (t : Text) : Prop :=
  Spaced v.tokens t

end Json

end PageHeat
