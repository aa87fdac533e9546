/-
  Text and bytes, and the few operations on them that the
  rest of the library shares.

  A text is a list of characters and a byte string is a
  list of octets, so that every scan is a recursion on the
  data. String literals are read as texts by a coercion.

  Key definitions include:
    * `Text`
    * `Bytes`
    * `Text.isBlank`
    * `Text.trim`
    * `Text.splitOn`
    * `Text.lines`
    * `Text.occursIn`
-/

------------------------------------------------------------
-- Texts
------------------------------------------------------------

namespace PageHeat

/- A text is a list of characters. -/
abbrev Text := List Char

/- A byte string is a list of octets. -/
abbrev Bytes := List UInt8

/- A string literal stands for the text of its characters. -/
instance : Coe String Text :=
  ⟨String.toList⟩

namespace Text

def toString (t : Text) : String :=
  String.ofList t

------------------------------------------------------------
-- Blank Characters
------------------------------------------------------------

/-
  A blank is one of the 25 characters with the Unicode
  property `White_Space`.
-/
def isBlank (c : Char) : Bool :=
  (9 ≤ c.toNat && c.toNat ≤ 13) ||
    c.toNat == 0x20 ||
    c.toNat == 0x85 ||
    c.toNat == 0xA0 ||
    c.toNat == 0x1680 ||
    (0x2000 ≤ c.toNat && c.toNat ≤ 0x200A) ||
    c.toNat == 0x2028 ||
    c.toNat == 0x2029 ||
    c.toNat == 0x202F ||
    c.toNat == 0x205F ||
    c.toNat == 0x3000

/- A text of blanks only, the empty text included. -/
def IsBlank (t : Text) : Prop :=
  t.all isBlank = true

instance (t : Text) : Decidable t.IsBlank :=
  inferInstanceAs (Decidable (_ = _))

/- Drop the blanks in front. -/
def trimStart (t : Text) : Text :=
  t.dropWhile isBlank

/- Drop the blanks at the end. -/
def trimEnd (t : Text) : Text :=
  (t.reverse.dropWhile isBlank).reverse

/- Drop the blanks at both ends. -/
def trim (t : Text) : Text :=
  trimEnd (trimStart t)

------------------------------------------------------------
-- Splitting And Searching
------------------------------------------------------------

/-
  Split a text, or octets, at every occurrence of a
  separator. There is one piece more than there are
  separators.
-/
def splitOn
    {α : Type}
    [DecidableEq α]
    (sep : α) : List α → List (List α)
  | [] => [[]]
  | c :: rest =>
      if c = sep then
        [] :: splitOn sep rest
      else
        match splitOn sep rest with
        | [] => [[c]]
        | piece :: pieces => (c :: piece) :: pieces

/- Drop a carriage return at the end. -/
def dropReturn (t : Text) : Text :=
  if t.getLast? = some '\r' then t.dropLast else t

/-
  The lines of a text without their ends. A line ends with
  a line feed and perhaps a carriage return before it; the
  last one may have no end, and is not there if empty.
-/
def lines (t : Text) : List Text :=
  let pieces := splitOn '\n' t
  pieces.dropLast.map dropReturn ++
    (pieces.getLast?.filter (!·.isEmpty)).toList

/- Whether a needle stands somewhere in a text. -/
def occursIn (needle : Text) : Text → Bool
  | [] => needle.isEmpty
  | c :: rest =>
      needle.isPrefixOf (c :: rest) || occursIn needle rest

/- The text without a prefix, if it starts with it. -/
def stripPrefix? (lead t : Text) : Option Text :=
  if lead.isPrefixOf t then
    some (t.drop lead.length)
  else
    none

/-
  Put a character in front until the text has a given
  width. A wider text stays as it is.
-/
def padWith (c : Char) (width : Nat) (t : Text) : Text :=
  List.replicate (width - t.length) c ++ t

/- Put blanks in front up to a given width. -/
def padLeft (width : Nat) (t : Text) : Text :=
  padWith ' ' width t

/- Join texts with a separator between neighbours. -/
def joinWith
    {α : Type}
    (sep : List α) : List (List α) → List α
  | [] => []
  | [t] => t
  | t :: u :: rest => t ++ sep ++ joinWith sep (u :: rest)

/-
  Whether a text is at most as large as another, compared
  from the left. The order of texts by code points is also
  the order of their encoded bytes.
-/
def atMost
    {α : Type}
    [LT α]
    [DecidableLT α]
    (t u : List α) : Bool :=
  match t, u with
  | [], _ => true
  | _ :: _, [] => false
  | c :: t, d :: u =>
      if c < d then true
      else if d < c then false
      else atMost t u

end Text

end PageHeat
