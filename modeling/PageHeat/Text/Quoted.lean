import PageHeat.Unicode.Control
import PageHeat.Unicode.Recent

/-
  Quoted texts in messages.

  A quoted text stands between double quotes and shows what
  a reader could not see: tabs and line ends by their usual
  letters, and every character that extends the one before
  it or has no shape of its own by its code point.

  Key definitions include:
    * `Quoted.isHidden`
    * `Quoted.escape`
    * `Quoted.text`
-/

------------------------------------------------------------
-- Hidden Characters
------------------------------------------------------------

namespace PageHeat

namespace Quoted

/-
  The characters without a shape of their own: controls,
  formats, separators other than the space, letters that
  only fill a place, and code points without a character.
-/
def shapeless : RangeSet :=
  RangeSet.difference
    (RangeSet.ofRanges
      (Unicode.defaultIgnorable ++
        Unicode.currentUnassigned ++
        Unicode.ofCategories
          ["cc", "cf", "co", "zl", "zp", "zs"]))
    (RangeSet.single 0x20)

/-
  The characters that are drawn upon the one before them.
  The narrow sound marks of Katakana take a place of their
  own.
-/
def attached : RangeSet :=
  RangeSet.difference Unicode.currentExtend
    (RangeSet.ofHex "FF9E-FF9F")

/- Whether a character is shown by its code point. -/
def isHidden (c : Char) : Bool :=
  attached.hasChar c || shapeless.hasChar c

------------------------------------------------------------
-- Quoting
------------------------------------------------------------

/- The code point of a character, in braces. -/
def codePoint (c : Char) : Text :=
  "\\u\x7b" ++ Nat.toDigits 16 c.toNat ++ "\x7d"

/- One character of a quoted text. -/
def escape (c : Char) : Text :=
  match c with
  | '\x00' => "\\0"
  | '\t' => "\\t"
  | '\r' => "\\r"
  | '\n' => "\\n"
  | '\\' => "\\\\"
  | '"' => "\\\""
  | c => if isHidden c then codePoint c else [c]

/- The text between double quotes. -/
def text (t : Text) : Text :=
  "\"" ++ t.flatMap escape ++ "\""

end Quoted

end PageHeat
