import PageHeat.Unicode.Mark

/-
  Characters that steer a text instead of standing in it,
  after the Unicode character database, version 16.

  Key definitions include:
    * `Unicode.joinControl`
    * `Unicode.defaultIgnorable`
    * `Unicode.noncharacter`
-/

------------------------------------------------------------
-- Tables
------------------------------------------------------------

namespace PageHeat

namespace Unicode

def joinControl : RangeSet :=
  RangeSet.ofHex
    "200C-200D"

def bidiControl : RangeSet :=
  RangeSet.ofHex
    "61C 200E-200F 202A-202E 2066-2069"

def deprecatedCharacter : RangeSet :=
  RangeSet.ofHex
    "149 673 F77 F79 17A3-17A4 206A-206F 2329-232A E0001"

/- The property `Noncharacter_Code_Point`. -/
def noncharacter : RangeSet :=
  RangeSet.ofHex
    "FDD0-FDEF FFFE-FFFF 1FFFE-1FFFF 2FFFE-2FFFF 3FFFE-3FFFF
     4FFFE-4FFFF 5FFFE-5FFFF 6FFFE-6FFFF 7FFFE-7FFFF 8FFFE-8FFFF
     9FFFE-9FFFF AFFFE-AFFFF BFFFE-BFFFF CFFFE-CFFFF DFFFE-DFFFF
     EFFFE-EFFFF FFFFE-FFFFF 10FFFE-10FFFF"

def prependedConcatenationMark : RangeSet :=
  RangeSet.ofHex
    "600-605 6DD 70F 890-891 8E2 110BD 110CD"

/- The property `Other_Default_Ignorable_Code_Point`. -/
def otherDefaultIgnorable : RangeSet :=
  RangeSet.ofHex
    "34F 115F-1160 17B4-17B5 2065 3164 FFA0 FFF0-FFF8 E0000
     E0002-E001F E0080-E00FF E01F0-E0FFF"

/- Format characters that have a shape of their own. -/
def visibleFormat : RangeSet :=
  RangeSet.ofHex
    "FFF9-FFFB 13430-1343F"

------------------------------------------------------------
-- Derived Properties
------------------------------------------------------------

/- The property `Default_Ignorable_Code_Point`. -/
def defaultIgnorable : RangeSet :=
  RangeSet.difference
    (RangeSet.ofRanges
      (otherDefaultIgnorable ++ categoryMembers "cf" ++
        variationSelector))
    (RangeSet.union prependedConcatenationMark visibleFormat)

end Unicode

end PageHeat
