import PageHeat.Unicode.Category
import PageHeat.Unicode.Symbol

/-
  Characters of names, after the Unicode character
  database, version 16.

  Key definitions include:
    * `Unicode.nameStart`
    * `Unicode.nameContinue`
    * `Unicode.stableNameStart`
    * `Unicode.stableNameContinue`
-/

------------------------------------------------------------
-- Tables
------------------------------------------------------------

namespace PageHeat

namespace Unicode

/- The property `Other_ID_Start`. -/
def otherNameStart : RangeSet :=
  RangeSet.ofHex
    "1885-1886 2118 212E 309B-309C"

/- The property `Other_ID_Continue`. -/
def otherNameContinue : RangeSet :=
  RangeSet.ofHex
    "B7 387 1369-1371 19DA 200C-200D 30FB FF65"

/- What normalization makes unfit for names. -/
def unstableInNames : RangeSet :=
  RangeSet.ofHex
    "37A 309B-309C FC5E-FC63 FDFA-FDFB FE70 FE72 FE74 FE76 FE78
     FE7A FE7C FE7E"

/- What normalization makes unfit to begin a name. -/
def unstableAtStart : RangeSet :=
  RangeSet.ofHex
    "E33 EB3 FF9E-FF9F"

/- The property `ID_Compat_Math_Start`. -/
def mathStart : RangeSet :=
  RangeSet.ofHex
    "2202 2207 221E 1D6C1 1D6DB 1D6FB 1D715 1D735 1D74F 1D76F
     1D789 1D7A9 1D7C3"

/- Raised and lowered signs in names of quantities. -/
def mathDigit : RangeSet :=
  RangeSet.ofHex
    "B2-B3 B9 2070 2074-207E 2080-208E"

------------------------------------------------------------
-- Derived Properties
------------------------------------------------------------

/- The property `ID_Compat_Math_Continue`. -/
def mathContinue : RangeSet :=
  RangeSet.union mathStart mathDigit

/- The property `ID_Start`: letters, with few exceptions. -/
def nameStart : RangeSet :=
  RangeSet.difference
    (RangeSet.union otherNameStart
      (ofCategories ["lu", "ll", "lt", "lm", "lo", "nl"]))
    patternSyntax

/- The property `ID_Continue`. -/
def nameContinue : RangeSet :=
  RangeSet.ofRanges
    (nameStart ++ otherNameContinue ++
      ofCategories ["mn", "mc", "nd", "pc"])

/- The property `XID_Start`. -/
def stableNameStart : RangeSet :=
  RangeSet.difference nameStart
    (RangeSet.union unstableInNames unstableAtStart)

/- The property `XID_Continue`. -/
def stableNameContinue : RangeSet :=
  RangeSet.difference nameContinue unstableInNames

end Unicode

end PageHeat
