import PageHeat.Unicode.CaseChange
import PageHeat.Unicode.Identifier
import PageHeat.Unicode.Segment

/-
  The binary properties of the Unicode character database,
  version 16, by their names, and the three classes that
  patterns build from them.

  Key definitions include:
    * `Unicode.properties`
    * `Unicode.property?`
    * `Unicode.wordSet`
    * `Unicode.digitSet`
    * `Unicode.spaceSet`
-/

------------------------------------------------------------
-- Names
------------------------------------------------------------

namespace PageHeat

namespace Unicode

def caseIgnorable : RangeSet :=
  RangeSet.ofRanges
    (ofCategories ["mn", "me", "cf", "lm", "sk"] ++
      midLetter ++ midBoth ++ RangeSet.single 0x27)

/-
  The properties by their names, in lower case and without
  separators.
-/
def properties : List (String × String × RangeSet) :=
  [
    ("asciihexdigit", "ahex", asciiHexDigit),
    ("alphabetic", "alpha", alphabetic),
    ("bidicontrol", "bidic", bidiControl),
    ("bidimirrored", "bidim", bidiMirrored),
    ("cased", "cased", cased),
    ("caseignorable", "ci", caseIgnorable),
    ("changeswhencasefolded", "cwcf", changesWhenCaseFolded),
    ("changeswhencasemapped", "cwcm", changesWhenCaseMapped),
    ("changeswhenlowercased", "cwl", changesWhenLowercased),
    ("changeswhentitlecased", "cwt", changesWhenTitlecased),
    ("changeswhenuppercased", "cwu", changesWhenUppercased),
    ("dash", "dash", dash),
    ("defaultignorablecodepoint", "di", defaultIgnorable),
    ("deprecated", "dep", deprecatedCharacter),
    ("diacritic", "dia", diacritic),
    ("emoji", "emoji", emoji),
    ("emojicomponent", "ecomp", emojiComponent),
    ("emojimodifier", "emod", emojiModifier),
    ("emojimodifierbase", "ebase", emojiModifierBase),
    ("emojipresentation", "epres", emojiPresentation),
    ("extendedpictographic", "extpict", extendedPictographic),
    ("extender", "ext", extender),
    ("graphemebase", "grbase", graphemeBase),
    ("graphemeextend", "grext", graphemeExtend),
    ("graphemelink", "grlink", graphemeLink),
    ("hexdigit", "hex", hexDigit),
    ("hyphen", "hyphen", hyphen),
    ("idsbinaryoperator", "idsb", binaryOperator),
    ("idstrinaryoperator", "idst", trinaryOperator),
    ("idsunaryoperator", "idsu", unaryOperator),
    ("idcompatmathcontinue", "idcompatmathcontinue",
      mathContinue),
    ("idcompatmathstart", "idcompatmathstart", mathStart),
    ("idcontinue", "idc", nameContinue),
    ("idstart", "ids", nameStart),
    ("ideographic", "ideo", ideographic),
    ("joincontrol", "joinc", joinControl),
    ("logicalorderexception", "loe", logicalOrderException),
    ("lowercase", "lower", lowercase),
    ("math", "math", mathematical),
    ("modifiercombiningmark", "mcm", modifierCombiningMark),
    ("noncharactercodepoint", "nchar", noncharacter),
    ("otheralphabetic", "oalpha", otherAlphabetic),
    ("otherdefaultignorablecodepoint", "odi",
      otherDefaultIgnorable),
    ("othergraphemeextend", "ogrext", otherGraphemeExtend),
    ("otheridcontinue", "oidc", otherNameContinue),
    ("otheridstart", "oids", otherNameStart),
    ("otherlowercase", "olower", otherLowercase),
    ("othermath", "omath", otherMath),
    ("otheruppercase", "oupper", otherUppercase),
    ("patternsyntax", "patsyn", patternSyntax),
    ("patternwhitespace", "patws", patternWhiteSpace),
    ("prependedconcatenationmark", "pcm",
      prependedConcatenationMark),
    ("quotationmark", "qmark", quotationMark),
    ("radical", "radical", radical),
    ("regionalindicator", "ri", regionalIndicator),
    ("sentenceterminal", "sterm", sentenceTerminal),
    ("softdotted", "sd", softDotted),
    ("terminalpunctuation", "term", terminalPunctuation),
    ("unifiedideograph", "uideo", unifiedIdeograph),
    ("uppercase", "upper", uppercase),
    ("variationselector", "vs", variationSelector),
    ("whitespace", "wspace", whiteSpace),
    ("xidcontinue", "xidc", stableNameContinue),
    ("xidstart", "xids", stableNameStart)
  ]

/- The code points of a property, by either name. -/
def property? (name : String) : Option RangeSet :=
  if name == "space" then some whiteSpace
  else role? properties name

------------------------------------------------------------
-- Classes
------------------------------------------------------------

/- The characters of words. -/
def wordSet : RangeSet :=
  RangeSet.ofRanges
    (alphabetic ++ joinControl ++
      ofCategories ["mn", "mc", "me", "nd", "pc"])

/- The decimal digits of every script. -/
def digitSet : RangeSet :=
  categoryMembers "nd"

/- The white space of every script. -/
def spaceSet : RangeSet :=
  whiteSpace

end Unicode

end PageHeat
