import PageHeat.Unicode.Control
import PageHeat.Unicode.Emoji
import PageHeat.Unicode.Ideograph
import PageHeat.Unicode.Letter
import PageHeat.Unicode.Symbol

/-
  The roles of characters where a text is cut into what a
  reader sees as one character, into words, and into
  sentences, after the Unicode character database, version
  16.

  A role is derived from categories and properties and
  from the few other characters that the standard lists
  for it. Every role has a short and a long name.

  Key definitions include:
    * `Unicode.clusterRoles`
    * `Unicode.wordRoles`
    * `Unicode.sentenceRoles`
    * `Unicode.role?`
-/

------------------------------------------------------------
-- Tables
------------------------------------------------------------

namespace PageHeat

namespace Unicode

/- Leading consonants of Hangul. -/
def leadingConsonant : RangeSet :=
  RangeSet.ofHex
    "1100-115F A960-A97C"

/- Vowels of Hangul, and those that behave like them. -/
def syllableVowel : RangeSet :=
  RangeSet.ofHex
    "1160-11A7 D7B0-D7C6 16D63 16D67-16D6A"

/- Trailing consonants of Hangul. -/
def trailingConsonant : RangeSet :=
  RangeSet.ofHex
    "11A8-11FF D7CB-D7FB"

/- Characters that join what follows. -/
def graphemePrepend : RangeSet :=
  RangeSet.ofHex
    "600-605 6DD 70F 890-891 8E2 D4E 110BD 110CD 111C2-111C3 113D1
     1193F 11941 11A3A 11A84-11A89 11D46 11F02"

/- Letters that are written as spacing marks. -/
def spacingLetter : RangeSet :=
  RangeSet.ofHex
    "E33 EB3"

/- Spacing marks that stand for themselves. -/
def spacingAlone : RangeSet :=
  RangeSet.ofHex
    "102B-102C 1038 1062-1064 1067-106D 1083 1087-108C 108F
     109A-109C 1A61 1A63-1A64 AA7B AA7D 11720-11721"

/- Signs that belong to numbers. -/
def numericSign : RangeSet :=
  RangeSet.ofHex
    "600-605 66B 6DD 890-891 8E2 110BD 110CD"

/- Signs that belong to words. -/
def modifierSign : RangeSet :=
  RangeSet.ofHex
    "2C2-2C5 2D2-2D7 2DE-2DF 2E5-2EB 2ED 2EF-2FF 55A-55C 55E 58A
     5F3 70F A708-A716 A720-A721 A789-A78A AB5B"

/- Letters of scripts that put no blanks between words. -/
def unspacedLetter : RangeSet :=
  RangeSet.ofHex
    "E01-E30 E32-E33 E40-E46 E81-E82 E84 E86-E8A E8C-EA3 EA5
     EA7-EB0 EB2-EB3 EBD EC0-EC4 EC6 EDC-EDF 1000-102A 103F
     1050-1055 105A-105D 1061 1065-1066 106E-1070 1075-1081 108E
     1780-17B3 17D7 17DC 1950-196D 1970-1974 1980-19AB 19B0-19C9
     1A20-1A54 1AA7 3031-3035 3041-3096 309D-309F 30A1-30FA
     30FC-30FF 31F0-31FF A9E0-A9E4 A9E6-A9EF A9FA-A9FE AA60-AA76
     AA7A AA7E-AAAF AAB1 AAB5-AAB6 AAB9-AABD AAC0 AAC2 AADB-AADD
     FF66-FF9D 11700-1171A 11740-11746 1AFF0-1AFF3 1AFF5-1AFFB
     1AFFD-1AFFE 1B000-1B122 1B132 1B150-1B152 1B155 1B164-1B167"

def katakana : RangeSet :=
  RangeSet.ofHex
    "3031-3035 309B-309C 30A0-30FA 30FC-30FF 31F0-31FF 32D0-32FE
     3300-3357 FF66-FF9D 1AFF0-1AFF3 1AFF5-1AFFB 1AFFD-1AFFE 1B000
     1B120-1B122 1B155 1B164-1B167"

def hebrewLetter : RangeSet :=
  RangeSet.ofHex
    "5D0-5EA 5EF-5F2 FB1D FB1F-FB28 FB2A-FB36 FB38-FB3C FB3E
     FB40-FB41 FB43-FB44 FB46-FB4F"

/- Signs between letters. -/
def midLetter : RangeSet :=
  RangeSet.ofHex
    "3A B7 387 55F 5F4 2027 FE13 FE55 FF1A"

/- Signs between digits. -/
def midNumber : RangeSet :=
  RangeSet.ofHex
    "2C 3B 37E 589 60C-60D 66C 7F8 2044 FE10 FE14 FE50 FE54 FF0C
     FF1B"

/- Signs between letters or digits. -/
def midBoth : RangeSet :=
  RangeSet.ofHex
    "2E 2018-2019 2024 FE52 FF07 FF0E"

/- Letters of Georgian, which have no case in sentences. -/
def georgianLetter : RangeSet :=
  RangeSet.ofHex
    "10D0-10FA 10FD-10FF 1C90-1CBA 1CBD-1CBF"

/- Signs after which a sentence goes on. -/
def sentenceComma : RangeSet :=
  RangeSet.ofHex
    "2C-2D 3A-3B 37E 55D 60C-60D 7F8 1802 1808 2013-2014 3001
     FE10-FE11 FE13-FE14 FE31-FE32 FE50-FE51 FE54-FE55 FE58 FE63
     FF0C-FF0D FF1A-FF1B FF64"

/- Full stops, which may also abbreviate. -/
def fullStop : RangeSet :=
  RangeSet.ofHex
    "2E 2024 FE52 FF0E"

/- Further signs that quote. -/
def quotingSign : RangeSet :=
  RangeSet.ofHex
    "275B-2760 2E00-2E01 2E06-2E08 2E0B 1F676-1F678"

------------------------------------------------------------
-- Single Characters
------------------------------------------------------------

def carriageReturn : RangeSet :=
  RangeSet.single 0x0D

def lineFeed : RangeSet :=
  RangeSet.single 0x0A

/- The sign that joins its neighbours. -/
def joiner : RangeSet :=
  RangeSet.single 0x200D

/- Line ends apart from the two above. -/
def lineSeparator : RangeSet :=
  RangeSet.ofHex "85 2028-2029"

/- Blanks at which no line ends. -/
def unbreakableSpace : RangeSet :=
  RangeSet.ofHex "A0 2007 202F"

------------------------------------------------------------
-- Clusters
------------------------------------------------------------

/- The syllables of Hangul, in blocks of one opening. -/
def syllableBlocks : List Nat :=
  (List.range 399).map fun i => 0xAC00 + 28 * i

/- Syllables without a trailing consonant. -/
def openSyllable : RangeSet :=
  syllableBlocks.map fun first => (first, first)

/- Syllables with a trailing consonant. -/
def closedSyllable : RangeSet :=
  syllableBlocks.map fun first => (first + 1, first + 27)

/- What extends the cluster before it. -/
def clusterExtend : RangeSet :=
  RangeSet.union graphemeExtend emojiModifier

/- Marks that take room and belong to the cluster. -/
def clusterSpacing : RangeSet :=
  RangeSet.union spacingLetter
    (RangeSet.difference (categoryMembers "mc")
      (RangeSet.union clusterExtend spacingAlone))

/- What stands for itself and steers the text. -/
def clusterControl : RangeSet :=
  RangeSet.difference
    (RangeSet.union (ofCategories ["zl", "zp", "cc", "cf"])
      (RangeSet.intersection otherDefaultIgnorable
        unassigned))
    (RangeSet.ofRanges
      (carriageReturn ++ lineFeed ++ joiner ++
        graphemePrepend ++ graphemeExtend))

------------------------------------------------------------
-- Words
------------------------------------------------------------

/- What extends the word before it. -/
def wordExtend : RangeSet :=
  RangeSet.union clusterExtend (categoryMembers "mc")

/- The letters of words. -/
def wordLetter : RangeSet :=
  RangeSet.union modifierSign
    (RangeSet.difference alphabetic
      (RangeSet.ofRanges
        (ideographic ++ wordExtend ++ hebrewLetter ++
          unspacedLetter)))

/- The digits of numbers, with their signs. -/
def wordNumeric : RangeSet :=
  RangeSet.union numericSign (categoryMembers "nd")

/- Signs that join words and numbers. -/
def wordJoiner : RangeSet :=
  RangeSet.union (RangeSet.single 0x202F)
    (categoryMembers "pc")

/- Format characters inside words. -/
def wordFormat : RangeSet :=
  RangeSet.difference (categoryMembers "cf")
    (RangeSet.ofRanges
      (RangeSet.single 0x200B ++ joiner ++ numericSign ++
        modifierSign ++ graphemeExtend))

/- Line ends apart from the two that come in pairs. -/
def wordNewline : RangeSet :=
  RangeSet.union lineSeparator (RangeSet.ofHex "B-C")

/- Blanks that stay together. -/
def wordSpace : RangeSet :=
  RangeSet.difference (categoryMembers "zs")
    unbreakableSpace

------------------------------------------------------------
-- Sentences
------------------------------------------------------------

/- What extends the part of a sentence before it. -/
def sentenceExtend : RangeSet :=
  RangeSet.ofRanges
    (graphemeExtend ++ categoryMembers "mc" ++ joiner)

/- Format characters inside sentences. -/
def sentenceFormat : RangeSet :=
  RangeSet.difference (categoryMembers "cf")
    (RangeSet.ofRanges
      (joiner ++ numericSign ++ graphemeExtend))

/- Small letters, which go on with a sentence. -/
def sentenceLower : RangeSet :=
  RangeSet.difference lowercase
    (RangeSet.union graphemeExtend georgianLetter)

/- Capitals, which begin a sentence. -/
def sentenceUpper : RangeSet :=
  RangeSet.difference
    (RangeSet.union uppercase (categoryMembers "lt"))
    georgianLetter

/- Letters without case. -/
def sentenceLetter : RangeSet :=
  RangeSet.union (RangeSet.single 0x5F3)
    (RangeSet.difference alphabetic
      (RangeSet.ofRanges
        (sentenceLower ++ sentenceUpper ++ sentenceExtend)))

/- Numbers in sentences. -/
def sentenceNumeric : RangeSet :=
  RangeSet.union wordNumeric (RangeSet.single 0x66C)

/- Blanks between sentences. -/
def sentenceSpace : RangeSet :=
  RangeSet.difference whiteSpace
    (RangeSet.ofRanges
      (carriageReturn ++ lineFeed ++ lineSeparator))

/- Signs that end a sentence and do not abbreviate. -/
def sentenceStop : RangeSet :=
  RangeSet.difference sentenceTerminal fullStop

/- Brackets and quotation marks. -/
def sentenceClose : RangeSet :=
  RangeSet.difference
    (RangeSet.ofRanges
      (ofCategories ["ps", "pe", "pi", "pf"] ++
        quotationMark ++ quotingSign))
    (RangeSet.ofHex "FF02 FF07")

------------------------------------------------------------
-- Names
------------------------------------------------------------

/- The roles in clusters: short name, long name, members. -/
def clusterRoles : List (String × String × RangeSet) :=
  [
    ("cn", "control", clusterControl),
    ("cr", "cr", carriageReturn),
    ("ex", "extend", clusterExtend),
    ("l", "l", leadingConsonant),
    ("lf", "lf", lineFeed),
    ("lv", "lv", openSyllable),
    ("lvt", "lvt", closedSyllable),
    ("pp", "prepend", graphemePrepend),
    ("ri", "regionalindicator", regionalIndicator),
    ("sm", "spacingmark", clusterSpacing),
    ("t", "t", trailingConsonant),
    ("v", "v", syllableVowel),
    ("zwj", "zwj", joiner)
  ]

/- The roles in words. -/
def wordRoles : List (String × String × RangeSet) :=
  [
    ("cr", "cr", carriageReturn),
    ("dq", "doublequote", RangeSet.single 0x22),
    ("ex", "extendnumlet", wordJoiner),
    ("extend", "extend", wordExtend),
    ("fo", "format", wordFormat),
    ("hl", "hebrewletter", hebrewLetter),
    ("ka", "katakana", katakana),
    ("le", "aletter", wordLetter),
    ("lf", "lf", lineFeed),
    ("mb", "midnumlet", midBoth),
    ("ml", "midletter", midLetter),
    ("mn", "midnum", midNumber),
    ("nl", "newline", wordNewline),
    ("nu", "numeric", wordNumeric),
    ("ri", "regionalindicator", regionalIndicator),
    ("sq", "singlequote", RangeSet.single 0x27),
    ("wsegspace", "wsegspace", wordSpace),
    ("zwj", "zwj", joiner)
  ]

/- The roles in sentences. -/
def sentenceRoles : List (String × String × RangeSet) :=
  [
    ("at", "aterm", fullStop),
    ("cl", "close", sentenceClose),
    ("cr", "cr", carriageReturn),
    ("ex", "extend", sentenceExtend),
    ("fo", "format", sentenceFormat),
    ("le", "oletter", sentenceLetter),
    ("lf", "lf", lineFeed),
    ("lo", "lower", sentenceLower),
    ("nu", "numeric", sentenceNumeric),
    ("sc", "scontinue", sentenceComma),
    ("se", "sep", lineSeparator),
    ("sp", "sp", sentenceSpace),
    ("st", "sterm", sentenceStop),
    ("up", "upper", sentenceUpper)
  ]

/- The members of a role, by either name. -/
def role?
    (roles : List (String × String × RangeSet))
    (name : String) : Option RangeSet :=
  (roles.find? fun r => r.1 == name || r.2.1 == name).map
    fun r => r.2.2

end Unicode

end PageHeat
