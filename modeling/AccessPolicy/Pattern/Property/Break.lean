import AccessPolicy.Pattern.Property.Binary
import AccessPolicy.Pattern.Property.Script

/-!
# Segmentation

The roles of characters in the segmentation of text into what is perceived as one character, into
words, and into sentences, by the rules of Unicode 16.0.
-/

namespace AccessPolicy.Pattern

open Text (Ranges)

/-! ## What several segmentations ask for -/

namespace Break

/-- The signs in front of numbers that are of the category of formats. -/
def numberSigns : Ranges :=
  .ofRows ["600-605 6DD 890-891 8E2 110BD 110CD"]

/-- The tag characters. -/
def tags : Ranges :=
  .ofRows ["E0020-E007F"]

/-- The characters that join others or keep them apart. -/
def joinControl : Ranges :=
  Binary.table "joincontrol"

/-- The formats that stand apart from what is around them. -/
def formats : Ranges :=
  (Category.ranges .format).difference (.unions [numberSigns, joinControl, tags])

/-- The marks that belong to the character before them. -/
def attached : Ranges :=
  .unions [Binary.graphemeExtend, Category.ranges .spacingMark, joinControl]

/-- The signs of numerals besides the decimal digits. -/
def numerals : Ranges :=
  .unions [Text.digitRanges, numberSigns, .ofRows ["66B 19DA"]]

/-- The letters of Hebrew. -/
def hebrewLetters : Ranges :=
  (Category.ranges .otherLetter).intersection ((script? "hebrew").getD [])

/-- The letters of Katakana and the signs used with them. -/
def katakana : Ranges :=
  .union ((script? "katakana").getD []) (.ofRows ["3031-3035 309B-309C 30A0 30FC FF70"])

/-! ## Perceived characters -/

/-- What breaks the text on both sides. -/
def controls : Ranges :=
  .difference
    (.union (Category.all [.control, .format, .lineSeparator, .paragraphSeparator])
      (Category.unassigned.intersection Binary.defaultIgnorable))
    (.unions [.ofRows ["A D 70F"], numberSigns, joinControl, tags])

/-- The spacing marks that do not belong to the character before them. -/
def looseMarks : Ranges :=
  .ofRows [
    "102B-102C 1038 1062-1064 1067-106D 1083 1087-108C 108F 109A-109C 1A61 1A63-1A64 AA7B AA7D",
    "11720-11721"]

/-- The marks, taking room of their own, that belong to the character before them. -/
def spacingMarks : Ranges :=
  .difference (.union (Category.ranges .spacingMark) (.ofRows ["E33 EB3"]))
    (.union Binary.graphemeExtend looseMarks)

/-- The Hangul syllables without a final consonant. -/
def openSyllables : Ranges :=
  .ofRows ["AC00-D788/1C"]

/-- The roles in perceived characters. -/
def graphemeRoles : List (List String × Ranges) := [
  (["cr"], [(0xD, 0xD)]),
  (["lf"], [(0xA, 0xA)]),
  (["control", "cn"], controls),
  (["extend", "ex"], Binary.graphemeExtend.union (Binary.table "emojimodifier")),
  (["zwj"], [(0x200D, 0x200D)]),
  (["regionalindicator", "ri"], Binary.table "regionalindicator"),
  (["prepend", "pp"],
    .union (Binary.table "prependedconcatenationmark") (.ofRows [
      "D4E 111C2-111C3 113D1 1193F 11941 11A3A 11A84-11A89 11D46 11F02"])),
  (["spacingmark", "sm"], spacingMarks),
  (["l"], .ofRows ["1100-115F A960-A97C"]),
  (["v"], .ofRows ["1160-11A7 D7B0-D7C6 16D63 16D67-16D6A"]),
  (["t"], .ofRows ["11A8-11FF D7CB-D7FB"]),
  (["lv"], openSyllables),
  (["lvt"], .difference [(0xAC00, 0xD7A3)] openSyllables)]

/-! ## Words -/

/-- The letters of scripts that are written without spaces between words. -/
def unspacedLetters : Ranges :=
  .ofRows [
    "E01-E30 E32-E33 E40-E46 E81-E82 E84 E86-E8A E8C-EA3 EA5 EA7-EB0 EB2-EB3 EBD EC0-EC4 EC6",
    "EDC-EDF 1000-102A 103F 1050-1055 105A-105D 1061 1065-1066 106E-1070 1075-1081 108E",
    "1780-17B3 17D7 17DC 1950-196D 1970-1974 1980-19AB 19B0-19C9 1A20-1A54 1AA7 A9E0-A9E4",
    "A9E6-A9EF A9FA-A9FE AA60-AA76 AA7A AA7E-AAAF AAB1 AAB5-AAB6 AAB9-AABD AAC0 AAC2 AADB-AADD",
    "11700-1171A 11740-11746"]

/-- The signs besides the letters that words are made of. -/
def letterSigns : Ranges :=
  .ofRows [
    "2C2-2C5 2D2-2D7 2DE-2DF 2E5-2EB 2ED 2EF-2FF 55A-55C 55E 58A 5F3 70F A708-A716 A720-A721",
    "A789-A78A AB5B"]

/-- The letters of words: those of scripts that put spaces between words. -/
def wordLetters : Ranges :=
  .union letterSigns
    (.difference Binary.alphabetic
      (.unions [attached, Binary.table "ideographic", Binary.table "regionalindicator", katakana,
        hebrewLetters, (script? "hiragana").getD [], unspacedLetters]))

/-- The roles in words. -/
def wordRoles : List (List String × Ranges) := [
  (["cr"], [(0xD, 0xD)]),
  (["lf"], [(0xA, 0xA)]),
  (["newline", "nl"], .ofRows ["B-C 85 2028-2029"]),
  (["zwj"], [(0x200D, 0x200D)]),
  (["extend"], .difference (.union attached (Binary.table "emojimodifier")) [(0x200D, 0x200D)]),
  (["regionalindicator", "ri"], Binary.table "regionalindicator"),
  (["format", "fo"], formats.difference (.ofRows ["70F 200B"])),
  (["katakana", "ka"], katakana),
  (["hebrewletter", "hl"], hebrewLetters),
  (["aletter", "le"], wordLetters),
  (["singlequote", "sq"], [(0x27, 0x27)]),
  (["doublequote", "dq"], [(0x22, 0x22)]),
  (["midnumlet", "mb"], .ofRows ["2E 2018-2019 2024 FE52 FF07 FF0E"]),
  (["midletter", "ml"], .ofRows ["3A B7 387 55F 5F4 2027 FE13 FE55 FF1A"]),
  (["midnum", "mn"], .ofRows ["2C 3B 37E 589 60C-60D 66C 7F8 2044 FE50 FE54 FF0C FF1B"]),
  (["numeric", "nu"], numerals),
  (["extendnumlet", "ex"], .union (Category.ranges .connectorPunctuation) [(0x202F, 0x202F)]),
  (["wsegspace"], .ofRows ["20 1680 2000-2006 2008-200A 205F 3000"])]

/-! ## Sentences -/

/-- The lower-case letters of sentences; those of Georgian have no case in running text. -/
def sentenceLower : Ranges :=
  .difference Binary.lowercase (.union Binary.graphemeExtend (.ofRows ["10D0-10FA 10FD-10FF"]))

/-- The upper-case letters of sentences. -/
def sentenceUpper : Ranges :=
  .difference (.union Binary.uppercase (Category.ranges .titlecaseLetter))
    (.ofRows ["1C90-1CBA 1CBD-1CBF"])

/-- The points that end sentences and other things. -/
def points : Ranges :=
  .ofRows ["2E 2024 FE52 FF0E"]

/-- What separates paragraphs, line ends apart. -/
def paragraphEnds : Ranges :=
  .ofRows ["85 2028-2029"]

/-- The roles in sentences. -/
def sentenceRoles : List (List String × Ranges) := [
  (["cr"], [(0xD, 0xD)]),
  (["lf"], [(0xA, 0xA)]),
  (["sep", "se"], paragraphEnds),
  (["extend", "ex"], attached),
  (["format", "fo"], formats),
  (["sp"], Text.blankRanges.difference (.union paragraphEnds (.ofRows ["A D"]))),
  (["lower", "lo"], sentenceLower),
  (["upper", "up"], sentenceUpper),
  (["oletter", "le"],
    .difference (.union Binary.alphabetic [(0x5F3, 0x5F3)])
      (.unions [sentenceLower, sentenceUpper, attached])),
  (["numeric", "nu"], numerals.union [(0x66C, 0x66C)]),
  (["aterm", "at"], points),
  (["scontinue", "sc"], .ofRows [
    "2C-2D 3A-3B 37E 55D 60C-60D 7F8 1802 1808 2013-2014 3001 FE10-FE11 FE13-FE14 FE31-FE32",
    "FE50-FE51 FE54-FE55 FE58 FE63 FF0C-FF0D FF1A-FF1B FF64"]),
  (["sterm", "st"], (Binary.table "sentenceterminal").difference points),
  (["close", "cl"],
    .union
      (Category.all [.openPunctuation, .closePunctuation, .initialPunctuation, .finalPunctuation])
      (.ofRows ["22 27 275B-2760 2E00-2E01 2E06-2E08 2E0B 1F676-1F678"]))]

/-- The characters of the role that goes by a name. -/
def role? (roles : List (List String × Ranges)) (name : String) : Option Ranges :=
  (roles.find? (·.1.contains name)).map (·.2)

end Break

end AccessPolicy.Pattern
