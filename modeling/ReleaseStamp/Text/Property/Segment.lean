import ReleaseStamp.Text.Blank
import ReleaseStamp.Text.Property.Derived
import ReleaseStamp.Text.Property.Script
/-!
# What text is cut by

Text is cut into clusters, words and sentences by what its characters count as.  Some of what they
may count as is no longer used, and has a name and no points.
-/
namespace ReleaseStamp.Text.Property

open Points (anyOf)

def returnCode : Points := .table ["D"]

def lineFeed : Points := .table ["A"]

def joiner : Points := .table ["200D"]

def nonJoiner : Points := .table ["200C"]

namespace Cluster

open Category Listed Derived

def extend : Points := .union graphemeExtend emojiModifier

def prepend : Points :=
  .union prependedConcatenationMark
    (.table ["D4E 111C2-111C3 113D1 1193F 11941 11A3A 11A84-11A89 11D46 11F02"])

def control : Points :=
  .minus
    (anyOf [lineSeparator, paragraphSeparator, Category.control, format,
      .minus defaultIgnorableCodePoint assigned])
    (anyOf [returnCode, lineFeed, joiner, nonJoiner, graphemeExtend, prepend])

def spacingMark : Points :=
  .minus (.union (.minus Category.spacingMark extend) (.table ["E33 EB3"]))
    (.table
      ["102B-102C 1038 1062-1064 1067-106D 1083 1087-108C 108F 109A-109C 1A61 1A63-1A64 AA7B",
       "AA7D 11720-11721"])

def openSyllable : Points := .table ["AC00-D788/1C"]

def all : List (String × Option Points) :=
  [("CN Control", some control),
    ("CR", some returnCode),
    ("EB E_Base", none),
    ("EBG E_Base_GAZ", none),
    ("EM E_Modifier", none),
    ("EX Extend", some extend),
    ("GAZ Glue_After_Zwj", none),
    ("L", some (.table ["1100-115F A960-A97C"])),
    ("LF", some lineFeed),
    ("LV", some openSyllable),
    ("LVT", some (.minus (.table ["AC00-D7A3"]) openSyllable)),
    ("PP Prepend", some prepend),
    ("RI Regional_Indicator", some regionalIndicator),
    ("SM SpacingMark", some spacingMark),
    ("T", some (.table ["11A8-11FF D7CB-D7FB"])),
    ("V", some (.table ["1160-11A7 D7B0-D7C6 16D63 16D67-16D6A"])),
    ("XX Other", none),
    ("ZWJ", some joiner)]

end Cluster

namespace Word

open Category Listed Derived

/-- The own characters of a script. -/
def ofScript (names : String) : Points :=
  match Script.all.lookup names with
  | some (some s) => s.own
  | _ => .nothing

def extend : Points :=
  .minus (anyOf [graphemeExtend, spacingMark, emojiModifier]) joiner

def katakana : Points :=
  .union (ofScript "Kana Katakana") (.table ["3031-3035 309B-309C 30A0 30FC FF70"])

def hebrewLetter : Points :=
  .minus (ofScript "Hebr Hebrew") (.complement otherLetter)

/-- The letters of scripts that put no blanks between words. -/
def complexLetter : Points :=
  .table
    ["E01-E30 E32-E33 E40-E46 E81-E82 E84 E86-E8A E8C-EA3 EA5 EA7-EB0 EB2-EB3 EBD EC0-EC4 EC6",
     "EDC-EDF 1000-102A 103F 1050-1055 105A-105D 1061 1065-1066 106E-1070 1075-1081 108E",
     "1780-17B3 17D7 17DC 1950-196D 1970-1974 1980-19AB 19B0-19C9 1A20-1A54 1AA7 A9E0-A9E4",
     "A9E6-A9EF A9FA-A9FE AA60-AA76 AA7A AA7E-AAAF AAB1 AAB5-AAB6 AAB9-AABD AAC0 AAC2 AADB-AADD",
     "11700-1171A 11740-11746"]

def letter : Points :=
  .union
    (.minus alphabetic
      (anyOf
        [ideographic, katakana, ofScript "Hira Hiragana", extend, hebrewLetter, complexLetter]))
    (.table
      ["2C2-2C5 2D2-2D7 2DE-2DF 2E5-2EB 2ED 2EF-2FF 55A-55C 55E 58A 5F3 A708-A716 A720-A721",
       "A789-A78A AB5B"])

def all : List (String × Option Points) :=
  [("CR", some returnCode),
    ("DQ Double_Quote", some (.table ["22"])),
    ("EB E_Base", none),
    ("EBG E_Base_GAZ", none),
    ("EM E_Modifier", none),
    ("EX ExtendNumLet", some (.table ["5F 202F 203F-2040 2054 FE33-FE34 FE4D-FE4F FF3F"])),
    ("Extend", some extend),
    ("FO Format",
      some (.minus format (anyOf [.table ["200B"], joiner, nonJoiner, graphemeExtend]))),
    ("GAZ Glue_After_Zwj", none),
    ("HL Hebrew_Letter", some hebrewLetter),
    ("KA Katakana", some katakana),
    ("LE ALetter", some letter),
    ("LF", some lineFeed),
    ("MB MidNumLet", some (.table ["2E 2018-2019 2024 FE52 FF07 FF0E"])),
    ("ML MidLetter", some (.table ["3A B7 387 55F 5F4 2027 FE13 FE55 FF1A"])),
    ("MN MidNum",
      some (.table ["2C 3B 37E 589 60C-60D 66C 7F8 2044 FE10 FE14 FE50 FE54 FF0C FF1B"])),
    ("NL Newline", some (.table ["B-C 85 2028-2029"])),
    ("NU Numeric", some (.union decimalNumber (.table ["66B"]))),
    ("RI Regional_Indicator", some regionalIndicator),
    ("SQ Single_Quote", some (.table ["27"])),
    ("WSegSpace", some (.table ["20 1680 2000-2006 2008-200A 205F 3000"])),
    ("XX Other", none),
    ("ZWJ", some joiner)]

end Word

namespace Sentence

open Category Listed Derived

def extend : Points := anyOf [graphemeExtend, spacingMark, joiner]

def aTerminal : Points := .table ["2E 2024 FE52 FF0E"]

def separator : Points := .table ["85 2028-2029"]

def lower : Points := .minus (.minus lowercase graphemeExtend) (.table ["10D0-10FA 10FD-10FF"])

def upper : Points := .minus (.union titlecaseLetter uppercase) (.table ["1C90-1CBA 1CBD-1CBF"])

def close : Points :=
  .minus
    (anyOf [openPunctuation, closePunctuation, initialPunctuation, finalPunctuation, quotationMark,
      .table ["275B-2760 2E00-2E01 2E06-2E08 2E0B 1F676-1F678"]])
    (.table ["FF02 FF07"])

def all : List (String × Option Points) :=
  [("AT ATerm", some aTerminal),
    ("CL Close", some close),
    ("CR", some returnCode),
    ("EX Extend", some extend),
    ("FO Format", some (.minus format (anyOf [joiner, nonJoiner, graphemeExtend]))),
    ("LE OLetter",
      some (.minus (.union alphabetic (.table ["5F3"])) (anyOf [lower, upper, extend]))),
    ("LF", some lineFeed),
    ("LO Lower", some lower),
    ("NU Numeric", some (.union decimalNumber (.table ["66B-66C"]))),
    ("SC SContinue",
      some (.table ["2C-2D 3A 55D 60C-60D 7F8 1802 1808 2013-2014 3001 FE10-FE11 FE13 FE31-FE32",
        "FE50-FE51 FE55 FE58 FE63 FF0C-FF0D FF1A FF64"])),
    ("SE Sep", some separator),
    ("SP Sp", some (.minus (.ranges blankRanges) (anyOf [separator, returnCode, lineFeed]))),
    ("ST STerm", some (.minus sentenceTerminal aTerminal)),
    ("UP Upper", some upper),
    ("XX Other", none)]

end Sentence
end ReleaseStamp.Text.Property
