import ReleaseStamp.Text.Property.Age
import ReleaseStamp.Text.Property.Segment
/-!
# Properties by name

A property is asked for by its name, or by its name and a value.  Names and values may be long or
short, and case, blanks, hyphens, underscores and an "is" before them make no difference.  A name
alone may also be that of a general category or of a script.
-/
namespace ReleaseStamp.Text.Property

/-- What is left of a name of all that makes no difference. -/
def normal (name : Text) : Text :=
  let hasIs := match name with
    | i :: s :: _ => (i = 'i' || i = 'I') && (s = 's' || s = 'S')
    | _ => false
  let rest := (if hasIs then name.drop 2 else name).filter fun c =>
    c.toNat < 0x80 && c != ' ' && c != '_' && c != '-'
  let rest := rest.map Char.toLower
  -- the short name of a comment, which is not "c" with an "is" before it
  if hasIs && rest = ['c'] then ['i', 's', 'c'] else rest

/-- What has a name in a list, where names of the same are written with a blank between them. -/
def lookUp {α : Type} (list : List (String × α)) (name : Text) : Option α :=
  (list.find? fun e => (e.1.toList.splitOn ' ').any fun n => normal n = name).map Prod.snd

inductive Kind where
  | category
  | script
  | scriptExtension
  | age
  | cluster
  | word
  | sentence
  /-- Characters either have the property or not. -/
  | plain (p : Points)
  /-- Known by its name, and nothing can be asked of it. -/
  | unanswered

namespace Kind

open Listed Derived

/-- The properties that characters have or not. -/
def plains : List (String × Points) :=
  [("AHex ASCII_Hex_Digit", asciiHexDigit),
    ("Alpha Alphabetic", alphabetic),
    ("Bidi_C Bidi_Control", bidiControl),
    ("CI Case_Ignorable", caseIgnorable),
    ("Cased", cased),
    ("CWCF Changes_When_Casefolded", changesWhenCasefolded),
    ("CWCM Changes_When_Casemapped", changesWhenCasemapped),
    ("CWL Changes_When_Lowercased", changesWhenLowercased),
    ("CWT Changes_When_Titlecased", changesWhenTitlecased),
    ("CWU Changes_When_Uppercased", changesWhenUppercased),
    ("Dash", dash),
    ("DI Default_Ignorable_Code_Point", defaultIgnorableCodePoint),
    ("Dep Deprecated", deprecated),
    ("Dia Diacritic", diacritic),
    ("Emoji", emoji),
    ("EComp Emoji_Component", emojiComponent),
    ("EMod Emoji_Modifier", emojiModifier),
    ("EBase Emoji_Modifier_Base", emojiModifierBase),
    ("EPres Emoji_Presentation", emojiPresentation),
    ("ExtPict Extended_Pictographic", extendedPictographic),
    ("Ext Extender", extender),
    ("Gr_Base Grapheme_Base", graphemeBase),
    ("Gr_Ext Grapheme_Extend", graphemeExtend),
    ("Gr_Link Grapheme_Link", graphemeLink),
    ("Hex Hex_Digit", hexDigit),
    ("Hyphen", hyphen),
    ("ID_Compat_Math_Continue", idCompatMathContinue),
    ("ID_Compat_Math_Start", idCompatMathStart),
    ("IDC ID_Continue", idContinue),
    ("IDS ID_Start", idStart),
    ("IDSB IDS_Binary_Operator", idsBinaryOperator),
    ("IDST IDS_Trinary_Operator", idsTrinaryOperator),
    ("IDSU IDS_Unary_Operator", idsUnaryOperator),
    ("Ideo Ideographic", ideographic),
    ("Join_C Join_Control", joinControl),
    ("LOE Logical_Order_Exception", logicalOrderException),
    ("Lower Lowercase", lowercase),
    ("Math", math),
    ("MCM Modifier_Combining_Mark", modifierCombiningMark),
    ("NChar Noncharacter_Code_Point", noncharacterCodePoint),
    ("OAlpha Other_Alphabetic", otherAlphabetic),
    ("ODI Other_Default_Ignorable_Code_Point", otherDefaultIgnorableCodePoint),
    ("OGr_Ext Other_Grapheme_Extend", otherGraphemeExtend),
    ("OIDC Other_ID_Continue", otherIDContinue),
    ("OIDS Other_ID_Start", otherIDStart),
    ("OLower Other_Lowercase", otherLowercase),
    ("OMath Other_Math", otherMath),
    ("OUpper Other_Uppercase", otherUppercase),
    ("Pat_Syn Pattern_Syntax", patternSyntax),
    ("Pat_WS Pattern_White_Space", patternWhiteSpace),
    ("PCM Prepended_Concatenation_Mark", prependedConcatenationMark),
    ("QMark Quotation_Mark", quotationMark),
    ("Radical", radical),
    ("RI Regional_Indicator", regionalIndicator),
    ("SD Soft_Dotted", softDotted),
    ("STerm Sentence_Terminal", sentenceTerminal),
    ("Term Terminal_Punctuation", terminalPunctuation),
    ("UIdeo Unified_Ideograph", unifiedIdeograph),
    ("Upper Uppercase", uppercase),
    ("VS Variation_Selector", variationSelector),
    ("WSpace White_Space space", .ranges blankRanges),
    ("XIDC XID_Continue", xidContinue),
    ("XIDS XID_Start", xidStart)]

/-- The other properties that nothing can be asked of. -/
def unansweredNames : List String :=
  ["bc Bidi_Class", "Bidi_M Bidi_Mirrored", "blk Block", "bmg Bidi_Mirroring_Glyph",
    "bpb Bidi_Paired_Bracket", "bpt Bidi_Paired_Bracket_Type", "ccc Canonical_Combining_Class",
    "CE Composition_Exclusion", "cf Case_Folding", "Comp_Ex Full_Composition_Exclusion",
    "CWKCF Changes_When_NFKC_Casefolded", "cjkAccountingNumeric kAccountingNumeric",
    "cjkCompatibilityVariant kCompatibilityVariant", "cjkIICore kIICore",
    "cjkIRG_GSource kIRG_GSource", "cjkIRG_HSource kIRG_HSource", "cjkIRG_JSource kIRG_JSource",
    "cjkIRG_KPSource kIRG_KPSource", "cjkIRG_KSource kIRG_KSource", "cjkIRG_MSource kIRG_MSource",
    "cjkIRG_SSource kIRG_SSource", "cjkIRG_TSource kIRG_TSource", "cjkIRG_UKSource kIRG_UKSource",
    "cjkIRG_USource kIRG_USource", "cjkIRG_VSource kIRG_VSource",
    "cjkOtherNumeric kOtherNumeric", "cjkPrimaryNumeric kPrimaryNumeric",
    "cjkRSUnicode kRSUnicode Unicode_Radical_Stroke URS", "dm Decomposition_Mapping",
    "dt Decomposition_Type", "ea East_Asian_Width", "EqUIdeo Equivalent_Unified_Ideograph",
    "FC_NFKC FC_NFKC_Closure", "hst Hangul_Syllable_Type", "InCB Indic_Conjunct_Break",
    "InPC Indic_Positional_Category", "InSC Indic_Syllabic_Category", "isc ISO_Comment",
    "jg Joining_Group", "JSN Jamo_Short_Name", "jt Joining_Type", "kEH_Cat", "kEH_Desc", "kEH_HG",
    "kEH_IFAO", "kEH_JSesh", "kEH_NoMirror", "kEH_NoRotate", "lb Line_Break",
    "lc Lowercase_Mapping", "na Name", "na1 Unicode_1_Name", "Name_Alias",
    "NFC_QC NFC_Quick_Check", "NFD_QC NFD_Quick_Check", "NFKC_CF NFKC_Casefold",
    "NFKC_QC NFKC_Quick_Check", "NFKC_SCF NFKC_Simple_Casefold", "NFKD_QC NFKD_Quick_Check",
    "nt Numeric_Type", "nv Numeric_Value", "scf Simple_Case_Folding sfc",
    "slc Simple_Lowercase_Mapping", "stc Simple_Titlecase_Mapping",
    "suc Simple_Uppercase_Mapping", "tc Titlecase_Mapping", "uc Uppercase_Mapping",
    "vo Vertical_Orientation", "XO_NFC Expands_On_NFC", "XO_NFD Expands_On_NFD",
    "XO_NFKC Expands_On_NFKC", "XO_NFKD Expands_On_NFKD"]

def all : List (String × Kind) :=
  [("age", .age), ("gc General_Category", .category), ("sc Script", .script),
    ("scx Script_Extensions", .scriptExtension), ("GCB Grapheme_Cluster_Break", .cluster),
    ("WB Word_Break", .word), ("SB Sentence_Break", .sentence)] ++
    plains.map (fun (names, p) => (names, .plain p)) ++
    unansweredNames.map fun names => (names, .unanswered)

end Kind

/-- What is asked for. -/
structure Query where
  name : Text
  value? : Option Text

/-- Why there is no answer. -/
inductive Unknown where
  | property
  | value

/-- What has a meaning in a version of Unicode. -/
def Age.upTo? (version : Text) : Option Points :=
  let isOf (e : String × Points) := (lookUp [e] version).isSome
  if all.any isOf then
    some (.anyOf ((all.takeWhile fun e => !isOf e).map Prod.snd ++
      ((all.find? isOf).map Prod.snd).toList))
  else none

namespace Query

/-- An answer, which a value without points does not have. -/
def answer : Option Points → Except Unknown Points
  | some p => .ok p
  | none => .error .value

/-- The short names of categories that are short names of other properties as well. -/
def shared : List Text := ["cf".toList, "sc".toList, "lc".toList]

def byName (name : Text) : Except Unknown Points :=
  match if name ∈ shared then none else lookUp Kind.all name with
  | some (.plain p) => .ok p
  | some _ => .error .property
  | none =>
    match lookUp Category.all name with
    | some p => answer p
    | none =>
      match lookUp Script.all name with
      | some s => answer (s.map Script.own)
      | none => .error .property

def byValue (name value : Text) : Except Unknown Points :=
  match lookUp Kind.all name with
  | none => .error .property
  | some .category => answer (lookUp Category.all value).join
  | some .script => answer ((lookUp Script.all value).join.map Script.own)
  | some .scriptExtension => answer ((lookUp Script.all value).join.map Script.used)
  | some .age => answer (Age.upTo? value)
  | some .cluster => answer (lookUp Cluster.all value).join
  | some .word => answer (lookUp Word.all value).join
  | some .sentence => answer (lookUp Sentence.all value).join
  | some (.plain _) | some .unanswered => .error .value

/-- What has the property that is asked for. -/
def points (q : Query) : Except Unknown Points :=
  match q.value? with
  | none => byName (normal q.name)
  | some value => byValue (normal q.name) (normal value)

end Query
end ReleaseStamp.Text.Property
