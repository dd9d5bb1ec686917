import ReleaseStamp.Text.Line
/-!
# Faults of a pattern

What makes a text no regular expression, and where.  A fault is told below the pattern, with marks
under the stretch that is faulty; the lines of a pattern of several lines are numbered for that, and
a stretch that goes over several lines is told by its ends instead.
-/
namespace ReleaseStamp.Journal.Pattern

inductive Defect where
  | backreference
  | boundaryOrCountUnclosed
  | boundaryUnclosed
  | boundaryUnknown
  | classEscapeInvalid
  | classRangeInvalid
  | classRangeOutOfOrder
  | classUnclosed
  | countInvalid
  | countMissing
  | countOutOfOrder
  | countUnclosed
  | escapeUnfinished
  | escapeUnknown
  | flagDangling
  | flagDuplicate
  | flagUnfinished
  | flagUnknown
  | groupUnclosed
  | groupUnopened
  | hexadecimalDigitInvalid
  | hexadecimalInvalid
  | hexadecimalMissing
  | invalidUtf8
  | lookAround
  | nameDuplicate
  | nameInvalid
  | nameMissing
  | nameUnfinished
  | negationRepeated
  | nestedTooDeep
  | propertyInvalid
  | propertyUnknown
  | propertyValueUnknown
  | repetitionOfNothing
  | unicodeNotAllowed
  deriving DecidableEq

def Defect.message : Defect → Text
  | .backreference => "backreferences are not supported".toList
  | .boundaryOrCountUnclosed =>
    ("found either the beginning of a special word boundary or a bounded repetition on a \\b " ++
      "with an opening brace, but no closing brace").toList
  | .boundaryUnclosed =>
    ("special word boundary assertion is either unclosed or contains an invalid " ++
      "character").toList
  | .boundaryUnknown =>
    ("unrecognized special word boundary assertion, valid choices are: start, end, start-half " ++
      "or end-half").toList
  | .classEscapeInvalid => "invalid escape sequence found in character class".toList
  | .classRangeInvalid => "invalid range boundary, must be a literal".toList
  | .classRangeOutOfOrder =>
    "invalid character class range, the start must be <= the end".toList
  | .classUnclosed => "unclosed character class".toList
  | .countInvalid => "decimal literal invalid".toList
  | .countMissing => "repetition quantifier expects a valid decimal".toList
  | .countOutOfOrder =>
    "invalid repetition count range, the start must be <= the end".toList
  | .countUnclosed => "unclosed counted repetition".toList
  | .escapeUnfinished =>
    "incomplete escape sequence, reached end of pattern prematurely".toList
  | .escapeUnknown => "unrecognized escape sequence".toList
  | .flagDangling => "dangling flag negation operator".toList
  | .flagDuplicate => "duplicate flag".toList
  | .flagUnfinished => "expected flag but got end of regex".toList
  | .flagUnknown => "unrecognized flag".toList
  | .groupUnclosed => "unclosed group".toList
  | .groupUnopened => "unopened group".toList
  | .hexadecimalDigitInvalid => "invalid hexadecimal digit".toList
  | .hexadecimalInvalid => "hexadecimal literal is not a Unicode scalar value".toList
  | .hexadecimalMissing => "hexadecimal literal empty".toList
  | .invalidUtf8 => "pattern can match invalid UTF-8".toList
  | .lookAround => "look-around, including look-ahead and look-behind, is not supported".toList
  | .nameDuplicate => "duplicate capture group name".toList
  | .nameInvalid => "invalid capture group character".toList
  | .nameMissing => "empty capture group name".toList
  | .nameUnfinished => "unclosed capture group name".toList
  | .negationRepeated => "flag negation operator repeated".toList
  | .nestedTooDeep =>
    "exceed the maximum number of nested parentheses/brackets (250)".toList
  | .propertyInvalid => "invalid Unicode character class".toList
  | .propertyUnknown => "Unicode property not found".toList
  | .propertyValueUnknown => "Unicode property value not found".toList
  | .repetitionOfNothing => "repetition operator missing expression".toList
  | .unicodeNotAllowed => "Unicode not allowed here".toList

/-- The characters of a pattern from `start` up to `stop`.  A stretch may be a point. -/
structure Stretch where
  start : Nat
  stop : Nat
  deriving DecidableEq

structure Fault where
  defect : Defect
  stretch : Stretch
  /-- The earlier stretch that this one repeats. -/
  earlier? : Option Stretch
  deriving DecidableEq

/-- A place in a pattern by its line and its place in the line, each counted from 0. -/
structure Spot where
  line : Nat
  column : Nat

def Spot.of (pattern : Text) (place : Nat) : Spot :=
  let before := pattern.take place
  ⟨before.count '\n', (before.reverse.takeWhile (· != '\n')).length⟩

/-- A stretch of a pattern by the spots at its ends. -/
structure Span where
  start : Spot
  stop : Spot

def Stretch.span (s : Stretch) (pattern : Text) : Span :=
  ⟨.of pattern s.start, .of pattern s.stop⟩

namespace Span

def isWithinLine (s : Span) : Bool := s.start.line = s.stop.line

/-- A span over several lines, told by its ends. -/
def ends (s : Span) : Text :=
  "on line ".toList ++ Text.ofNat (s.start.line + 1) ++ " (column ".toList ++
    Text.ofNat (s.start.column + 1) ++ ") through line ".toList ++
    Text.ofNat (s.stop.line + 1) ++ " (column ".toList ++ Text.ofNat s.stop.column ++ ")\n".toList

/-- Marks under spans of one line, from a column on.  A point has a mark too. -/
def marks (column : Nat) : List Span → Text
  | [] => []
  | s :: rest =>
    let width := max 1 (s.stop.column - s.start.column)
    List.replicate (s.start.column - column) ' ' ++ List.replicate width '^' ++
      marks (max column s.start.column + width) rest

/-- A line of a pattern after its margin, and below it the marks of the spans within it. -/
def marked (spans : List Span) (margin : Text) (index : Nat) (line : Text) : Text :=
  margin ++ line ++ ['\n'] ++
    match spans.filter fun s => s.isWithinLine && s.start.line = index with
    | [] => []
    | within => List.replicate margin.length ' ' ++ marks 0 within ++ ['\n']

end Span

/-- The margin of one of so many lines: its number, with blanks before it to the width of the last
number. -/
def numbered (lines index : Nat) : Text :=
  let number := Text.ofNat (index + 1)
  List.replicate ((Text.ofNat lines).length - number.length) ' ' ++ number ++ ": ".toList

namespace Fault

/-- The stretches to be marked, the earlier one first. -/
def stretches (f : Fault) : List Stretch := f.earlier?.toList ++ [f.stretch]

def message (f : Fault) (pattern : Text) : Text :=
  let spans := f.stretches.map (·.span pattern)
  let told (margin : Nat → Text) :=
    (Text.lines pattern).zipIdx.flatMap fun (line, i) => Span.marked spans (margin i) i line
  "regex parse error:\n".toList ++
    (if pattern.contains '\n' then
      let divider := List.replicate 79 '~' ++ ['\n']
      let long := spans.filter fun s => !s.isWithinLine
      divider ++ told (numbered (pattern.count '\n' + 1)) ++ divider ++ long.flatMap Span.ends
    else told fun _ => List.replicate 4 ' ') ++
    "error: ".toList ++ f.defect.message

end Fault
end ReleaseStamp.Journal.Pattern
