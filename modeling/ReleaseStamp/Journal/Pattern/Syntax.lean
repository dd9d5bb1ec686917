import ReleaseStamp.Journal.Pattern.Fault
import ReleaseStamp.Text.Property.Query
/-!
# The syntax of patterns

A pattern is a tree of expressions, and a class of characters is a tree as well.  Each node knows
the stretch of the pattern that it was read from.
-/
namespace ReleaseStamp.Journal.Pattern

/-- A character that stands for itself or is told by its number. -/
structure Literal where
  char : Char
  /-- Whether it is told by two hexadecimal digits, which tell a byte where a pattern is one of
  bytes. -/
  isByte : Bool
  stretch : Stretch

/-- The classes that a letter after a backslash stands for. -/
inductive Shorthand where
  | digit
  | blank
  | word
  deriving DecidableEq

/-- The classes of ASCII characters that have a name in brackets. -/
inductive NamedClass where
  | alnum
  | alpha
  | ascii
  | blank
  | cntrl
  | digit
  | graph
  | lower
  | print
  | punct
  | space
  | upper
  | word
  | xdigit
  deriving DecidableEq

/-- What two classes are combined by. -/
inductive Combination where
  | intersection
  | difference
  | symmetricDifference
  deriving DecidableEq

inductive CharClass where
  | empty (s : Stretch)
  | literal (l : Literal)
  | range (first last : Literal)
  | named (n : NamedClass) (isNegated : Bool) (s : Stretch)
  | shorthand (h : Shorthand) (isNegated : Bool) (s : Stretch)
  | property (q : Text.Property.Query) (isNegated : Bool) (s : Stretch)
  | bracketed (inside : CharClass) (isNegated : Bool) (s : Stretch)
  | union (items : List CharClass) (s : Stretch)
  | combined (c : Combination) (left right : CharClass) (s : Stretch)

def CharClass.stretch : CharClass → Stretch
  | .literal l => l.stretch
  | .range first last => ⟨first.stretch.start, last.stretch.stop⟩
  | .empty s | .named _ _ s | .shorthand _ _ s | .property _ _ s | .bracketed _ _ s | .union _ s
  | .combined _ _ _ s => s

/-- A class of items one after the other. -/
def CharClass.ofItems (place : Nat) : List CharClass → CharClass
  | [] => .empty ⟨place, place⟩
  | [c] => c
  | c :: cs => .union (c :: cs) ⟨c.stretch.start, ((c :: cs).getLastD c).stretch.stop⟩

def CharClass.combine (c : Combination) (left right : CharClass) : CharClass :=
  .combined c left right ⟨left.stretch.start, right.stretch.stop⟩

/-- The places next to or between word characters. -/
inductive Boundary where
  | either
  | neither
  | start
  | stop
  | startHalf
  | stopHalf
  deriving DecidableEq

/-- What is asserted of a place in the text. -/
inductive Assertion where
  | lineStart
  | lineStop
  | textStart
  | textStop
  | boundary (b : Boundary)
  deriving DecidableEq

inductive Flag where
  | ignoreCase
  | multiLine
  | dotAll
  | swapGreed
  | unicode
  | returnEndsLine
  | loose
  deriving DecidableEq

/-- Flags that are set or unset. -/
abbrev Setting := List (Flag × Bool)

/-- How often something is repeated. -/
structure Count where
  least : Nat
  most? : Option Nat
  /-- Whether more are tried before fewer. -/
  isGreedy : Bool
  deriving DecidableEq

inductive GroupKind where
  | plain (s : Setting)
  /-- What matches the group is kept under a number. -/
  | capture (number : Nat) (name? : Option Text)

inductive Expression where
  | empty (s : Stretch)
  | setting (x : Setting) (s : Stretch)
  | literal (l : Literal)
  | dot (s : Stretch)
  | assertion (a : Assertion) (s : Stretch)
  | charClass (c : CharClass)
  | repetition (c : Count) (e : Expression) (s : Stretch)
  | group (k : GroupKind) (e : Expression) (s : Stretch)
  | concat (parts : List Expression) (s : Stretch)
  | alternation (branches : List Expression) (s : Stretch)

namespace Expression

def stretch : Expression → Stretch
  | .literal l => l.stretch
  | .charClass c => c.stretch
  | .empty s | .setting _ s | .dot s | .assertion _ s | .repetition _ _ s | .group _ _ s
  | .concat _ s | .alternation _ s => s

def ofParts (s : Stretch) : List Expression → Expression
  | [] => .empty s
  | [e] => e
  | es => .concat es s

/-- Whether an expression can be repeated. -/
def isRepeatable : Expression → Bool
  | .empty _ | .setting _ _ => false
  | _ => true

end Expression
end ReleaseStamp.Journal.Pattern
