import ReleaseStamp.Declaration.Pattern
import ReleaseStamp.Journal.Pattern.Cursor
import ReleaseStamp.Journal.Pattern.Syntax
/-!
# Escapes of a pattern

What a backslash begins: a character by its number, a class of characters, an assertion on the place
in the text, or a character that stands for itself.
-/
namespace ReleaseStamp.Journal.Pattern

inductive Atom where
  | literal (l : Literal)
  | shorthand (h : Shorthand) (isNegated : Bool) (s : Stretch)
  | property (q : Text.Property.Query) (isNegated : Bool) (s : Stretch)
  | assertion (a : Assertion) (s : Stretch)

namespace Atom

def stretch : Atom → Stretch
  | .literal l => l.stretch
  | .shorthand _ _ s | .property _ _ s | .assertion _ s => s

def expression : Atom → Expression
  | .literal l => .literal l
  | .shorthand h isNegated s => .charClass (.shorthand h isNegated s)
  | .property q isNegated s => .charClass (.property q isNegated s)
  | .assertion a s => .assertion a s

/-- An assertion is nothing that a class can hold. -/
def inClass : Atom → Reading CharClass
  | .literal l => return .literal l
  | .shorthand h isNegated s => return .shorthand h isNegated s
  | .property q isNegated s => return .property q isNegated s
  | .assertion _ s => Reading.fail .classEscapeInvalid s

/-- Only a literal can be at an end of a range. -/
def bound : Atom → Reading Literal
  | .literal l => return l
  | a => Reading.fail .classRangeInvalid a.stretch

end Atom

namespace Escape

open Reading

/-- The stretch from a place up to here. -/
def since (start : Nat) : Reading Stretch := return ⟨start, ← place⟩

def isHexDigit (c : Char) : Bool :=
  c.isDigit || ('a' ≤ c && c ≤ 'f') || ('A' ≤ c && c ≤ 'F')

def hexValue (c : Char) : Nat :=
  if c.isDigit then c.toNat - '0'.toNat else c.toLower.toNat - 'a'.toNat + 10

/-- The character that has a number. -/
def charOf? (digits : Text) : Option Char :=
  let n := digits.foldl (fun n c => n * 16 + hexValue c) 0
  if n.isValidChar then some (Char.ofNat n) else none

/-- The literal that has just been read from `start` on, if its digits, at `s`, are the number of a
character. -/
def literalOf (start : Nat) (isByte : Bool) (digits : Text) (s : Stretch) : Reading Atom := do
  match charOf? digits with
  | none => fail .hexadecimalInvalid s
  | some c => return .literal ⟨c, isByte, ← since start⟩

def hexDigits : Nat → Reading Text
  | 0 => return []
  | n + 1 => do
    match ← next? with
    | none => failHere .escapeUnfinished
    | some c =>
      if !isHexDigit c then failAtNext .hexadecimalDigitInvalid
      advance
      return c :: (← hexDigits n)

/-- Reads a number in braces, of any length. -/
def bracedNumber (start : Nat) : Reading Atom := do
  let brace ← place
  advance
  let digits ← takeLoosely isHexDigit
  match ← next? with
  | none => failSince .escapeUnfinished brace
  | some '}' =>
    let stop ← place
    advance
    if digits = [] then failSince .hexadecimalMissing brace
    literalOf start false digits ⟨brace + 1, stop⟩
  | some _ => failAtNext .hexadecimalDigitInvalid

/-- Reads a number of so many digits, or one in braces. -/
def number (start : Nat) (length : Nat) : Reading Atom := do
  advance
  match ← next? with
  | none => failHere .escapeUnfinished
  | some '{' => bracedNumber start
  | some _ =>
    let inside ← place
    let digits ← hexDigits length
    literalOf start (length = 2) digits ⟨inside, ← place⟩

/-- Cuts a text at the first place where a sign stands. -/
def cutAt? (sign : Text) : Text → Option (Text × Text)
  | [] => none
  | c :: t =>
    match Text.after? sign (c :: t) with
    | some rest => some ([], rest)
    | none => (cutAt? sign t).map fun (before, after) => (c :: before, after)

/-- What is asked for in braces: a name, or a name and a value. -/
def queryOf (t : Text) : Text.Property.Query :=
  match ["!=", ":", "="].findSome? fun sign => cutAt? sign.toList t with
  | some (name, value) => ⟨name, some value⟩
  | none => ⟨t, none⟩

/-- Reads the name of a property, which is a letter or stands in braces. -/
def property (start : Nat) (isNegated : Bool) : Reading Atom := do
  advance
  match ← next? with
  | none => failHere .escapeUnfinished
  | some '{' =>
    advance
    let inside ← takeLoosely (· != '}')
    if ← isAtEnd then failHere .escapeUnfinished
    bump
    return .property (queryOf inside) isNegated (← since start)
  | some '\\' => failAtNext .propertyInvalid
  | some c =>
    advance
    return .property ⟨[c], none⟩ isNegated (← since start)

def boundaries : List (Text × Boundary) :=
  [("start".toList, .start), ("end".toList, .stop), ("start-half".toList, .startHalf),
    ("end-half".toList, .stopHalf)]

def isBoundaryChar (c : Char) : Bool := c.isAlpha || c = '-'

/-- Reads which boundary of a word is meant.  What else stands in braces counts repetitions, and
nothing of it is read. -/
def boundary (start : Nat) : Reading Boundary := do
  let before ← get
  let brace ← place
  advance
  match ← next? with
  | none => failSince .boundaryOrCountUnclosed start
  | some c =>
    if !isBoundaryChar c then
      set before
      return .either
    else
      let inside ← place
      let name ← takeLoosely isBoundaryChar
      if (← next?) ≠ some '}' then failSince .boundaryUnclosed brace
      let stop ← place
      bump
      match boundaries.lookup name with
      | some b => return b
      | none => fail .boundaryUnknown ⟨inside, stop⟩

/-- Whether a character stands for itself after a backslash. -/
def isSelf (c : Char) : Bool :=
  c ∈ Declaration.metacharacters || (c.toNat < 0x80 && !c.isAlphanum && c ≠ '<' && c ≠ '>')

/-- The characters that a letter stands for. -/
def controls : List (Char × Char) :=
  [('a', '\x07'), ('f', '\x0c'), ('t', '\t'), ('n', '\n'), ('r', '\r'), ('v', '\x0b')]

def assertions : List (Char × Assertion) :=
  [('A', .textStart), ('z', .textStop), ('B', .boundary .neither), ('<', .boundary .start),
    ('>', .boundary .stop)]

def shorthands : List (Char × Shorthand) := [('d', .digit), ('s', .blank), ('w', .word)]

/-- Reads a letter that is not the beginning of more. -/
def letter (start : Nat) (c : Char) : Reading Atom := do
  let s ← since start
  if isSelf c then return .literal ⟨c, false, s⟩
  match controls.lookup c, assertions.lookup c with
  | some d, _ => return .literal ⟨d, false, s⟩
  | none, some a => return .assertion a s
  | none, none =>
    if c = 'b' then
      let b ← if (← next?) = some '{' then boundary start else pure .either
      return .assertion (.boundary b) (← since start)
    else fail .escapeUnknown s

def read : Reading Atom := do
  let start ← place
  bump
  match ← next? with
  | none => failSince .escapeUnfinished start
  | some c =>
    if c.isDigit then fail .backreference ⟨start, (← place) + 1⟩
    else if c = 'x' then number start 2
    else if c = 'u' then number start 4
    else if c = 'U' then number start 8
    else if c = 'p' || c = 'P' then property start (c = 'P')
    else
      bump
      match shorthands.lookup c.toLower with
      | some h => return .shorthand h c.isUpper (← since start)
      | none => letter start c

end Escape
end ReleaseStamp.Journal.Pattern
