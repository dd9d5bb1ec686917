import ReleaseStamp.Journal.Pattern.Syntax
/-!
# What patterns mean

The meaning of a pattern is a smaller tree, in which flags and negations are worked out and classes
are sets of characters.  Meanings are put together in their simplest form: literals next to each
other are one, nothing is left out of a row, and alternatives that are characters are a set.
-/
namespace ReleaseStamp.Journal.Pattern

open Text (CodeSet)

/-- What is asserted of a place, flags worked out. -/
inductive Look where
  | textStart
  | textStop
  | lineStart (returnEndsLine : Bool)
  | lineStop (returnEndsLine : Bool)
  | boundary (b : Boundary) (isUnicode : Bool)
  deriving DecidableEq

inductive Meaning where
  | empty
  | literal (t : Text)
  /-- Any one of a set. -/
  | anyOf (s : CodeSet)
  | look (l : Look)
  | repetition (c : Count) (m : Meaning)
  | capture (number : Nat) (name? : Option Text) (m : Meaning)
  | concat (parts : List Meaning)
  | alternation (branches : List Meaning)

namespace Meaning

mutual

/-- Whether two meanings are written the same. -/
def same : Meaning → Meaning → Bool
  | .empty, .empty => true
  | .literal s, .literal t => s == t
  | .anyOf s, .anyOf t => s.map (fun r => (r.first, r.last)) == t.map fun r => (r.first, r.last)
  | .look l, .look k => l == k
  | .repetition c m, .repetition d n => c == d && m.same n
  | .capture i x m, .capture j y n => i == j && x == y && m.same n
  | .concat ms, .concat ns => sameAll ms ns
  | .alternation ms, .alternation ns => sameAll ms ns
  | _, _ => false

def sameAll : List Meaning → List Meaning → Bool
  | [], [] => true
  | m :: ms, n :: ns => m.same n && sameAll ms ns
  | _, _ => false

end

mutual

/-- The length of the shortest text that matches, in bytes, if any text does. -/
def shortest? : Meaning → Option Nat
  | .empty | .look _ => some 0
  | .literal t => some (Text.byteLength t)
  | .anyOf s => s.head?.map fun r => (Char.ofNat r.first).utf8Size
  | .repetition c m => m.shortest?.map (· * c.least)
  | .capture _ _ m => m.shortest?
  | .concat ms => shortestRow? ms
  | .alternation ms => (shortestOf ms).min?

def shortestRow? : List Meaning → Option Nat
  | [] => some 0
  | m :: ms => match m.shortest?, shortestRow? ms with
    | some a, some b => some (a + b)
    | _, _ => none

/-- The lengths for alternatives. -/
def shortestOf : List Meaning → List Nat
  | [] => []
  | m :: ms => m.shortest?.toList ++ shortestOf ms

end

mutual

/-- Whether only the empty text matches. -/
def isVoid : Meaning → Bool
  | .empty | .look _ => true
  | .literal t => t.isEmpty
  | .anyOf _ => false
  | .repetition c m => m.isVoid || c.most? == some 0
  | .capture _ _ m => m.isVoid
  | .concat ms | .alternation ms => areVoid ms

def areVoid : List Meaning → Bool
  | [] => true
  | m :: ms => m.isVoid && areVoid ms

end

def ofSet : CodeSet → Meaning
  | [r] => if r.first = r.last then .literal [Char.ofNat r.first] else .anyOf [r]
  | s => .anyOf s

/-- To repeat what only the empty text matches makes no difference after the first time. -/
def repeated (c : Count) (m : Meaning) : Meaning :=
  let c := if m.isVoid then
    { c with least := min c.least 1, most? := some (min (c.most?.getD 1) 1) } else c
  if c.most? = some 0 then .empty
  else if c.least = 1 && c.most? = some 1 then m
  else .repetition c m

/-- Puts a part before the parts of a row, in their simplest form. -/
def before (m : Meaning) (row : List Meaning) : List Meaning :=
  match m, row with
  | .empty, row => row
  | .literal s, .literal t :: row => .literal (s ++ t) :: row
  | m, row => m :: row

def parts : Meaning → List Meaning
  | .concat ms => ms
  | m => [m]

def ofRow : List Meaning → Meaning
  | [] => .empty
  | [m] => m
  | ms => .concat ms

/-- One after the other. -/
def row (ms : List Meaning) : Meaning := ofRow ((ms.flatMap parts).foldr before [])

def branches : Meaning → List Meaning
  | .alternation ms => ms
  | m => [m]

/-- The character that is all that matches. -/
def char? : Meaning → Option Char
  | .literal [c] => some c
  | _ => none

def set? : Meaning → Option CodeSet
  | .anyOf s => some s
  | _ => none

/-- The set that alternatives are together, if each is a character or each is a set. -/
def together? (ms : List Meaning) : Option CodeSet :=
  if ms.all fun m => m.char?.isSome then
    some (.ofRanges (ms.filterMap fun m => m.char?.map fun c => ⟨c.toNat, c.toNat⟩))
  else if ms.all fun m => m.set?.isSome then
    some (.ofRanges (ms.filterMap set?).flatten)
  else none

/-- Alternatives that are looked at as a whole. -/
def choice (ms : List Meaning) : Meaning :=
  match ms.flatMap branches with
  | [] => .anyOf []
  | [m] => m
  | ms => ((together? ms).map ofSet).getD (.alternation ms)

/-- How many parts rows begin with in common. -/
def commonLength : List Meaning → List Meaning → Nat
  | m :: ms, n :: ns => if m.same n then commonLength ms ns + 1 else 0
  | _, _ => 0

/-- The rows of alternatives that are all rows of more than one part. -/
def rows? : List Meaning → Option (List (List Meaning))
  | [] => some []
  | .concat ms :: rest => (rows? rest).map (ms :: ·)
  | _ :: _ => none

/-- One of several.  What all begin with is taken out. -/
def either (ms : List Meaning) : Meaning :=
  match choice ms with
  | .alternation branches =>
    match rows? branches with
    | some (first :: others) =>
      match others.foldl (fun n ns => min n (commonLength first ns)) first.length with
      | 0 => .alternation branches
      | n =>
        row (first.take n ++ [choice ((first :: others).map fun ns => row (ns.drop n))])
    | _ => .alternation branches
  | m => m

mutual

/-- Whether a match can only be at the start of the text. -/
def startsText : Meaning → Bool
  | .look l => l = .textStart
  | .repetition c m => c.least != 0 && m.startsText
  | .capture _ _ m => m.startsText
  | .concat ms => rowStartsText ms
  | .alternation ms => allStartText ms
  | _ => false

def rowStartsText : List Meaning → Bool
  | [] => false
  | m :: ms => m.startsText || (m.isVoid && rowStartsText ms)

def allStartText : List Meaning → Bool
  | [] => true
  | m :: ms => m.startsText && allStartText ms

end

mutual

/-- Whether a match can only be at the end of the text. -/
def stopsText : Meaning → Bool
  | .look l => l = .textStop
  | .repetition c m => c.least != 0 && m.stopsText
  | .capture _ _ m => m.stopsText
  | .concat ms => (rowStopsText ms).1
  | .alternation ms => allStopText ms
  | _ => false

/-- Whether a row stops a text, and whether only the empty text matches all of it. -/
def rowStopsText : List Meaning → Bool × Bool
  | [] => (false, true)
  | m :: ms =>
    let (stops, void) := rowStopsText ms
    (stops || (void && m.stopsText), void && m.isVoid)

def allStopText : List Meaning → Bool
  | [] => true
  | m :: ms => m.stopsText && allStopText ms

end

end Meaning
end ReleaseStamp.Journal.Pattern
