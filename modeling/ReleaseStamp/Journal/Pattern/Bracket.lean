import ReleaseStamp.Journal.Pattern.Escape
/-!
# Classes in brackets

A class may hold classes.  The classes that are open are kept in a list, innermost first, each with
what has been read of it.
-/
namespace ReleaseStamp.Journal.Pattern.Bracket

open Reading

/-- A class that is open. -/
structure Level where
  opening : Stretch
  isNegated : Bool
  /-- What is to be combined with what comes, and by what. -/
  before? : Option (CharClass × Combination)
  /-- Where the items begin. -/
  start : Nat
  /-- The items, the last one first. -/
  items : List CharClass

namespace Level

def add (l : Level) (c : CharClass) : Level := { l with items := c :: l.items }

/-- What has been read of a class. -/
def inside (l : Level) : CharClass :=
  let last := CharClass.ofItems l.start l.items.reverse
  match l.before? with
  | none => last
  | some (before, c) => .combine c before last

/-- What comes from a place on is combined with all before it. -/
def combine (l : Level) (c : Combination) (place : Nat) : Level :=
  { l with before? := some (l.inside, c), start := place, items := [] }

def close (l : Level) (place : Nat) : CharClass :=
  .bracketed l.inside l.isNegated ⟨l.opening.start, place⟩

end Level

/-- Reads hyphens, which are items where no item is before them. -/
def hyphens : Text → List CharClass → Reading (List CharClass)
  | [], items => return items
  | _ :: bound, items => do
    if (← next?) = some '-' then
      let here ← place
      advance
      hyphens bound (.literal ⟨'-', false, ⟨here, here + 1⟩⟩ :: items)
    else return items

/-- Reads what opens a class: the bracket, what negates it, and what can only be a literal at its
beginning. -/
def opening : Reading Level := do
  let start ← place
  advance
  orFailSince .classUnclosed start
  let isNegated := (← next?) = some '^'
  if isNegated then
    advance
    orFailSince .classUnclosed start
  let inside ← place
  let items ← hyphens (← rest) []
  if ← isAtEnd then fail .classUnclosed ⟨start, start⟩
  if items.isEmpty && (← next?) = some ']' then
    let here ← place
    advance
    orFailSince .classUnclosed start
    return ⟨⟨start, ← place⟩, isNegated, none, inside, [.literal ⟨']', false, ⟨here, here + 1⟩⟩]⟩
  return ⟨⟨start, ← place⟩, isNegated, none, inside, items⟩

def unclosed {α : Type} (l : Level) : Reading α := fail .classUnclosed l.opening

def orUnclosed (l : Level) : Reading Unit := do
  if ← isAtEnd then unclosed l

def names : List (Text × NamedClass) :=
  [("alnum".toList, .alnum), ("alpha".toList, .alpha), ("ascii".toList, .ascii),
    ("blank".toList, .blank), ("cntrl".toList, .cntrl), ("digit".toList, .digit),
    ("graph".toList, .graph), ("lower".toList, .lower), ("print".toList, .print),
    ("punct".toList, .punct), ("space".toList, .space), ("upper".toList, .upper),
    ("word".toList, .word), ("xdigit".toList, .xdigit)]

/-- The class named at the beginning of a text, as in `[:alpha:]` or `[:^alpha:]`, whether it is
negated, and the length of all that. -/
def named? (t : Text) : Option (NamedClass × Bool × Nat) :=
  match Text.after? "[:".toList t with
  | none => none
  | some inside =>
    let negation := (inside.takeWhile (· = '^')).take 1
    let word := (inside.drop negation.length).takeWhile (· != ':')
    let rest := inside.drop (negation.length + word.length)
    match names.lookup word, Text.after? ":]".toList rest with
    | some n, some _ => some (n, !negation.isEmpty, 4 + negation.length + word.length)
    | _, _ => none

def item : Reading Atom := do
  match ← next? with
  | some '\\' => Escape.read
  | some c =>
    let here ← place
    bump
    return .literal ⟨c, false, ⟨here, here + 1⟩⟩
  | none => failHere .classUnclosed

/-- Reads an item of a class that is open, or two items with a dash between them. -/
def range (l : Level) : Reading CharClass := do
  let first ← item
  skip
  orUnclosed l
  if (← next?) ≠ some '-' ∨ (← afterNext?) = some ']' ∨ (← afterNext?) = some '-' then
    first.inClass
  else
    advance
    orUnclosed l
    let last ← item
    let low ← first.bound
    let high ← last.bound
    if high.char < low.char then
      fail .classRangeOutOfOrder ⟨first.stretch.start, last.stretch.stop⟩
    return .range low high

/-- The sign that combines classes stands twice. -/
def combination? : Char → Option Combination
  | '&' => some .intersection
  | '-' => some .difference
  | '~' => some .symmetricDifference
  | _ => none

/-- Reads on until the outermost class is closed.  Each turn reads a character at least. -/
def readWithin : Text → Level → List Level → Reading CharClass
  | [], l, _ => unclosed l
  | _ :: bound, l, outer => do
    skip
    match ← next? with
    | none => unclosed l
    | some '[' =>
      let here ← place
      match named? (← rest) with
      | some (name, isNegated, width) =>
        drop width
        readWithin bound (l.add (.named name isNegated ⟨here, here + width⟩)) outer
      | none => readWithin bound (← opening) (l :: outer)
    | some ']' =>
      bump
      let c := l.close (← place)
      match outer with
      | [] => return c
      | l :: outer => readWithin bound (l.add c) outer
    | some c =>
      match if (← rest).tail.head? = some c then combination? c else none with
      | some combination =>
        drop 2
        readWithin bound (l.combine combination (← place)) outer
      | none => readWithin bound (l.add (← range l)) outer

def read : Reading CharClass := do
  let bound ← rest
  readWithin bound (← opening) []

end ReleaseStamp.Journal.Pattern.Bracket
