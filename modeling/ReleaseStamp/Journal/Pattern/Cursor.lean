import ReleaseStamp.Journal.Pattern.Fault
import ReleaseStamp.Text.Blank
/-!
# Reading along a pattern

A reading goes along a pattern from the left and ends at the first fault.  In a loose pattern blanks
and comments stand for nothing: `skip` passes over them, and `advance` does so after a character.
-/
namespace ReleaseStamp.Journal.Pattern

structure Cursor where
  place : Nat
  rest : Text
  /-- Whether blanks and comments stand for nothing. -/
  loose : Bool

abbrev Reading := StateT Cursor (Except Fault)

namespace Reading

variable {α : Type}

def fail (d : Defect) (s : Stretch) : Reading α := throw ⟨d, s, none⟩

def place : Reading Nat := return (← get).place

def next? : Reading (Option Char) := return (← get).rest.head?

def isAtEnd : Reading Bool := return (← get).rest.isEmpty

/-- What is to come.  It bounds any loop that reads a character of it at each turn. -/
def rest : Reading Text := return (← get).rest

def failHere (d : Defect) : Reading α := do
  fail d ⟨← place, ← place⟩

def failAtNext (d : Defect) : Reading α := do
  fail d ⟨← place, (← place) + 1⟩

def failSince (d : Defect) (start : Nat) : Reading α := do
  fail d ⟨start, ← place⟩

/-- Fails if nothing is left. -/
def orFailSince (d : Defect) (start : Nat) : Reading Unit := do
  if ← isAtEnd then failSince d start

def drop (n : Nat) : Reading Unit :=
  modify fun c => { c with place := c.place + (c.rest.take n).length, rest := c.rest.drop n }

def bump : Reading Unit := drop 1

/-- How many characters stand for nothing in a loose text.  A comment goes to the end of its
line. -/
def idle (inComment : Bool) : Text → Nat
  | [] => 0
  | c :: t =>
    if inComment then idle (c != '\n') t + 1
    else if Text.isBlank c then idle false t + 1
    else if c = '#' then idle true t + 1
    else 0

def skip : Reading Unit := do
  let c ← get
  if c.loose then drop (idle false c.rest)

def advance : Reading Unit := do
  bump
  skip

/-- What comes next but for blanks and the sign of a comment.  Of a comment itself nothing is passed
over, and where nothing is left the blanks are not passed over either. -/
def ahead (t : Text) : Text :=
  match t.dropWhile Text.isBlank with
  | [] => t
  | '#' :: rest =>
    match rest.dropWhile Text.isBlank with
    | [] => t
    | rest => rest
  | rest => rest

/-- The character that is taken for the one after the next. -/
def afterNext? : Reading (Option Char) := do
  let t := (← rest).tail
  return (if (← get).loose then ahead t else t).head?

/-- Reads a text if it comes next. -/
def accept (t : String) : Reading Bool := do
  match Text.after? t.toList (← rest) with
  | none => return false
  | some _ =>
    drop t.length
    return true

/-- Reads the characters of a class that come next. -/
def take (isIn : Char → Bool) : Reading Text := do
  let run := (← rest).takeWhile isIn
  drop run.length
  return run

def takeLooselyWithin (isIn : Char → Bool) : Text → Reading Text
  | [] => return []
  | _ :: bound => do
    match ← next? with
    | none => return []
    | some c =>
      if isIn c then
        advance
        return c :: (← takeLooselyWithin isIn bound)
      else return []

/-- Reads the characters of a class that come next, and in a loose pattern what stands for nothing
after each of them. -/
def takeLoosely (isIn : Char → Bool) : Reading Text := do
  takeLooselyWithin isIn (← rest)

end Reading
end ReleaseStamp.Journal.Pattern
