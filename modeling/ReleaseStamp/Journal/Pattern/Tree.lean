import ReleaseStamp.Journal.Pattern.Bracket
import ReleaseStamp.Journal.Pattern.Group
import ReleaseStamp.Journal.Pattern.Repetition
/-!
# Reading a pattern

A pattern is read from the left into a tree.  The groups that are open are kept in a list, innermost
first, each with what has been read of the expression around it.
-/
namespace ReleaseStamp.Journal.Pattern

open Reading

/-- What has been read of an expression. -/
structure Level where
  start : Nat
  branchStart : Nat
  /-- The branches before, the last one first. -/
  branches : List Expression
  /-- The parts of its last branch, the last one first. -/
  parts : List Expression

namespace Level

def opened (place : Nat) : Level := ⟨place, place, [], []⟩

def add (l : Level) (e : Expression) : Level := { l with parts := e :: l.parts }

/-- The last branch, which ends at a place. -/
def branch (l : Level) (place : Nat) : Expression :=
  .ofParts ⟨l.branchStart, place⟩ l.parts.reverse

/-- The last branch ends at a place and another begins after it. -/
def alternate (l : Level) (place : Nat) : Level :=
  ⟨l.start, place + 1, l.branch place :: l.branches, []⟩

/-- The expression, which ends at a place. -/
def close (l : Level) (place : Nat) : Expression :=
  match l.branches with
  | [] => l.branch place
  | _ => .alternation (l.branch place :: l.branches).reverse ⟨l.start, place⟩

end Level

/-- A group that is open. -/
structure OpenGroup where
  kind : GroupKind
  opening : Stretch
  /-- Whether the pattern was loose before it. -/
  wasLoose : Bool
  around : Level

/-- What is known of a pattern so far. -/
structure Progress where
  groups : List OpenGroup
  /-- The names of groups, and where they stand. -/
  names : List (Text × Stretch)
  /-- How many groups keep what they match. -/
  captures : Nat
  level : Level

namespace Progress

def start : Progress := ⟨[], [], 0, .opened 0⟩

def add (p : Progress) (e : Expression) : Progress := { p with level := p.level.add e }

end Progress

def setLoose (setting : Setting) : Reading Unit := do
  if let some loose := setting.lookup .loose then modify fun c => { c with loose := loose }

def openGroup (p : Progress) : Reading Progress := do
  let wasLoose := (← get).loose
  match ← Group.opening p.names p.captures with
  | .setting x s =>
    setLoose x
    return p.add (.setting x s)
  | .group kind opening name? =>
    if let .plain x := kind then setLoose x
    let captures := match kind with
      | .capture number _ => number
      | .plain _ => p.captures
    return ⟨⟨kind, opening, wasLoose, p.level⟩ :: p.groups, name?.toList ++ p.names, captures,
      .opened (← place)⟩

def closeGroup (p : Progress) : Reading Progress := do
  match p.groups with
  | [] => failAtNext .groupUnopened
  | g :: groups =>
    modify fun c => { c with loose := g.wasLoose }
    let inside := p.level.close (← place)
    bump
    return { p with
      groups, level := g.around.add (.group g.kind inside ⟨g.opening.start, ← place⟩) }

/-- Reads how often the last part is repeated. -/
def repeated (p : Progress) (count : Reading Count) : Reading Progress := do
  match p.level.parts with
  | e :: before =>
    if !e.isRepeatable then failHere .repetitionOfNothing
    let c ← count
    let e := .repetition c e ⟨e.stretch.start, ← place⟩
    return { p with level := { p.level with parts := e :: before } }
  | [] => failHere .repetitionOfNothing

/-- Reads one part of the pattern, which begins with the given character. -/
def part (p : Progress) (c : Char) : Reading Progress := do
  if c = '(' then openGroup p
  else if c = ')' then closeGroup p
  else if c = '|' then
    let here ← place
    bump
    return { p with level := p.level.alternate here }
  else if c = '[' then return p.add (.charClass (← Bracket.read))
  else if c = '{' then repeated p Repetition.counts
  else if c = '\\' then return p.add (← Escape.read).expression
  else
    match Repetition.signs.lookup c with
    | some (least, most?) => repeated p (Repetition.sign least most?)
    | none =>
      let here ← place
      let s := ⟨here, here + 1⟩
      bump
      return p.add <|
        if c = '.' then .dot s
        else if c = '^' then .assertion .lineStart s
        else if c = '$' then .assertion .lineStop s
        else .literal ⟨c, false, s⟩

/-- Reads the pattern to its end.  Each turn reads a character at least. -/
def parts : Nat → Progress → Reading Expression
  | 0, p => return p.level.close (← place)
  | n + 1, p => do
    skip
    match ← next?, p.groups with
    | some c, _ => parts n (← part p c)
    | none, [] => return p.level.close (← place)
    | none, g :: _ => fail .groupUnclosed g.opening

/-- The tree of a text that can be read as a pattern. -/
def Expression.ofText (t : Text) : Except Fault Expression :=
  ((parts (t.length + 1) .start).run ⟨0, t, false⟩).map Prod.fst

end ReleaseStamp.Journal.Pattern
