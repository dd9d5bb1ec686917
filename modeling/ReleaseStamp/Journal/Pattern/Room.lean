import Std.Data.TreeMap
import ReleaseStamp.Journal.Pattern.Meaning
import ReleaseStamp.Text.ByteRange
/-!
# The room that patterns take

A pattern is carried out by two automata, one that reads a text forwards and one that reads it
backwards, and there is so much room for each.  An automaton is made up of states, and each state
and each transition that is listed takes its room.  `fits` tells whether there is room for both: the
states are counted as they are made, and the counting stops where the room ends.
-/
namespace ReleaseStamp.Journal.Pattern

open Text (ByteRange CodeSet)

/-- The room for an automaton, in bytes. -/
def room : Nat := 10485760

/-- What a state takes. -/
def stateRoom : Nat := 32

/-- What one of several bytes takes that lead to different states. -/
def branchRoom : Nat := 8

/-- What one of several states takes that follow at once. -/
def forkRoom : Nat := 4

/-- What has been made of an automaton. -/
structure Built where
  states : Nat
  /-- The room of what states list. -/
  listed : Nat

/-- Building ends where the room does. -/
abbrev Building := StateT Built Option

/-- What has been built of an expression ends in a state, which may be one that others follow at
once and that lists them. -/
abbrev EndsInFork := Bool

namespace Building

def checked (b : Built) : Option (Unit × Built) :=
  if b.states * stateRoom + b.listed ≤ room then some ((), b) else none

/-- Makes a state with a list that takes so much, and gives its number. -/
def state (listed : Nat) : Building Nat := do
  let b ← get
  fun _ => checked ⟨b.states + 1, b.listed + listed⟩
  return b.states

/-- Lists a state in a fork. -/
def list : Building Unit := fun b => checked { b with listed := b.listed + forkRoom }

/-- Lets a state follow what ends in one. -/
def follow (endsInFork : EndsInFork) : Building Unit := if endsInFork then list else pure ()

def single (listed : Nat) : Building EndsInFork := do
  let _ ← state listed
  return false

/-- Builds more after what has been built, so many times. -/
def times (build : Building EndsInFork) : Nat → EndsInFork → Building EndsInFork
  | 0, last => return last
  | n + 1, last => do
    let next ← build
    follow last
    times build n next

def exactly (build : Building EndsInFork) : Nat → Building EndsInFork
  | 0 => single 0
  | n + 1 => do times build n (← build)

def inRow : List (Building EndsInFork) → Building EndsInFork
  | [] => single 0
  | build :: rest => do
    let mut last ← build
    for build in rest do
      let next ← build
      follow last
      last := next
    return last

/-- Builds what may be left out, so many times. -/
def optional (build : Building EndsInFork) : Nat → EndsInFork → Building EndsInFork
  | 0, last => do
    follow last
    return false
  | n + 1, last => do
    let _ ← state 0
    let next ← build
    follow last
    list
    list
    optional build n next

/-- Builds what is repeated at least so often.  What matches the empty text is not entered again
without end. -/
def atLeast (build : Building EndsInFork) (isNeverEmpty : Bool) : Nat → Building EndsInFork
  | 0 => do
    if isNeverEmpty then
      let _ ← state 0
      let inside ← build
      list
      follow inside
      return true
    else
      let inside ← build
      let _ ← state 0
      follow inside
      list
      let _ ← state 0
      let _ ← state 0
      list
      list
      list
      return false
  | 1 => do
    let inside ← build
    let _ ← state 0
    follow inside
    list
    return true
  | n + 2 => do
    let before ← exactly build (n + 1)
    let inside ← build
    let _ ← state 0
    follow before
    follow inside
    list
    return true

def repeated (build : Building EndsInFork) (isNeverEmpty : Bool) (c : Count) :
    Building EndsInFork := do
  match c.least, c.most? with
  | 0, some 1 =>
    let _ ← state 0
    let inside ← build
    let _ ← state 0
    list
    list
    follow inside
    return false
  | least, none => atLeast build isNeverEmpty least
  | least, some most =>
    let before ← exactly build least
    if most ≤ least then return before
    let _ ← state 0
    optional build (most - least) before

/-- Builds one of several. -/
def oneOf : List (Building EndsInFork) → Building EndsInFork
  | [] => single 0
  | [build] => build
  | first :: second :: rest => do
    let a ← first
    let b ← second
    let _ ← state 0
    let _ ← state 0
    list
    follow a
    list
    follow b
    for build in rest do
      let c ← build
      list
      follow c
    return false

end Building

/-! ## Literals that share their beginnings -/

/-- Literals in the order in which they are tried, cut where one ends: what comes after it is tried
apart from what comes before. -/
def cutWhereEnded (words : List (List UInt8)) : List (List (List UInt8)) :=
  match words.dropWhile List.isEmpty with
  | [] => if words.isEmpty then [[]] else [[], []]
  | rest =>
    let cut := cutAtEmpty rest
    if rest.length = words.length then cut else [] :: cut
where
  cutAtEmpty (words : List (List UInt8)) : List (List (List UInt8)) :=
    words.foldr (fun word cut =>
      match word, cut with
      | [], cut => [] :: cut
      | word, words :: cut => (word :: words) :: cut
      | word, [] => [[word]]) [[]]

/-- Words that begin with the same byte, each without it. -/
def byFirst (words : List (List UInt8)) : List (List (List UInt8)) :=
  (words.filterMap List.head?).eraseDups.map fun b =>
    words.filterMap fun word => if word.head? = some b then some word.tail else none

/-- Builds words that share their beginnings, of so many bytes at most. -/
def Building.shared : Nat → List (List UInt8) → Building Unit
  | 0, _ => return
  | n + 1, words => do
    let cut := (cutWhereEnded words).map byFirst
    for branches in cut do
      for words in branches do
        if words.any fun word => !word.isEmpty then shared n words
      if branches.length = 1 then let _ ← state 0
      else if 1 < branches.length then let _ ← state (branchRoom * branches.length)
    let _ ← state (forkRoom * ((cut.filter fun l => !l.isEmpty).length + (cut.length - 1)))

/-! ## Sets beyond ASCII -/

/-- What has been built lately, each under a number that is worked out from it; what comes under the
same number drives it out. -/
abbrev Memory (α : Type) := Std.TreeMap Nat (α × Nat)

namespace Memory

variable {α : Type} [BEq α]

def stateOf? (m : Memory α) (slot : Nat) (what : α) : Option Nat :=
  match m[slot]? with
  | some (known, state) => if known == what then some state else none
  | none => none

/-- The number of what is described by numbers, below a limit. -/
def slot (limit : Nat) (description : List Nat) : Nat :=
  (description.foldl (fun (h : UInt64) n => (h ^^^ n.toUInt64) * 1099511628211)
    14695981039346656037).toNat % limit

end Memory

/-- A transition by a range of bytes. -/
structure Transition where
  range : ByteRange
  next : Nat
  deriving BEq

namespace Building

/-- What is remembered of transitions, forwards. -/
def forwardSlots : Nat := 10000

/-- What is remembered of transitions, backwards. -/
def backwardSlots : Nat := 1000

/-- Transitions that are not all known: those that are, the last one first, and the range of the
next one. -/
structure Unfinished where
  known : List Transition
  next? : Option ByteRange

def Unfinished.finish (u : Unfinished) (next : Nat) : Unfinished :=
  match u.next? with
  | none => u
  | some range => ⟨⟨range, next⟩ :: u.known, none⟩

/-- Makes a state with transitions, unless one is remembered. -/
def shareState (memory : Memory (List Transition)) (ts : List Transition) :
    Building (Nat × Memory (List Transition)) := do
  let slot := Memory.slot forwardSlots <|
    ts.flatMap fun t => [t.range.first.toNat, t.range.last.toNat, t.next]
  match memory.stateOf? slot ts with
  | some state => return (state, memory)
  | none =>
    let state ← state (branchRoom * ts.length)
    return (state, memory.insert slot (ts, state))

/-- Finishes all but so many of the states that are under way, the innermost one first. -/
def finishFrom (target : Nat) : Nat → List Unfinished → Memory (List Transition) →
    Building (List Unfinished × Memory (List Transition))
  | 0, states, memory =>
    match states with
    | [] => return ([], memory)
    | u :: outer => return (u.finish target :: outer, memory)
  | n + 1, states, memory =>
    match states with
    | [] => return ([], memory)
    | u :: outer => do
      let (state, memory) ← shareState memory (u.finish target).known.reverse
      finishFrom state n outer memory

/-- How many of the states that are under way a pattern goes through. -/
def commonLength : List Unfinished → List ByteRange → Nat
  | u :: us, r :: rs => if u.next? == some r then commonLength us rs + 1 else 0
  | _, _ => 0

/-- The states under way once a pattern goes on from the innermost one. -/
def goOn (states : List Unfinished) : List ByteRange → List Unfinished
  | [] => states
  | r :: rs =>
    let states := match states with
      | [] => []
      | u :: outer => { u with next? := some r } :: outer
    rs.foldl (fun states r => ⟨[], some r⟩ :: states) states

/-- Builds a set forwards, where patterns that go on the same share states. -/
def setForwards (patterns : List (List ByteRange)) : Building EndsInFork := do
  let target ← state 0
  let mut states : List Unfinished := [⟨[], none⟩]
  let mut memory : Memory (List Transition) := {}
  for pattern in patterns do
    let n := commonLength states.reverse pattern
    (states, memory) ← finishFrom target (states.length - 1 - n) states memory
    states := goOn states (pattern.drop n)
  (states, memory) ← finishFrom target (states.length - 1) states memory
  for u in states do
    let _ ← shareState memory u.known.reverse
  return false

/-- Builds a set backwards, where patterns that begin the same share states. -/
def setBackwards (patterns : List (List ByteRange)) : Building EndsInFork := do
  let _ ← state 0
  let target ← state 0
  let mut memory : Memory Transition := {}
  for pattern in patterns do
    let mut next := target
    for range in pattern do
      let t : Transition := ⟨range, next⟩
      let slot := Memory.slot backwardSlots [next, range.first.toNat, range.last.toNat]
      match memory.stateOf? slot t with
      | some state => next := state
      | none =>
        let state ← state 0
        memory := memory.insert slot (t, state)
        next := state
    list
  return false

def set (isForward : Bool) (s : CodeSet) : Building EndsInFork := do
  if s.isAscii then
    let _ ← state 0
    single (branchRoom * s.length)
  else if isForward then setForwards s.bytes
  else setBackwards s.bytes

end Building

/-! ## All of a pattern -/

namespace Meaning

open Building

/-- The bytes of literals in the order in which they are read, if all meanings are literals. -/
def words? (isForward : Bool) : List Meaning → Option (List (List UInt8))
  | [] => some []
  | .literal t :: ms =>
    let bytes := t.flatMap String.utf8EncodeChar
    (words? isForward ms).map ((if isForward then bytes else bytes.reverse) :: ·)
  | _ :: _ => none

mutual

/-- Builds what carries out a meaning, forwards or backwards. -/
def build (isForward : Bool) : Meaning → Building EndsInFork
  | .empty | .look _ => single 0
  | .literal t => exactly (single 0) (Text.byteLength t)
  | .anyOf s => Building.set isForward s
  | .repetition c m => Building.repeated (m.build isForward) ((m.shortest?.getD 0) != 0) c
  | .capture _ _ m =>
    if isForward then do
      let _ ← state 0
      let inside ← m.build isForward
      let _ ← state 0
      follow inside
      return false
    else m.build isForward
  | .concat ms =>
    let parts := builds isForward ms
    inRow (if isForward then parts else parts.reverse)
  | .alternation ms =>
    match words? isForward ms with
    | some words => do
      let _ ← state 0
      shared ((words.map List.length).max?.getD 0) words
      return false
    | none => oneOf (builds isForward ms)

def builds (isForward : Bool) : List Meaning → List (Building EndsInFork)
  | [] => []
  | m :: ms => m.build isForward :: builds isForward ms

end

/-- Builds an automaton: what passes over the text before a match, unless a match can only be where
reading starts, and what carries out the meaning.  What passes over a byte takes as much room as any
single range, whichever it is. -/
def automaton (isForward : Bool) (m : Meaning) : Building Unit := do
  let before ← if if isForward then m.startsText else m.stopsText then single 0
    else atLeast (Building.set isForward [⟨0, 0⟩]) true 0
  let inside ← Meaning.build isForward (if isForward then .capture 0 none m else m)
  let _ ← state 0
  follow inside
  follow before

def fitsIn (isForward : Bool) (m : Meaning) : Bool := ((m.automaton isForward).run ⟨0, 0⟩).isSome

/-- Whether there is room for a pattern. -/
def fits (m : Meaning) : Bool := m.fitsIn false && m.fitsIn true

end Meaning
end ReleaseStamp.Journal.Pattern
