import ReleaseStamp.Journal.Pattern.Meaning
import ReleaseStamp.Text.Word
/-!
# Where patterns match

A pattern is tried from several places of a text at once.  Each part of it leads from the places
that have been reached to those that can be reached by it, and whether fewer or more are tried first
makes no difference to that; nor is it told what its groups keep.
-/
namespace ReleaseStamp.Journal.Pattern

open Text (CodeSet)

/-- A place in a text. -/
structure Place where
  /-- What has been passed, the last character first. -/
  seen : Text
  rest : Text
  deriving DecidableEq

namespace Place

/-- The places from one on. -/
def onwards (seen : Text) : Text → List Place
  | [] => [⟨seen, []⟩]
  | c :: t => ⟨seen, c :: t⟩ :: onwards (c :: seen) t

/-- The place after a text that comes next. -/
def pass? (t : Text) (p : Place) : Option Place :=
  (Text.after? t p.rest).map (⟨t.reverse ++ p.seen, ·⟩)

/-- The place after a character of a set that comes next. -/
def passOne? (s : CodeSet) (p : Place) : Option Place :=
  match p.rest with
  | [] => none
  | c :: rest => if s.has c.toNat then some ⟨c :: p.seen, rest⟩ else none

/-- Whether there is a word on either side: before the place, and after it. -/
def words (isUnicode : Bool) (p : Place) : Bool × Bool :=
  let isWord (c : Char) := if isUnicode then Text.isWord c else c.isAlphanum || c = '_'
  (p.seen.head?.any isWord, p.rest.head?.any isWord)

end Place

def Boundary.holds (b : Boundary) (isUnicode : Bool) (p : Place) : Bool :=
  let (before, after) := p.words isUnicode
  match b with
  | .either => before != after
  | .neither => before == after
  | .start => !before && after
  | .stop => before && !after
  | .startHalf => !before
  | .stopHalf => !after

/-- Whether what is asserted holds of a place.  No line begins or ends within a line end. -/
def Look.holds (l : Look) (p : Place) : Bool :=
  match l with
  | .textStart => p.seen = []
  | .textStop => p.rest = []
  | .lineStart returnEndsLine =>
    p.seen = [] || p.seen.head? = some '\n' ||
      (returnEndsLine && p.seen.head? = some '\r' && p.rest.head? ≠ some '\n')
  | .lineStop returnEndsLine =>
    p.rest = [] || (p.rest.head? = some '\n' && !(returnEndsLine && p.seen.head? = some '\r')) ||
      (returnEndsLine && p.rest.head? = some '\r')
  | .boundary b isUnicode => b.holds isUnicode p

namespace Count

/-- What is reached from places by going on so often. -/
def repeatedly (go : List Place → List Place) : Nat → List Place → List Place
  | 0, ps => ps
  | n + 1, ps => repeatedly go n (go ps)

/-- What is reached by going on so often or less often. -/
def atMost (go : List Place → List Place) : Nat → List Place → List Place
  | 0, ps => ps
  | n + 1, ps => atMost go n (ps ++ go ps).eraseDups

/-- The most that is left after any of the places. -/
def longest (ps : List Place) : Nat := (ps.map (·.rest.length)).foldl max 0

/-- What is reached by going on as often as is told.  To go on without passing anything leads
nowhere, so it is enough to go on as often as there are characters left. -/
def reach (c : Count) (go : List Place → List Place) (ps : List Place) : List Place :=
  let ps := repeatedly go c.least ps
  match c.most? with
  | none => atMost go (longest ps) ps
  | some most => if most < c.least then [] else atMost go (min (most - c.least) (longest ps)) ps

end Count

namespace Meaning

mutual

/-- The places that a pattern leads to from any of some. -/
def reach : Meaning → List Place → List Place
  | .empty, ps => ps
  | .literal t, ps => ps.filterMap (·.pass? t)
  | .anyOf s, ps => ps.filterMap (·.passOne? s)
  | .look l, ps => ps.filter l.holds
  | .repetition c m, ps => c.reach m.reach ps
  | .capture _ _ m, ps => m.reach ps
  | .concat ms, ps => reachRow ms ps
  | .alternation ms, ps => reachAny ms ps

def reachRow : List Meaning → List Place → List Place
  | [], ps => ps
  | m :: ms, ps => reachRow ms (m.reach ps)

def reachAny : List Meaning → List Place → List Place
  | [], _ => []
  | m :: ms, ps => m.reach ps ++ reachAny ms ps

end

/-- Whether a pattern matches some part of a text. -/
def isIn (m : Meaning) (t : Text) : Bool := !(m.reach (Place.onwards [] t)).isEmpty

end Meaning
end ReleaseStamp.Journal.Pattern
