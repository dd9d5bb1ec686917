import ReleaseStamp.Journal.Pattern.Meaning
import ReleaseStamp.Journal.Pattern.Modes
import ReleaseStamp.Text.Property.Fold
import ReleaseStamp.Text.Word
/-!
# From syntax to meaning

What an expression means depends on the modes where it stands.  Some expressions mean nothing: names
of no property, properties in a pattern of bytes, and all that could match bytes that are no text.
-/
namespace ReleaseStamp.Journal.Pattern

open Text (CodeSet CodeRange)

def Shorthand.ascii : Shorthand → CodeSet
  | .digit => [⟨0x30, 0x39⟩]
  | .blank => [⟨0x09, 0x0D⟩, ⟨0x20, 0x20⟩]
  | .word => [⟨0x30, 0x39⟩, ⟨0x41, 0x5A⟩, ⟨0x5F, 0x5F⟩, ⟨0x61, 0x7A⟩]

def Shorthand.unicode : Shorthand → CodeSet
  | .digit => Text.Property.Category.decimalNumber.set
  | .blank => Text.blankRanges
  | .word => Shorthand.word.ascii ++ Text.wordRanges

def NamedClass.set : NamedClass → CodeSet
  | .alnum => [⟨0x30, 0x39⟩, ⟨0x41, 0x5A⟩, ⟨0x61, 0x7A⟩]
  | .alpha => [⟨0x41, 0x5A⟩, ⟨0x61, 0x7A⟩]
  | .ascii => [⟨0x00, 0x7F⟩]
  | .blank => [⟨0x09, 0x09⟩, ⟨0x20, 0x20⟩]
  | .cntrl => [⟨0x00, 0x1F⟩, ⟨0x7F, 0x7F⟩]
  | .digit => [⟨0x30, 0x39⟩]
  | .graph => [⟨0x21, 0x7E⟩]
  | .lower => [⟨0x61, 0x7A⟩]
  | .print => [⟨0x20, 0x7E⟩]
  | .punct => [⟨0x21, 0x2F⟩, ⟨0x3A, 0x40⟩, ⟨0x5B, 0x60⟩, ⟨0x7B, 0x7E⟩]
  | .space => [⟨0x09, 0x0D⟩, ⟨0x20, 0x20⟩]
  | .upper => [⟨0x41, 0x5A⟩]
  | .word => Shorthand.word.ascii
  | .xdigit => [⟨0x30, 0x39⟩, ⟨0x41, 0x46⟩, ⟨0x61, 0x66⟩]

def Combination.apply : Combination → CodeSet → CodeSet → CodeSet
  | .intersection => CodeSet.inter
  | .difference => CodeSet.diff
  | .symmetricDifference => CodeSet.symmDiff

namespace Modes

variable (m : Modes)

/-- Where case makes no difference, a set has all that differs in case only from something in it. -/
def fold (s : CodeSet) : CodeSet :=
  if !m.ignoresCase then s
  else if m.unicode then Text.Property.foldCase s
  else (Text.Property.foldCase s).inter NamedClass.ascii.set

/-- A set, negated if it is to be.  The negation of a set of bytes has bytes that are no text, which
is a fault of the stretch. -/
def negated (s : CodeSet) (isNegated : Bool) (stretch : Stretch) : Except Fault CodeSet :=
  if !isNegated then .ok s
  else if m.unicode then .ok s.complement
  else .error ⟨.invalidUtf8, stretch, none⟩

/-- What a dot stands for. -/
def dot : CodeSet :=
  if m.dotAll then CodeSet.complement []
  else CodeSet.complement (⟨0x0A, 0x0A⟩ :: if m.returnEndsLine then [⟨0x0D, 0x0D⟩] else [])

end Modes

/-- The code of a character in a class. -/
def Literal.code (m : Modes) (l : Literal) : Except Fault Nat :=
  if m.unicode || l.char.toNat < 0x80 then .ok l.char.toNat
  else .error ⟨if l.isByte then .invalidUtf8 else .unicodeNotAllowed, l.stretch, none⟩

def answer (m : Modes) (q : Text.Property.Query) (s : Stretch) : Except Fault CodeSet :=
  if !m.unicode then .error ⟨.unicodeNotAllowed, s, none⟩
  else
    match q.points with
    | .ok p => .ok p.set
    | .error .property => .error ⟨.propertyUnknown, s, none⟩
    | .error .value => .error ⟨.propertyValueUnknown, s, none⟩

mutual

def CharClass.set (m : Modes) : CharClass → Except Fault CodeSet
  | .empty _ => .ok []
  | .literal l => (l.code m).map CodeSet.ofCode
  | .range first last => do return [⟨← first.code m, ← last.code m⟩]
  | .named n isNegated s => m.negated (m.fold n.set) isNegated s
  | .shorthand h isNegated s => m.negated (if m.unicode then h.unicode else h.ascii) isNegated s
  | .property q isNegated s => do m.negated (m.fold (← answer m q s)) isNegated s
  | .bracketed c isNegated s => do m.negated (m.fold (← c.set m)) isNegated s
  | .union items _ => (CharClass.ranges m [] items).map CodeSet.ofRanges
  | .combined c left right _ => do
    let left ← left.set m
    let right ← right.set m
    return c.apply (m.fold left) (m.fold right)

/-- The ranges of items, after others. -/
def CharClass.ranges (m : Modes) (before : List CodeRange) :
    List CharClass → Except Fault (List CodeRange)
  | [] => .ok before
  | c :: cs => do CharClass.ranges m ((← c.set m) ++ before) cs

end

def Literal.meaning (m : Modes) (l : Literal) : Except Fault Meaning :=
  if !m.unicode && l.isByte && 0x80 ≤ l.char.toNat then .error ⟨.invalidUtf8, l.stretch, none⟩
  else if m.unicode || l.char.toNat < 0x80 then .ok (.ofSet (m.fold (.ofCode l.char.toNat)))
  else .ok (.literal [l.char])

def Assertion.look (m : Modes) : Assertion → Look
  | .lineStart => if m.multiLine then .lineStart m.returnEndsLine else .textStart
  | .lineStop => if m.multiLine then .lineStop m.returnEndsLine else .textStop
  | .textStart => .textStart
  | .textStop => .textStop
  | .boundary b => .boundary b m.unicode

mutual

/-- What an expression means, and the modes after it. -/
def Expression.meaning (m : Modes) : Expression → Except Fault (Meaning × Modes)
  | .empty _ => .ok (.empty, m)
  | .setting x _ => .ok (.empty, m.apply x)
  | .literal l => do return (← l.meaning m, m)
  | .dot s => if m.unicode then .ok (.ofSet m.dot, m) else .error ⟨.invalidUtf8, s, none⟩
  | .assertion a _ => .ok (.look (a.look m), m)
  | .charClass c => do return (.ofSet (← c.set m), m)
  | .repetition c e _ => do
    let (e, m) ← e.meaning m
    return (.repeated { c with isGreedy := c.isGreedy != m.swapsGreed } e, m)
  | .group (.plain x) e _ => do return ((← e.meaning (m.apply x)).1, m)
  | .group (.capture number name?) e _ => do
    return (.capture number name? (← e.meaning m).1, m)
  | .concat es _ => do
    let (es, m) ← Expression.meanings m [] es
    return (.row es, m)
  | .alternation es _ => do
    let (es, m) ← Expression.meanings m [] es
    return (.either es, m)

/-- What expressions mean one after the other, after those before, the last one first. -/
def Expression.meanings (m : Modes) (before : List Meaning) :
    List Expression → Except Fault (List Meaning × Modes)
  | [] => .ok (before.reverse, m)
  | e :: es => do
    let (e, m) ← e.meaning m
    Expression.meanings m (e :: before) es

end

end ReleaseStamp.Journal.Pattern
