import ReleaseStamp.Journal.Pattern.Syntax
/-!
# The depth of a pattern

Expressions and classes that hold others may stand within each other only so deep.
-/
namespace ReleaseStamp.Journal.Pattern

/-- How many may stand within each other. -/
def deepest : Nat := 250

mutual

/-- The first of a class that stands too deep, where so many stand around the class. -/
def CharClass.tooDeep? (depth : Nat) : CharClass → Option Stretch
  | .bracketed c _ s => if deepest ≤ depth then some s else c.tooDeep? (depth + 1)
  | .union items s => if deepest ≤ depth then some s else CharClass.anyTooDeep? (depth + 1) items
  | .combined _ left right s =>
    if deepest ≤ depth then some s
    else (left.tooDeep? (depth + 1)).or (right.tooDeep? (depth + 1))
  | _ => none

def CharClass.anyTooDeep? (depth : Nat) : List CharClass → Option Stretch
  | [] => none
  | c :: cs => (c.tooDeep? depth).or (CharClass.anyTooDeep? depth cs)

end

mutual

/-- The first of an expression that stands too deep, where so many stand around the expression. -/
def Expression.tooDeep? (depth : Nat) : Expression → Option Stretch
  | .charClass c => c.tooDeep? depth
  | .repetition _ e s | .group _ e s =>
    if deepest ≤ depth then some s else e.tooDeep? (depth + 1)
  | .concat es s | .alternation es s =>
    if deepest ≤ depth then some s else Expression.anyTooDeep? (depth + 1) es
  | _ => none

def Expression.anyTooDeep? (depth : Nat) : List Expression → Option Stretch
  | [] => none
  | e :: es => (e.tooDeep? depth).or (Expression.anyTooDeep? depth es)

end

end ReleaseStamp.Journal.Pattern
