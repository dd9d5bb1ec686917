import ReleaseStamp.Journal.Pattern.Cursor
import ReleaseStamp.Journal.Pattern.Syntax
/-!
# How often

What stands after an expression that is repeated: a sign, or counts in braces.
-/
namespace ReleaseStamp.Journal.Pattern.Repetition

open Reading

/-- Reads a question mark, after which fewer are tried before more. -/
def greed : Reading Bool := do
  let isGreedy := (← next?) ≠ some '?'
  if !isGreedy then bump
  return isGreedy

def signs : List (Char × Nat × Option Nat) :=
  [('?', 0, some 1), ('*', 0, none), ('+', 1, none)]

/-- Reads a sign that tells how often. -/
def sign (least : Nat) (most? : Option Nat) : Reading Count := do
  bump
  return ⟨least, most?, ← greed⟩

/-- Reads a number, which may be needed only later. -/
def number : Reading (Except Fault Nat) := do
  let _ ← take Text.isBlank
  let start ← place
  let digits ← takeLoosely Char.isDigit
  let s := ⟨start, ← place⟩
  let _ ← takeLoosely Text.isBlank
  match Text.toNat? digits with
  | none => return .error ⟨.countMissing, s, none⟩
  | some n => return if n < 0x100000000 then .ok n else .error ⟨.countInvalid, s, none⟩

def needed {α : Type} : Except Fault α → Reading α
  | .ok a => return a
  | .error f => throw f

/-- Reads how often something is repeated, in braces. -/
def counts : Reading Count := do
  let start ← place
  advance
  orFailSince .countUnclosed start
  let low ← number
  orFailSince .countUnclosed start
  let (least, most?) ←
    if (← next?) = some ',' then do
      advance
      orFailSince .countUnclosed start
      let low ← needed low
      if (← next?) = some '}' then pure (low, none) else pure (low, some (← needed (← number)))
    else do
      let low ← needed low
      pure (low, some low)
  if (← next?) ≠ some '}' then failSince .countUnclosed start
  advance
  let isGreedy ← greed
  if most?.any (· < least) then failSince .countOutOfOrder start
  return ⟨least, most?, isGreedy⟩

end ReleaseStamp.Journal.Pattern.Repetition
