import ReleaseStamp.Text.Basic
import ReleaseStamp.Text.CodeSet
/-!
# What has a property

The characters that have a property are described by a table or by those of other properties, and
the description is only worked out where it is asked for.
-/
namespace ReleaseStamp.Text.Property

/-- A description of a set of characters. -/
inductive Points where
  /-- Codes in hexadecimal, with blanks between them: `41` is a code, `41-5A` all from the one to
  the other, and `41-5B/2` every second of them. -/
  | table (lines : List String)
  | ranges (s : CodeSet)
  | union (a b : Points)
  | minus (a b : Points)
  | complement (a : Points)

namespace Points

def nothing : Points := .table []

def anyOf : List Points → Points
  | [] => nothing
  | [p] => p
  | p :: rest => .union p (anyOf rest)

def digitValue (c : Char) : Nat :=
  if c.isDigit then c.toNat - '0'.toNat else c.toNat - 'A'.toNat + 10

def code (digits : Text) : Nat := digits.foldl (fun n c => n * 16 + digitValue c) 0

/-- The codes of an entry of a table. -/
def rangesOf (entry : Text) : List CodeRange :=
  match entry.splitOn '-' with
  | [first, last] =>
    match last.splitOn '/' with
    | [last, step] =>
      let step := code step
      (List.range ((code last - code first) / step + 1)).map fun i =>
        ⟨code first + step * i, code first + step * i⟩
    | _ => [⟨code first, code last⟩]
  | _ => [⟨code entry, code entry⟩]

def rangesOfLine (line : String) : List CodeRange :=
  (line.toList.splitOn ' ').flatMap rangesOf

def set : Points → CodeSet
  | .table lines => .join (lines.flatMap rangesOfLine)
  | .ranges s => s
  | .union a b => a.set.union b.set
  | .minus a b => a.set.diff b.set
  | .complement a => a.set.complement

end Points
end ReleaseStamp.Text.Property
