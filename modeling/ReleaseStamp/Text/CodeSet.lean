import ReleaseStamp.Text.CodeRange
/-!
# Sets of characters

A set of characters is a list of ranges that ascend and leave a gap between any two, so that a set
has one list.  The surrogates are no characters: the one after U+D7FF is U+E000, and two ranges that
meet there leave no gap.
-/
namespace ReleaseStamp.Text

abbrev CodeSet := List CodeRange

namespace CodeSet

def lastCode : Nat := 0x10FFFF

/-- The code of the next character. -/
def succ (n : Nat) : Nat := if n = 0xD7FF then 0xE000 else n + 1

/-- The code of the character before. -/
def pred (n : Nat) : Nat := if n = 0xE000 then 0xD7FF else n - 1

/-- Joins ranges in the order of their first codes. -/
def join (ranges : List CodeRange) : CodeSet :=
  (ranges.foldl meet []).reverse
where
  /-- Joins a range with those before it, the last one first. -/
  meet : List CodeRange → CodeRange → List CodeRange
    | [], r => [r]
    | s :: before, r =>
      if r.first ≤ succ s.last then ⟨s.first, max s.last r.last⟩ :: before else r :: s :: before

def ofRanges (ranges : List CodeRange) : CodeSet :=
  join (ranges.mergeSort fun a b => decide (a.first ≤ b.first))

def ofCode (n : Nat) : CodeSet := [⟨n, n⟩]

def union (s t : CodeSet) : CodeSet := ofRanges (s ++ t)

/-- What lies between ranges, and before and after them, from a code on. -/
def gaps (start : Nat) : CodeSet → CodeSet
  | [] => if start ≤ lastCode then [⟨start, lastCode⟩] else []
  | r :: rest =>
    if start < r.first then ⟨start, pred r.first⟩ :: gaps (succ r.last) rest
    else gaps (succ r.last) rest

def complement (s : CodeSet) : CodeSet := gaps 0 s

def inter (s t : CodeSet) : CodeSet := complement (union (complement s) (complement t))

def diff (s t : CodeSet) : CodeSet := inter s (complement t)

def symmDiff (s t : CodeSet) : CodeSet := union (diff s t) (diff t s)

def has (s : CodeSet) (n : Nat) : Bool := s.any fun r => r.first ≤ n && n ≤ r.last

def isAscii (s : CodeSet) : Bool := s.all fun r => r.last < 0x80

end CodeSet
end ReleaseStamp.Text
