import ReleaseStamp.Text.CodeSet
/-!
# Ranges of characters in bytes

The UTF-8 forms of a range of characters are cut into few patterns, in each of which the bytes at a
place are a range of their own.
-/
namespace ReleaseStamp.Text

structure ByteRange where
  first : UInt8
  last : UInt8
  deriving BEq

namespace ByteRange

/-- Where forms become longer. -/
def lengthenings : List Nat := [0x80, 0x800, 0x10000]

/-- What the last byte of a form tells apart, the last two, and the last three. -/
def blocks : List Nat := [0x40, 0x1000, 0x40000]

/-- Where a range of characters has to be cut to become one pattern, if it has to: where forms
become longer, and where a block begins that is not in the range as a whole. -/
def cut? (first last : Nat) : Option Nat :=
  (lengthenings.find? fun n => first < n && n ≤ last).or <|
    blocks.findSome? fun n =>
      if first / n = last / n then none
      else if first % n ≠ 0 then some ((first / n + 1) * n)
      else if last % n ≠ n - 1 then some (last / n * n)
      else none

def bytesOf (n : Nat) : List UInt8 := String.utf8EncodeChar (Char.ofNat n)

/-- The patterns of a range without surrogates. -/
def ofBlock (first last : Nat) : List (List ByteRange) :=
  match cut? first last with
  | some n =>
    if first < n ∧ n ≤ last then ofBlock first (n - 1) ++ ofBlock n last
    else []
  | none => [(bytesOf first).zipWith ByteRange.mk (bytesOf last)]
termination_by last - first

/-- The patterns of a range, in the order of the characters. -/
def ofRange (r : CodeRange) : List (List ByteRange) :=
  if r.first ≤ 0xD7FF && 0xE000 ≤ r.last then ofBlock r.first 0xD7FF ++ ofBlock 0xE000 r.last
  else ofBlock r.first r.last

end ByteRange

def CodeSet.bytes (s : CodeSet) : List (List ByteRange) := s.flatMap ByteRange.ofRange

end ReleaseStamp.Text
