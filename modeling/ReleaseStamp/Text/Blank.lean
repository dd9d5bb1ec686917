import ReleaseStamp.Text.Basic
import ReleaseStamp.Text.CodeRange
/-!
# Blank characters

A character is blank when it has the Unicode property White_Space.  The class is larger than the
four ASCII blanks of `Char.isWhitespace`: it adds the vertical tab, the form feed, the next-line
character, both no-break spaces and the typographic spaces.
-/
namespace ReleaseStamp.Text

def blankRanges : List CodeRange :=
  [⟨0x0009, 0x000D⟩, ⟨0x0020, 0x0020⟩, ⟨0x0085, 0x0085⟩, ⟨0x00A0, 0x00A0⟩, ⟨0x1680, 0x1680⟩,
    ⟨0x2000, 0x200A⟩, ⟨0x2028, 0x2029⟩, ⟨0x202F, 0x202F⟩, ⟨0x205F, 0x205F⟩, ⟨0x3000, 0x3000⟩]

def isBlank (c : Char) : Bool := blankRanges.any (·.contains c)

/-- The text without the blanks at its ends. -/
def trim (t : Text) : Text := ((t.dropWhile isBlank).reverse.dropWhile isBlank).reverse

end ReleaseStamp.Text
