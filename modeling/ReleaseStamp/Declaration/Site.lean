import ReleaseStamp.Text.Basic
/-!
# Sites

A site is the place of a declaration in a text: the text is cut before the keyword, before the
value and after it.  Putting a new value in keeps the other three parts as they are.
-/
namespace ReleaseStamp

structure Site where
  /-- All that stands before the keyword. -/
  front : Text
  /-- From the keyword to the opening quote. -/
  head : Text
  value : Text
  /-- From the closing quote on. -/
  rest : Text
  deriving DecidableEq

namespace Site

def text (s : Site) : Text := s.front ++ s.head ++ s.value ++ s.rest

def withValue (s : Site) (value : Text) : Site := { s with value }

/-- The byte at which the value begins. -/
def start (s : Site) : Nat := Text.byteLength (s.front ++ s.head)

/-- The byte before which the value ends. -/
def stop (s : Site) : Nat := s.start + Text.byteLength s.value

end Site
end ReleaseStamp
