import ReleaseStamp.Text.Basic
/-!
# Declarations as a regular expression

The journal tells what is searched for as a regular expression, in which the name stands for itself.
-/
namespace ReleaseStamp.Declaration

/-- The characters that a regular expression takes for more than themselves. -/
def metacharacters : Text := "\\.+*?()|[]\x7b\x7d^$#&-~".toList

def escape (name : Text) : Text :=
  name.flatMap fun c => if c ∈ metacharacters then ['\\', c] else [c]

def pattern (name : Text) : Text :=
  "\\blet\\s+".toList ++ escape name ++ "\\s*=\\s*\"([^\"]*)\"".toList

end ReleaseStamp.Declaration
