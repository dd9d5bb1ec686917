import ReleaseStamp.Text.Basic
/-!
# Styles

Text is set off on a terminal by an escape sequence before it and a reset after it.  A reset inside
the text would end the style early, so the style is taken up again after each.
-/
namespace ReleaseStamp.Terminal

inductive Style where
  | bold
  | yellow
  | green
  | boldYellow
  | boldGreen
  deriving DecidableEq

/-- The order to go on with the attributes of a code. -/
def order (code : Text) : Text := "\x1b[".toList ++ code ++ ['m']

def reset : Text := "\x1b[0m".toList

namespace Style

def codes : Style → Text
  | .bold => "1".toList
  | .yellow => "33".toList
  | .green => "32".toList
  | .boldYellow => "1;33".toList
  | .boldGreen => "1;32".toList

def start (s : Style) : Text := order s.codes

/-- Takes the style up again after each reset. -/
def resume (s : Style) : Text → Text
  | [] => []
  | '\x1b' :: '[' :: '0' :: 'm' :: t => reset ++ s.start ++ s.resume t
  | c :: t => c :: s.resume t

/-- The text in the style, where colour is wanted. -/
def paint (s : Style) (colour : Bool) (t : Text) : Text :=
  if colour then s.start ++ s.resume t ++ reset else t

end Style
end ReleaseStamp.Terminal
