import ReleaseStamp.Text.Basic
/-!
# Whether colour is wanted

Colour is wanted on a terminal, unless the environment forbids it; and it can be forced.  What an
update reports and what else is said weigh the same wishes differently: for a report forcing comes
first and a variable counts once it is set; for the rest forbidding comes first, a variable counts
if it is set to something, and something has to tell that the terminal has colours.
-/
namespace ReleaseStamp.Terminal

structure Wishes where
  clicolor : Option Text
  clicolorForce : Option Text
  noColor : Option Text
  /-- The kind of terminal. -/
  term : Option Text
  /-- Set where the program is run by another that shows colours. -/
  ci : Option Text

/-- A variable says yes unless it is `0`. -/
def saysYes (value : Text) : Bool := value != ['0']

namespace Wishes

def colourReport (w : Wishes) (onTerminal : Bool) : Bool :=
  if w.clicolorForce.any saysYes then true
  else if w.noColor.isSome then false
  else onTerminal && w.clicolor.all saysYes

/-- Whether a terminal is known to show colours. -/
def hasColours (w : Wishes) : Bool :=
  w.term.any (· ≠ "dumb".toList) || w.clicolor.any saysYes || w.ci.isSome

/-- Whether the help is coloured, what is said of a command line that is refused, and the
journal. -/
def colourUsage (w : Wishes) (onTerminal : Bool) : Bool :=
  if w.noColor.any (· ≠ []) then false
  else if w.clicolorForce.any (· ≠ []) then true
  else onTerminal && w.clicolor.all saysYes && w.hasColours

end Wishes
end ReleaseStamp.Terminal
