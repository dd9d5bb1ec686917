import ReleaseStamp.Event
import ReleaseStamp.Journal.Directive
import ReleaseStamp.Terminal.Markup
/-!
# Entries of the journal

An event that is wanted is entered in the journal with the time and with the part of the program
that it comes from.  The lines of a message but for the first are indented.
-/
namespace ReleaseStamp

open Terminal (Markup)

namespace Event

/-- The part of the program that an event comes from. -/
def part : Event → Text
  | .rejected _ _ _ => "manifest_bump::verify::preflight".toList
  | .searching _ | .found _ _ _ _ | .notDeclared _ => "manifest_bump::rewrite::declaration".toList
  | .unreadable _ _ | .read _ _ | .wrote _ _ => "manifest_bump::fs::manifest".toList

def entry (time : Text) (e : Event) : Markup :=
  .emphasised .subtle ['['] ++ .ofText time ++ .ofString " " ++
    .emphasised .level "DEBUG".toList ++ .ofText (' ' :: e.part) ++ .emphasised .subtle [']'] ++
    .ofText (' ' :: e.message.flatMap fun c => if c = '\n' then "\n    ".toList else [c]) ++
    .ofString "\n"

def isWanted (f : Journal.Filter) (e : Event) : Bool := f.admits e.part e.message

end Event
end ReleaseStamp
