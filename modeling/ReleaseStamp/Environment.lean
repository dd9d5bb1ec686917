import ReleaseStamp.CommandLine.Refusal
import ReleaseStamp.CommandLine.Usage
import ReleaseStamp.Journal.Entry
import ReleaseStamp.Terminal.Colour
import ReleaseStamp.Terminal.Passage
/-!
# The environment of a run

What a run finds around it besides the command line and the files.  Two things are left open: what
time it is, and what advice is given to whoever wrote a command line that is refused.
-/
namespace ReleaseStamp

open CommandLine (Refusal)
open Terminal (Markup Wishes)

structure Environment where
  wishes : Wishes
  /-- The width of the terminal, if there is one. -/
  terminalWidth : Option Nat
  /-- The width that is told where there is no terminal. -/
  columns : Option Text
  /-- Directives on the journal. -/
  journal : Option Text
  /-- Whether the journal is coloured: `always`, `never`, or as other things are. -/
  journalStyle : Option Text
  stdoutIsTerminal : Bool
  stderrIsTerminal : Bool
  /-- The time of each event. -/
  clock : Nat → Text
  /-- How the program is used, and what may have been meant by the arguments. -/
  advice : List Text → Refusal → Markup

namespace Environment

/-- The width that the help is to fit.  One that is no number is not told. -/
def width (env : Environment) : Nat :=
  (env.terminalWidth.or (env.columns.bind Text.toNat?)).getD CommandLine.defaultWidth

/-- What is wanted of the journal, and what cannot be read of the directives on it. -/
def filter (env : Environment) : Journal.Filter × List Journal.Complaint :=
  env.journal.elim (.standard, []) Journal.Filter.read

def complaints (env : Environment) : Text := env.filter.2.flatMap Journal.Complaint.message

def coloursJournal (env : Environment) : Bool :=
  if env.journalStyle = some "always".toList then true
  else if env.journalStyle = some "never".toList then false
  else env.wishes.colourUsage env.stderrIsTerminal

/-- The entries of events, each with its number. -/
def entries (env : Environment) (events : List (Event × Nat)) : Text :=
  (events.filter (·.1.isWanted env.filter.1)).flatMap fun (e, n) =>
    (e.entry (env.clock n)).written env.coloursJournal

end Environment
end ReleaseStamp
