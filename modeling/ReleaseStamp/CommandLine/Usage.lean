import ReleaseStamp.CommandLine.Switch
import ReleaseStamp.Job
import ReleaseStamp.Terminal.Markup
import ReleaseStamp.Text.Line
/-!
# What the command line tells of itself

The help fits the width of the terminal.  The descriptions of the switches stand in a column to the
right of the switches; on a terminal where that column is narrow and would break a description, each
description stands below its switch instead, and on one that has no room for the column at all the
column is filled word by word.
-/
namespace ReleaseStamp.CommandLine

open Terminal (Markup)

/-- The width of a terminal that does not tell. -/
def defaultWidth : Nat := 100

def program : Text := "manifest-bump".toList

def purpose : Text :=
  "Update the checksum and/or release tag declared in a package manifest".toList

def description : Switch → Text
  | .parameter .checksum => "New lowercase hexadecimal checksum of the release artifact".toList
  | .parameter .tag => "New release tag (e.g. v0.1.0 or 0.1.0)".toList
  | .parameter .manifestPath =>
    "Path to the manifest to update [default: ".toList ++ Job.defaultPath ++ [']']
  | .flag .dryRun => "Show what would change without writing the manifest".toList
  | .flag .help => "Print help".toList
  | .flag .version => "Print version".toList

def spaces (n : Nat) : Text := List.replicate n ' '

/-- The switch as the help shows it, with room for a letter where there is none. -/
def label (s : Switch) : Markup :=
  (match s with
    | .parameter _ => .ofText (spaces 6)
    | .flag f => .ofText (spaces 2) ++ .emphasised .literal ['-', f.letter] ++ .ofString ", ") ++
  .emphasised .literal s.longName ++ .ofText s.placeholder

/-- Where the column of descriptions begins. -/
def column : Nat := (Switch.all.map fun s => (label s).text.length + 2).foldl max 0

/-- Whether the column takes up more than two fifths of the width and leaves too little for some
description. -/
def isNarrow (width : Nat) : Bool :=
  column ≤ width && 2 * width < 5 * column &&
    Switch.all.any fun s => width - column < (description s).length

/-- Lines, of which all but the first are indented. -/
def hang (indent : Nat) (lines : List Text) : Text := ('\n' :: spaces indent).intercalate lines

def entry (width : Nat) (s : Switch) : Markup :=
  let below := 10
  label s ++ .ofText (
    if isNarrow width then
      '\n' :: spaces below ++ hang below (Text.wrap (width - below) (description s))
    else
      spaces (column - (label s).text.length) ++
        hang column (Text.wrap (width - column) (description s))) ++
  .ofString "\n"

def help (width : Nat) : Markup :=
  .ofText (hang 0 (Text.wrap width purpose)) ++ .ofString "\n\n" ++
    .emphasised .heading "Usage:".toList ++ .ofString " " ++ .emphasised .literal program ++
    .ofString " [OPTIONS]\n\n" ++
    .emphasised .heading "Options:".toList ++ .ofString "\n" ++
    Switch.all.flatMap (entry width)

def versionText : Text := program ++ " 0.1.0\n".toList

end ReleaseStamp.CommandLine
