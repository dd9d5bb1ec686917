import ReleaseStamp.Revision
import ReleaseStamp.Files.Path
import ReleaseStamp.Terminal.Style
/-!
# Notices

What an update says while it works.  Each notice is a whole number of lines.  Old and new values
are set off by colour where it is wanted, and the notices of a revision tell each edit once: the
values of a field that was declared, or a warning of one that was not.
-/
namespace ReleaseStamp

open Terminal (Style)

inductive Notice where
  | updating (path : Text)
  | setting (field : Field) (value : Text)
  | replaced (old new : Text)
  | nothingToChange
  | dryRun (matched : Nat)
  | updated (path : Text)
  /-- A warning: the file is named, not the path. -/
  | notDeclared (field : Field) (file : Text)
  deriving DecidableEq

namespace Notice

def render (colour : Bool) : Notice → Text
  | .updating path => "Updating: ".toList ++ path ++ ['\n']
  | .setting f value =>
    "Setting ".toList ++ Style.bold.paint colour f.name ++ ": ".toList ++ value ++ ['\n']
  | .replaced old new =>
    "  Changed from: ".toList ++ Style.yellow.paint colour old ++ ['\n'] ++
      "  Changed to:   ".toList ++ Style.green.paint colour new ++ ['\n']
  | .nothingToChange => '\n' :: Style.yellow.paint colour "No changes needed".toList ++ ['\n']
  | .dryRun matched =>
    '\n' :: Style.boldYellow.paint colour "DRY RUN - No changes will be made".toList ++
      " (".toList ++ Text.ofNat matched ++ " declaration(s) matched)\n".toList
  | .updated path =>
    Style.boldGreen.paint colour "✓ Successfully updated".toList ++ ' ' :: path ++ ['\n']
  | .notDeclared f file =>
    "  ".toList ++ Style.boldYellow.paint colour "Warning:".toList ++ " Could not find ".toList ++
      f.name ++ " in ".toList ++ file ++ ['\n']

def renderAll (colour : Bool) (notices : List Notice) : Text := notices.flatMap (render colour)

end Notice

def Edit.notices (e : Edit) : List Notice :=
  .setting e.field e.value ::
    match e.site? with
    | some s => [.replaced s.value e.value]
    | none => []

namespace Revision

/-- What is said of a revision as such. -/
def notices (r : Revision) : List Notice :=
  r.edits.flatMap Edit.notices ++ if r.isNoop then [.nothingToChange] else []

def warnings (r : Revision) (path : Text) : List Notice :=
  r.notFound.map (.notDeclared · ((Files.Path.fileName? path).getD path))

end Revision
end ReleaseStamp
