import ReleaseStamp.Declaration.Compile
import ReleaseStamp.Files.Cause
import ReleaseStamp.Stamp
/-!
# Failures

Why an update ends early.  A field that the manifest does not declare is no failure: the update
goes on and warns of it.
-/
namespace ReleaseStamp

inductive Failure where
  | objection (o : Objection)
  | unreadable (path : Text) (cause : Files.Cause)
  /-- The pattern of a field cannot be used.  It does not come to that (`Stamp.unsearchable?_eq`). -/
  | unsearchable (field : Field) (objection : Journal.Pattern.Objection)
  | unwritable (path : Text) (cause : Files.Cause)
  deriving DecidableEq

def Failure.message : Failure → Text
  | .objection o => o.message
  | .unreadable path cause => "Failed to read ".toList ++ path ++ ": ".toList ++ cause.message
  | .unsearchable f o => "Regex error: ".toList ++ o.message (Declaration.pattern f.name)
  | .unwritable path cause => "Failed to write ".toList ++ path ++ ": ".toList ++ cause.message

end ReleaseStamp
