import ReleaseStamp.Failure
import ReleaseStamp.Declaration.Pattern
/-!
# Events

The journal of an update: what was refused, searched for, found, read and written, in the order in
which it happened.  A write that fails leaves no event.
-/
namespace ReleaseStamp

inductive Event where
  | rejected (field : Field) (value : Text) (reason : Rejection)
  | searching (name : Text)
  | found (field : Field) (start stop : Nat) (old : Text)
  | notDeclared (field : Field)
  | unreadable (path : Text) (cause : Files.Cause)
  | read (path : Text) (size : Nat)
  | wrote (path : Text) (size : Nat)
  deriving DecidableEq

namespace Event

def message : Event → Text
  | .rejected f v reason =>
    "Rejected ".toList ++ f.name ++ " '".toList ++ v ++ "': ".toList ++ reason.message
  | .searching name => "Compiled declaration pattern: ".toList ++ Declaration.pattern name
  | .found f start stop old =>
    "Found ".toList ++ f.name ++ " at bytes ".toList ++ Text.ofNat start ++ "..".toList ++
      Text.ofNat stop ++ ": '".toList ++ old ++ ['\'']
  | .notDeclared f => "No declaration found for '".toList ++ f.name ++ ['\'']
  | .unreadable path cause =>
    "Failed to read file ".toList ++ path ++ ": ".toList ++ cause.message
  | .read path size =>
    "Read ".toList ++ Text.ofNat size ++ " bytes from ".toList ++ path
  | .wrote path size =>
    "Wrote ".toList ++ Text.ofNat size ++ " bytes to ".toList ++ path

def isWriting : Event → Bool
  | .wrote _ _ => true
  | _ => false

/-- Every event is of interest to whoever looks for a fault, and to nobody else. -/
def record (e : Event) : Text := "DEBUG: ".toList ++ e.message

end Event

/-- The events of accepting or refusing a request. -/
def Request.events (r : Request) : List Event :=
  match r.objection? with
  | some (.rejected f v reason) => [.rejected f v reason]
  | _ => []

end ReleaseStamp
