import ReleaseStamp.Journal.Pattern.Depth
import ReleaseStamp.Journal.Pattern.Room
import ReleaseStamp.Journal.Pattern.Sense
import ReleaseStamp.Journal.Pattern.Tree
/-!
# Patterns

A pattern is a regular expression.  A text is one if it can be read, nothing in it stands too deep,
all of it means something, and there is room to carry it out.  What fails first is told.
-/
namespace ReleaseStamp.Journal.Pattern

/-- Why a text is no pattern that can be used. -/
inductive Objection where
  | fault (f : Fault)
  | noRoom
  deriving DecidableEq

namespace Objection

def message (pattern : Text) : Objection → Text
  | .fault f => f.message pattern
  | .noRoom =>
    "Compiled regex exceeds size limit of ".toList ++ Text.ofNat room ++ " bytes.".toList

end Objection

/-- The meaning of a text as a pattern. -/
def meaningOf (t : Text) : Except Fault Meaning := do
  let e ← Expression.ofText t
  match e.tooDeep? 0 with
  | some s => .error ⟨.nestedTooDeep, s, none⟩
  | none => return (← e.meaning .start).1

/-- The meaning of a text as a pattern that there is room for. -/
def compile (t : Text) : Except Objection Meaning :=
  match meaningOf t with
  | .error f => .error (.fault f)
  | .ok m => if m.fits then .ok m else .error .noRoom

end ReleaseStamp.Journal.Pattern
