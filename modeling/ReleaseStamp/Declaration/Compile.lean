import ReleaseStamp.Field
import ReleaseStamp.Declaration.Search
import ReleaseStamp.Journal.Pattern.Basic
/-!
# The search for a name

The pattern of a name is looked at before anything is searched for it.  Those of the fields can be
used (`search_field`); the pattern of a name may be refused for want of room.
-/
namespace ReleaseStamp.Declaration

open Journal (Pattern.Objection Pattern.compile)

/-- The search for the first declaration of a name, if the pattern of the name can be used. -/
def search (name : Text) : Except Pattern.Objection (Text → Option Site) :=
  (Pattern.compile (pattern name)).map fun _ => find name

theorem isOk_compile_field (f : Field) : (Pattern.compile (pattern f.name)).isOk = true := by
  cases f <;> decide +kernel

/-- **The fields can be searched for.** -/
theorem search_field (f : Field) : search f.name = .ok (find f.name) := by
  have hok := isOk_compile_field f
  unfold search
  cases h : Pattern.compile (pattern f.name) with
  | error o => rw [h] at hok; cases hok
  | ok m => rfl

end ReleaseStamp.Declaration
