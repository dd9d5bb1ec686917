import ReleaseStamp.Text.Basic
/-!
# Fields

What a release stamps into its manifest.  A field is declared under its own name, and fields are
always treated in the order of `Field.all`.
-/
namespace ReleaseStamp

inductive Field where
  | checksum
  | tag
  deriving DecidableEq, Repr

namespace Field

def all : List Field := [.checksum, .tag]

theorem mem_all (f : Field) : f ∈ all := by cases f <;> decide

theorem all_nodup : all.Nodup := by decide

/-- The name that a manifest declares the field under. -/
def name : Field → Text
  | .checksum => "checksum".toList
  | .tag => "tag".toList

theorem name_inj : ∀ f g : Field, f.name = g.name → f = g
  | .checksum, .checksum, _ => rfl
  | .checksum, .tag, h => absurd h (by decide)
  | .tag, .checksum, h => absurd h (by decide)
  | .tag, .tag, _ => rfl

end Field
end ReleaseStamp
