import ReleaseStamp.Rejection
import ReleaseStamp.Text.Blank
import ReleaseStamp.Tag.Version
/-!
# Release tags

A tag spells a version and nothing else.  A blank anywhere in it is told apart from any other fault
and is told first.
-/
namespace ReleaseStamp.Tag

/-- The first rule that the value breaks. -/
def rejection? (value : Text) : Option Rejection :=
  if value.any Text.isBlank then some .containsWhitespace
  else if (Version.parse? value).isNone then some .malformedTag
  else none

theorem rejection?_eq_none_iff (value : Text) :
    rejection? value = none ↔ value.any Text.isBlank = false ∧ ∃ v : Version, value = v.render := by
  simp only [rejection?, ← Version.parse?_eq_some_iff, ← Option.isSome_iff_exists]
  cases value.any Text.isBlank <;> cases Version.parse? value <;> simp

end ReleaseStamp.Tag
