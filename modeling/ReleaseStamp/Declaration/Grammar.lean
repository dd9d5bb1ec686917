import ReleaseStamp.Text.Blank
import ReleaseStamp.Text.Word
import ReleaseStamp.Declaration.Site
/-!
# The form of a declaration

A declaration of a name reads `let`, blanks, the name, `=` and a value in quotes, with or without
blanks around the `=`; a line may end at any of these blanks.  The keyword begins a word, the name
is taken as it stands, and the value ends at the next quote, wherever that is.
-/
namespace ReleaseStamp.Declaration

open Text (isBlank isWord)

def keyword : Text := "let".toList

/-- Whether a word can begin after the text, whose characters are given last one first. -/
def wordMayBegin : Text → Bool
  | [] => true
  | c :: _ => !isWord c

/-- What stands from the keyword to the opening quote. -/
def IsHead (name head : Text) : Prop :=
  ∃ gap pad lead : Text, gap ≠ [] ∧ (∀ c ∈ gap ++ pad ++ lead, isBlank c = true) ∧
    head = keyword ++ gap ++ name ++ pad ++ '=' :: (lead ++ ['"'])

/-- A declaration of the name stands at the site. -/
structure IsAt (name : Text) (s : Site) : Prop where
  wordMayBegin_front : wordMayBegin s.front.reverse = true
  isHead : IsHead name s.head
  quote_notMem_value : '"' ∉ s.value
  head?_rest : s.rest.head? = some '"'

end ReleaseStamp.Declaration
