import ReleaseStamp.Text.Basic
/-!
# Lines

The lines of a text, and the lines into which words are filled.
-/
namespace ReleaseStamp.Text

/-- A line that a line feed ended.  A carriage return right before that belongs to the line end. -/
def chomp (line : Text) : Text := if line.getLast? = some '\r' then line.dropLast else line

/-- What is before the first line end. -/
def firstLine (t : Text) : Text :=
  let line := t.takeWhile (· != '\n')
  if t.contains '\n' then chomp line else line

/-- The lines of a text.  A line feed at the end begins no line. -/
def lines (t : Text) : List Text :=
  let pieces := t.splitOn '\n'
  pieces.dropLast.map chomp ++ (pieces.getLast?.filter (· ≠ [])).toList

theorem firstLine_eq_self {t : Text} (h : '\n' ∉ t) : firstLine t = t := by
  have hc : t.contains '\n' = false := by simpa using h
  simp only [firstLine, hc, Bool.false_eq_true, if_false]
  have hp : ∀ c ∈ t, (c != '\n') = true := by
    intro c hc
    rw [bne_iff_ne]
    rintro rfl
    exact h hc
  have e : (t ++ []).takeWhile (· != '\n') = t ++ [].takeWhile (· != '\n') :=
    List.takeWhile_append_of_pos hp
  simpa using e

/-- Words with a space between any two. -/
def unwords (ws : List Text) : Text := [' '].intercalate ws

/-- The lines of words, where a word is put on a new line if it goes past the width on the old one.
The line under way is given first. -/
def fillFrom (width : Nat) (line : List Text) : List Text → List (List Text)
  | [] => [line]
  | w :: ws =>
    if (unwords (line ++ [w])).length ≤ width then fillFrom width (line ++ [w]) ws
    else line :: fillFrom width [w] ws

/-- The lines of words.  A word that is wider than the width has a line of its own. -/
def fill (width : Nat) : List Text → List (List Text)
  | [] => []
  | w :: ws => fillFrom width [w] ws

/-- A text cut at its spaces and filled into lines. -/
def wrap (width : Nat) (t : Text) : List Text :=
  (fill width (t.splitOn ' ')).map unwords

end ReleaseStamp.Text
