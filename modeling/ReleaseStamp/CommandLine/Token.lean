import ReleaseStamp.Text.Basic
/-!
# Tokens

An argument by its looks alone: before it is known what is expected of it.  A lone dash looks like
a word.  `render_ofArgument` says that no two arguments have the same looks.
-/
namespace ReleaseStamp.CommandLine

inductive Token where
  /-- Two dashes, after which nothing is a switch. -/
  | escape
  | long (name : Text) (value? : Option Text)
  | cluster (first : Char) (others : List Char)
  | word (t : Text)
  deriving DecidableEq

namespace Token

/-- Cuts what follows two dashes at the first `=`. -/
def ofLong (t : Text) : Token :=
  .long (t.takeWhile (· != '=')) (match t.dropWhile (· != '=') with
    | [] => none
    | _ :: value => some value)

def ofArgument : Text → Token
  | ['-', '-'] => .escape
  | '-' :: '-' :: t => ofLong t
  | '-' :: c :: t => .cluster c t
  | t => .word t

def render : Token → Text
  | .escape => ['-', '-']
  | .long name none => '-' :: '-' :: name
  | .long name (some value) => '-' :: '-' :: (name ++ '=' :: value)
  | .cluster c others => '-' :: c :: others
  | .word t => t

theorem render_ofLong (t : Text) : (ofLong t).render = '-' :: '-' :: t := by
  have e := (List.takeWhile_append_dropWhile : t.takeWhile (· != '=') ++ t.dropWhile (· != '=') = t)
  have hd := List.head?_dropWhile_not (· != '=') t
  unfold ofLong
  cases h : t.dropWhile (· != '=') with
  | nil =>
    rw [h, List.append_nil] at e
    simp [render, e]
  | cons c value =>
    rw [h] at e hd
    obtain rfl : c = '=' := by simpa using hd
    simp [render, e]

theorem render_ofArgument (arg : Text) : (ofArgument arg).render = arg := by
  unfold ofArgument
  split
  · rfl
  · exact render_ofLong _
  · rfl
  · rfl

end Token
end ReleaseStamp.CommandLine
