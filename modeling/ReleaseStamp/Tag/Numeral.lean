import ReleaseStamp.Text.Basic
/-!
# Numerals

A component of a version is a run of ASCII digits, kept as it is written: leading zeros stay, and
no run is too long.  `read?_eq_some_iff` says that reading takes the whole run.
-/
namespace ReleaseStamp.Tag

structure Numeral where
  digits : Text
  digits_ne_nil : digits ≠ []
  isDigit_of_mem : ∀ c ∈ digits, c.isDigit = true
  deriving DecidableEq

namespace Numeral

/-- The numeral that a text begins with, and the rest of the text. -/
def read? (t : Text) : Option (Numeral × Text) :=
  if h : t.takeWhile Char.isDigit = [] then none
  else some
    (⟨t.takeWhile Char.isDigit, h, List.all_eq_true.1 List.all_takeWhile⟩, t.dropWhile Char.isDigit)

theorem read?_eq_some_iff (t : Text) (n : Numeral) (rest : Text) :
    read? t = some (n, rest) ↔ t = n.digits ++ rest ∧ ∀ c ∈ rest.head?, c.isDigit = false := by
  constructor
  · intro h
    unfold read? at h
    split at h
    · cases h
    · cases h
      refine ⟨List.takeWhile_append_dropWhile.symm, fun c hc => ?_⟩
      have := List.head?_dropWhile_not Char.isDigit t
      rw [Option.mem_def.1 hc] at this
      simpa using this
  · rintro ⟨rfl, hr⟩
    have hd : (n.digits ++ rest).takeWhile Char.isDigit = n.digits := by
      rw [List.takeWhile_append_of_pos n.isDigit_of_mem]
      cases rest with
      | nil => simp
      | cons c rest => simp [hr c rfl]
    have hw : (n.digits ++ rest).dropWhile Char.isDigit = rest := by
      rw [List.dropWhile_append_of_pos n.isDigit_of_mem]
      cases rest with
      | nil => simp
      | cons c rest => simp [hr c rfl]
    simp only [read?, hd, hw, n.digits_ne_nil, dif_neg, not_false_eq_true]

end Numeral
end ReleaseStamp.Tag
