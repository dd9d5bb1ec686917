import ReleaseStamp.Rejection
/-!
# Checksums

A checksum is written in lowercase hexadecimal digits, after `0x` or without it.  `rejection?` asks
in order for letters and digits, for lowercase and for hexadecimal, and names the first rule that
is broken.  Letters and digits are those of ASCII: a checksum holds no others.
-/
namespace ReleaseStamp.Checksum

def hexDigits : Text := "0123456789abcdef".toList

/-- The value less one leading `0x`. -/
def digits : Text → Text
  | '0' :: 'x' :: rest => rest
  | value => value

/-- The first rule that the value breaks. -/
def rejection? (value : Text) : Option Rejection :=
  if value.isEmpty || !value.all Char.isAlphanum then some .notAlphanumeric
  else if value.any Char.isUpper then some .notLowercase
  else if (digits value).isEmpty || !(digits value).all hexDigits.contains then some .notHexadecimal
  else none

theorem isAlphanum_of_mem {c : Char} (h : c ∈ 'x' :: hexDigits) : c.isAlphanum = true :=
  List.all_eq_true.1 (show ('x' :: hexDigits).all Char.isAlphanum = true by decide) c h

theorem not_isUpper_of_mem {c : Char} (h : c ∈ 'x' :: hexDigits) : ¬ c.isUpper = true :=
  List.any_eq_false.1 (show ('x' :: hexDigits).any Char.isUpper = false by decide) c h

theorem eq_digits_or (value : Text) :
    value = digits value ∨ value = '0' :: 'x' :: digits value := by
  unfold digits; split <;> simp

/-- What is written in hexadecimal digits but for a leading `0x` has no other letter but that `x`. -/
theorem mem_of_forall_mem_digits {value : Text} (h : ∀ c ∈ digits value, c ∈ hexDigits) {c : Char}
    (hc : c ∈ value) : c ∈ 'x' :: hexDigits := by
  rcases eq_digits_or value with hv | hv
  · exact List.mem_cons_of_mem _ (h c (hv ▸ hc))
  · rw [hv, List.mem_cons, List.mem_cons] at hc
    rcases hc with rfl | rfl | hc
    · decide
    · exact List.mem_cons_self
    · exact List.mem_cons_of_mem _ (h c hc)

/-- The first two rules ask nothing of a value that the third one accepts. -/
theorem rejection?_eq_none_iff (value : Text) :
    rejection? value = none ↔ digits value ≠ [] ∧ ∀ c ∈ digits value, c ∈ hexDigits := by
  constructor
  · intro h
    unfold rejection? at h
    split at h
    · cases h
    split at h
    · cases h
    split at h
    · cases h
    · rename_i hd
      simpa [not_or] using hd
  · rintro ⟨hne, hall⟩
    have h1 : value.all Char.isAlphanum = true :=
      List.all_eq_true.2 fun c hc => isAlphanum_of_mem (mem_of_forall_mem_digits hall hc)
    have h2 : value.any Char.isUpper = false :=
      List.any_eq_false.2 fun c hc => not_isUpper_of_mem (mem_of_forall_mem_digits hall hc)
    have h3 : value.isEmpty = false := by
      cases value with
      | nil => exact absurd rfl hne
      | cons _ _ => rfl
    have h4 : (digits value).all hexDigits.contains = true :=
      List.all_eq_true.2 fun c hc => List.contains_iff_mem.2 (hall c hc)
    simp [rejection?, h1, h2, h3, h4, hne]

end ReleaseStamp.Checksum
