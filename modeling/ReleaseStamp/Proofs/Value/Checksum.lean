import Mathlib.Logic.Basic
import ReleaseStamp.Checksum
import ReleaseStamp.Text.Blank
/-!
# What checksums are accepted

A checksum is accepted if it is hexadecimal (`IsHexadecimal`).  Of a value that is not, the first
rule that it breaks is told: the second is asked of letters and digits only, and the third of
lowercase ones (`decides_hexadecimal`).  What breaks the third rule alone is a bare `0x`, or has a
letter after `f` that is not the `x` of a leading `0x` (`not_isHexadecimal_iff`).
-/
namespace ReleaseStamp.Checksum

/-- Lowercase hexadecimal digits, one at least, after one `0x` or none. -/
def IsHexadecimal (value : Text) : Prop :=
  ∃ ds, ds ≠ [] ∧ (∀ c ∈ ds, c ∈ hexDigits) ∧ (value = ds ∨ value = '0' :: 'x' :: ds)

/-- A lowercase letter or a digit. -/
def IsLowercase (c : Char) : Prop := c.isLower = true ∨ c.isDigit = true

section

variable {c : Char}

theorem isLower_iff_toNat : c.isLower = true ↔ 97 ≤ c.toNat ∧ c.toNat ≤ 122 :=
  Bool.and_eq_true_iff.trans (and_congr decide_eq_true_iff decide_eq_true_iff)

theorem isUpper_iff_toNat : c.isUpper = true ↔ 65 ≤ c.toNat ∧ c.toNat ≤ 90 :=
  decide_eq_true_iff

theorem isDigit_iff_toNat : c.isDigit = true ↔ 48 ≤ c.toNat ∧ c.toNat ≤ 57 := Char.isDigit_iff_toNat

theorem isAlphanum_iff :
    c.isAlphanum = true ↔ (c.isUpper = true ∨ c.isLower = true) ∨ c.isDigit = true :=
  Bool.or_eq_true_iff.trans (or_congr_left Bool.or_eq_true_iff)

theorem isLowercase_iff : IsLowercase c ↔ c.isAlphanum = true ∧ c.isUpper = false := by
  rw [IsLowercase, isAlphanum_iff, ← Bool.not_eq_true, isLower_iff_toNat, isUpper_iff_toNat,
    isDigit_iff_toNat]
  omega

/-- Of the lowercase letters and digits, those up to `f` are hexadecimal. -/
theorem mem_hexDigits_iff (h : IsLowercase c) : c ∈ hexDigits ↔ ¬ 'f' < c := by
  have hlt : 'f' < c ↔ 102 < c.toNat := Iff.rfl
  constructor
  · intro hc
    have hall : hexDigits.all (fun d => decide (¬ 'f' < d)) = true := by decide
    exact of_decide_eq_true (List.all_eq_true.1 hall c hc)
  · rw [hlt]
    intro hle
    have hall : ∀ n < 103, (97 ≤ n ∨ 48 ≤ n ∧ n ≤ 57) → Char.ofNat n ∈ hexDigits := by decide
    rw [IsLowercase, isLower_iff_toNat, isDigit_iff_toNat] at h
    have hmem := hall c.toNat (by omega) (by omega)
    rwa [Char.ofNat_toNat] at hmem

end

section

variable {value : Text}

theorem digits_eq_self (h : 'x' ∉ value) : digits value = value := by
  unfold digits
  split
  · exact absurd (by simp) h
  · rfl

theorem isHexadecimal_iff :
    IsHexadecimal value ↔ digits value ≠ [] ∧ ∀ c ∈ digits value, c ∈ hexDigits := by
  constructor
  · rintro ⟨ds, hne, hall, rfl | rfl⟩
    · -- digits have no `x` among them, so nothing is taken off them
      have hx : 'x' ∉ value := fun hx => absurd (hall 'x' hx) (by decide)
      rw [digits_eq_self hx]
      exact ⟨hne, hall⟩
    · exact ⟨hne, hall⟩
  · rintro ⟨hne, hall⟩
    exact ⟨digits value, hne, hall, eq_digits_or value⟩

/-- Only the `0` and the `x` of a leading `0x` are left out of the digits. -/
theorem mem_digits_append_cons {before after : Text} {c : Char} (h0 : c ≠ '0')
    (hp : ¬ (before = ['0'] ∧ c = 'x')) : c ∈ digits (before ++ c :: after) := by
  rcases eq_digits_or (before ++ c :: after) with hv | hv
  · rw [← hv]
    simp
  · match before, hp, hv with
    | [], _, hv => exact absurd (List.cons.inj hv).1 h0
    | [d], hp, hv =>
      simp only [List.cons_append, List.nil_append, List.cons.injEq] at hv
      exact absurd ⟨by rw [hv.1], hv.2.1⟩ hp
    | d :: e :: before, _, hv =>
      simp only [List.cons_append, List.cons.injEq] at hv
      rw [List.cons_append, List.cons_append, ← hv.2.2]
      simp

theorem exists_append_of_mem_digits {c : Char} (h : c ∈ digits value) :
    ∃ before after, value = before ++ c :: after ∧ ¬ (before = ['0'] ∧ c = 'x') := by
  obtain ⟨before, after, hd⟩ := List.append_of_mem h
  rcases eq_digits_or value with hv | hv
  · have hvalue := hv.trans hd
    refine ⟨before, after, hvalue, ?_⟩
    -- the `x` of a leading `0x` would have been taken off
    rintro ⟨rfl, rfl⟩
    have hrest : digits value = after := by rw [hvalue]; rfl
    rw [hrest] at hd
    exact absurd (congrArg List.length hd) (by simp; omega)
  · refine ⟨'0' :: 'x' :: before, after, hv.trans (by rw [hd]; rfl), ?_⟩
    rintro ⟨h, -⟩
    cases h

theorem not_isHexadecimal_iff (hne : value ≠ []) (hl : ∀ c ∈ value, IsLowercase c) :
    ¬ IsHexadecimal value ↔ value = ['0', 'x'] ∨
      ∃ before c after, value = before ++ c :: after ∧ 'f' < c ∧ ¬ (before = ['0'] ∧ c = 'x') := by
  rw [isHexadecimal_iff, not_and_or, not_not]
  constructor
  · rintro (hnil | hall)
    · rcases eq_digits_or value with hv | hv
      · exact absurd (hv.trans hnil) hne
      · exact .inl (hv.trans (by rw [hnil]))
    · obtain ⟨c, hc, hn⟩ : ∃ c ∈ digits value, c ∉ hexDigits := by simpa using hall
      obtain ⟨before, after, hvalue, hp⟩ := exists_append_of_mem_digits hc
      have hmem := mem_hexDigits_iff (hl c (by simp [hvalue]))
      exact .inr ⟨before, c, after, hvalue, not_not.1 fun h => hn (hmem.2 h), hp⟩
  · rintro (rfl | ⟨before, c, after, rfl, hf, hp⟩)
    · exact .inl rfl
    · right
      intro hall
      have h0 : c ≠ '0' := fun h0 => absurd (h0 ▸ hf) (by decide)
      have hc := hl c (by simp)
      exact (mem_hexDigits_iff hc).1 (hall c (mem_digits_append_cons h0 hp)) hf

/-! ## The rules in order -/

/-- What the first rule asks. -/
def IsAlphanumeric (value : Text) : Prop := value ≠ [] ∧ ∀ c ∈ value, c.isAlphanum = true

theorem not_isAlphanumeric_iff :
    ¬ IsAlphanumeric value ↔ value = [] ∨ ∃ c ∈ value, c.isAlphanum = false := by
  simp [IsAlphanumeric, imp_iff_not_or]

theorem rejection?_of_isAlphanumeric (h : IsAlphanumeric value) :
    rejection? value = if value.any Char.isUpper then some .notLowercase
      else if (digits value).isEmpty || !(digits value).all hexDigits.contains then
        some .notHexadecimal
      else none := by
  rw [rejection?, if_neg]
  simpa [h.1] using h.2

theorem rejection?_of_not_isAlphanumeric (h : ¬ IsAlphanumeric value) :
    rejection? value = some .notAlphanumeric := by
  rw [rejection?, if_pos]
  simpa using not_isAlphanumeric_iff.1 h

theorem rejection?_eq_none_iff_isHexadecimal : rejection? value = none ↔ IsHexadecimal value :=
  (rejection?_eq_none_iff value).trans isHexadecimal_iff.symm

theorem rejection?_eq_notAlphanumeric_iff :
    rejection? value = some .notAlphanumeric ↔ ¬ IsAlphanumeric value := by
  refine ⟨fun h ha => ?_, rejection?_of_not_isAlphanumeric⟩
  rw [rejection?_of_isAlphanumeric ha] at h
  split at h
  · cases h
  · split at h <;> cases h

theorem rejection?_eq_notLowercase_iff :
    rejection? value = some .notLowercase ↔
      IsAlphanumeric value ∧ ∃ c ∈ value, c.isUpper = true := by
  by_cases ha : IsAlphanumeric value
  · rw [rejection?_of_isAlphanumeric ha, ← List.any_eq_true]
    split
    · rename_i hu
      exact iff_of_true rfl ⟨ha, hu⟩
    · rename_i hu
      refine iff_of_false ?_ fun h => hu h.2
      split <;> nofun
  · rw [rejection?_of_not_isAlphanumeric ha]
    exact iff_of_false nofun fun h => ha h.1

theorem rejection?_eq_notHexadecimal_iff :
    rejection? value = some .notHexadecimal ↔
      value ≠ [] ∧ (∀ c ∈ value, IsLowercase c) ∧ ¬ IsHexadecimal value := by
  have hrule : ((digits value).isEmpty || !(digits value).all hexDigits.contains) = true ↔
      ¬ IsHexadecimal value := by
    rw [isHexadecimal_iff, not_and_or, not_not]
    simp
  by_cases ha : IsAlphanumeric value
  · rw [rejection?_of_isAlphanumeric ha]
    split
    · rename_i hu
      obtain ⟨c, hc, hup⟩ := List.any_eq_true.1 hu
      refine iff_of_false nofun fun h => ?_
      rw [(isLowercase_iff.1 (h.2.1 c hc)).2] at hup
      cases hup
    · rename_i hu
      have hl : ∀ c ∈ value, IsLowercase c := fun c hc =>
        isLowercase_iff.2 ⟨ha.2 c hc, by simpa using fun hup => hu (List.any_eq_true.2 ⟨c, hc, hup⟩)⟩
      split
      · rename_i hx
        exact iff_of_true rfl ⟨ha.1, hl, hrule.1 hx⟩
      · rename_i hx
        exact iff_of_false nofun fun h => hx (hrule.2 h.2.2)
  · rw [rejection?_of_not_isAlphanumeric ha]
    exact iff_of_false nofun fun h => ha ⟨h.1, fun c hc => (isLowercase_iff.1 (h.2.1 c hc)).1⟩

theorem plain_of_mem {c : Char} (h : c ∈ 'x' :: hexDigits) : c ≠ '"' ∧ Text.isBlank c = false ∧
    c ≠ '=' ∧ c ≠ '.' ∧ (c ∈ "let".toList → c = 'e') := by
  have hall : ('x' :: hexDigits).all (fun d => decide (d ≠ '"' ∧ Text.isBlank d = false ∧
      d ≠ '=' ∧ d ≠ '.' ∧ (d ∈ "let".toList → d = 'e'))) = true := by decide
  exact of_decide_eq_true (List.all_eq_true.1 hall c h)

end

/-- **What checksums are accepted**, and which rule is told of the others: the first one broken.  An
accepted checksum has no character that a manifest could take for its own. -/
theorem decides_hexadecimal (value : Text) :
    (rejection? value = none ↔ IsHexadecimal value) ∧
    (rejection? value = some .notAlphanumeric ↔ value = [] ∨ ∃ c ∈ value, c.isAlphanum = false) ∧
    (rejection? value = some .notLowercase ↔
      value ≠ [] ∧ (∀ c ∈ value, c.isAlphanum = true) ∧ ∃ c ∈ value, c.isUpper = true) ∧
    (rejection? value = some .notHexadecimal ↔
      value ≠ [] ∧ (∀ c ∈ value, IsLowercase c) ∧ ¬ IsHexadecimal value) ∧
    (rejection? value = some .notHexadecimal ↔
      value ≠ [] ∧ (∀ c ∈ value, IsLowercase c) ∧ (value = ['0', 'x'] ∨
        ∃ before c after, value = before ++ c :: after ∧ 'f' < c ∧
          ¬ (before = ['0'] ∧ c = 'x'))) ∧
    (rejection? value = none → value ≠ [] ∧ ∀ c ∈ value, c ≠ '"' ∧ Text.isBlank c = false ∧
      c ≠ '=' ∧ c ≠ '.' ∧ (c ∈ "let".toList → c = 'e')) := by
  refine ⟨rejection?_eq_none_iff_isHexadecimal,
    rejection?_eq_notAlphanumeric_iff.trans not_isAlphanumeric_iff,
    rejection?_eq_notLowercase_iff.trans and_assoc, rejection?_eq_notHexadecimal_iff, ?_, ?_⟩
  · rw [rejection?_eq_notHexadecimal_iff]
    refine and_congr_right fun hne => and_congr_right fun hl => ?_
    exact not_isHexadecimal_iff hne hl
  · intro h
    have hx := rejection?_eq_none_iff_isHexadecimal.1 h
    have hall := (isHexadecimal_iff.1 hx).2
    refine ⟨?_, fun c hc => plain_of_mem (mem_of_forall_mem_digits hall hc)⟩
    rintro rfl
    cases h

/-- One `0x` is taken off, and no other. -/
example : rejection? "0x0xab".toList = some .notHexadecimal := by
  decide

end ReleaseStamp.Checksum
