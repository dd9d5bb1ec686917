import Mathlib.Logic.ExistsUnique
import ReleaseStamp.Tag.Basic
/-!
# What tags are accepted

A tag is accepted if it spells a version, and it spells one version then (`decides_version`).  That
blanks are asked for first takes no version away: versions are spelled with `v`, dots and digits
(`Version.mem_render`), and none of these is blank.
-/
namespace ReleaseStamp.Tag

namespace Version

theorem render_injective : Function.Injective render := fun v w h => by
  have hv := (parse?_eq_some_iff v.render v).2 rfl
  rw [h, (parse?_eq_some_iff w.render w).2 rfl] at hv
  exact (Option.some.inj hv).symm

theorem mem_render {v : Version} {c : Char} (h : c ∈ v.render) :
    c = 'v' ∨ c = '.' ∨ c.isDigit = true := by
  simp only [render, List.mem_append, List.mem_cons] at h
  rcases h with h | h | rfl | h | rfl | h
  · split at h
    · exact .inl (List.mem_singleton.1 h)
    · cases h
  · exact .inr (.inr (v.major.isDigit_of_mem c h))
  · exact .inr (.inl rfl)
  · exact .inr (.inr (v.minor.isDigit_of_mem c h))
  · exact .inr (.inl rfl)
  · exact .inr (.inr (v.patch.isDigit_of_mem c h))

theorem render_ne_nil (v : Version) : v.render ≠ [] := by
  simp [render, v.major.digits_ne_nil]

theorem plain_of_mem_render {v : Version} {c : Char} (h : c ∈ v.render) :
    c.toNat < 128 ∧ c ≠ '"' ∧ Text.isBlank c = false ∧ c ≠ '=' ∧ c ≠ '\\' := by
  rcases mem_render h with rfl | rfl | hd
  · decide
  · decide
  · have hne : ∀ d : Char, d.isDigit = false → c ≠ d := fun d hf hcd => by
      rw [hcd, hf] at hd
      cases hd
    have hrange : 48 ≤ c.toNat ∧ c.toNat ≤ 57 := Char.isDigit_iff_toNat.1 hd
    have hblank : Text.isBlank c = false := by
      simp [Text.isBlank, Text.blankRanges, Text.CodeRange.contains]
      omega
    exact ⟨by omega, hne _ (by decide), hblank, hne _ (by decide), hne _ (by decide)⟩

end Version

section

variable {value : Text}

theorem isNone_parse?_iff :
    (Version.parse? value).isNone = true ↔ ∀ v : Version, value ≠ v.render := by
  rw [Option.isNone_iff_eq_none, Option.eq_none_iff_forall_ne_some]
  exact forall_congr' fun v => not_congr (Version.parse?_eq_some_iff value v)

theorem rejection?_eq_none_iff_existsUnique :
    rejection? value = none ↔ ∃! v : Version, value = v.render := by
  rw [rejection?_eq_none_iff]
  constructor
  · rintro ⟨-, v, rfl⟩
    exact ⟨v, rfl, fun w hw => Version.render_injective hw.symm⟩
  · rintro ⟨v, rfl, -⟩
    have hblank : v.render.any Text.isBlank = false := List.any_eq_false.2 fun c hc => by
      simp [(Version.plain_of_mem_render hc).2.2.1]
    exact ⟨hblank, v, rfl⟩

theorem rejection?_eq_containsWhitespace_iff :
    rejection? value = some .containsWhitespace ↔ ∃ c ∈ value, Text.isBlank c = true := by
  rw [← List.any_eq_true, rejection?]
  split
  · rename_i hb
    exact iff_of_true rfl hb
  · rename_i hb
    refine iff_of_false ?_ hb
    split <;> simp

theorem rejection?_eq_malformedTag_iff :
    rejection? value = some .malformedTag ↔
      (∀ c ∈ value, Text.isBlank c = false) ∧ ∀ v : Version, value ≠ v.render := by
  rw [← isNone_parse?_iff, rejection?]
  split
  · rename_i hb
    obtain ⟨c, hc, hbc⟩ := List.any_eq_true.1 hb
    exact iff_of_false (by simp) fun h => absurd hbc (by simp [h.1 c hc])
  · rename_i hb
    have hall : ∀ c ∈ value, Text.isBlank c = false := fun c hc => by
      simpa using fun hbc => hb (List.any_eq_true.2 ⟨c, hc, hbc⟩)
    split
    · rename_i hn
      exact iff_of_true rfl ⟨hall, hn⟩
    · rename_i hn
      exact iff_of_false (by simp) fun h => hn h.2

end

/-- **What tags are accepted**: those that spell a version, and each spells no other.  A blank
anywhere is told before all else, and what is then left is malformed.  So an accepted tag has no
character that a manifest could take for its own. -/
theorem decides_version (value : Text) :
    (rejection? value = none ↔ ∃! v : Version, value = v.render) ∧
    (rejection? value = some .containsWhitespace ↔ ∃ c ∈ value, Text.isBlank c = true) ∧
    (rejection? value = some .malformedTag ↔
      (∀ c ∈ value, Text.isBlank c = false) ∧ ∀ v : Version, value ≠ v.render) ∧
    (rejection? value = none → value ≠ [] ∧ ∀ c ∈ value,
      c.toNat < 128 ∧ c ≠ '"' ∧ Text.isBlank c = false ∧ c ≠ '=' ∧ c ≠ '\\') := by
  refine ⟨rejection?_eq_none_iff_existsUnique, rejection?_eq_containsWhitespace_iff,
    rejection?_eq_malformedTag_iff, fun h => ?_⟩
  obtain ⟨v, rfl, -⟩ := rejection?_eq_none_iff_existsUnique.1 h
  exact ⟨v.render_ne_nil, fun c hc => Version.plain_of_mem_render hc⟩

end ReleaseStamp.Tag
