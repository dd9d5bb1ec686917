import ReleaseStamp.Tag.Numeral
/-!
# Versions

The version that a tag spells: major, minor and patch, parted by dots, with or without a leading
`v`.  `parse?_eq_some_iff` says that `parse?` reads exactly what `render` writes, so a tag spells at
most one version and no two versions share a spelling.
-/
namespace ReleaseStamp.Tag

structure Version where
  marked : Bool
  major : Numeral
  minor : Numeral
  patch : Numeral
  deriving DecidableEq

namespace Version

def render (v : Version) : Text :=
  (if v.marked then ['v'] else []) ++
    (v.major.digits ++ '.' :: (v.minor.digits ++ '.' :: v.patch.digits))

/-- Reads the numbers of a version and asks that nothing follows them. -/
def parseNumbers? (marked : Bool) (t : Text) : Option Version :=
  (Numeral.read? t).bind fun (major, t) =>
  (Text.after? ['.'] t).bind fun t =>
  (Numeral.read? t).bind fun (minor, t) =>
  (Text.after? ['.'] t).bind fun t =>
  (Numeral.read? t).bind fun (patch, t) =>
  if t.isEmpty then some ⟨marked, major, minor, patch⟩ else none

def parse? : Text → Option Version
  | 'v' :: t => parseNumbers? true t
  | t => parseNumbers? false t

theorem parseNumbers?_eq_some_iff (marked : Bool) (t : Text) (v : Version) :
    parseNumbers? marked t = some v ↔ v.marked = marked ∧
      t = v.major.digits ++ '.' :: (v.minor.digits ++ '.' :: v.patch.digits) := by
  simp only [parseNumbers?, Option.bind_eq_some_iff, Prod.exists, Numeral.read?_eq_some_iff,
    Text.after?_eq_some_iff]
  constructor
  · rintro ⟨a, t, ⟨rfl, -⟩, u, rfl, b, w, ⟨rfl, -⟩, x, rfl, c, y, ⟨rfl, -⟩, h⟩
    split at h
    · rename_i hy
      cases h
      cases List.isEmpty_iff.1 hy
      simp
    · cases h
  · rintro ⟨rfl, rfl⟩
    have hdot : ('.' : Char).isDigit = false := by decide
    exact ⟨v.major, _, ⟨rfl, by simp [hdot]⟩, _, rfl, v.minor, _, ⟨rfl, by simp [hdot]⟩, _, rfl,
      v.patch, [], ⟨by simp, by simp⟩, rfl⟩

theorem parse?_eq_some_iff (t : Text) (v : Version) : parse? t = some v ↔ t = v.render := by
  have hv : ('v' : Char).isDigit = false := by decide
  unfold parse? render
  split
  · rename_i t
    rw [parseNumbers?_eq_some_iff]
    constructor
    · rintro ⟨hm, rfl⟩; simp [hm]
    · intro h
      cases hm : v.marked with
      | true => simpa [hm] using h
      | false =>
        obtain ⟨c, ds, hd⟩ := List.exists_cons_of_ne_nil v.major.digits_ne_nil
        simp only [hm, hd, Bool.false_eq_true, if_false, List.nil_append, List.cons_append,
          List.cons.injEq] at h
        have := v.major.isDigit_of_mem c (by simp [hd])
        rw [← h.1, hv] at this
        cases this
  · rename_i hn
    rw [parseNumbers?_eq_some_iff]
    constructor
    · rintro ⟨hm, rfl⟩; simp [hm]
    · intro h
      cases hm : v.marked with
      | true => exact absurd (by simpa [hm] using h) (hn _)
      | false => simpa [hm] using h

end Version
end ReleaseStamp.Tag
