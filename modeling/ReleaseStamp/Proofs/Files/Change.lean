import ReleaseStamp.Proofs.Files.Overwrite
/-!
# What a write changes

A write that succeeds gives a file another content, or makes a file where there was nothing
(`rewrites_or_makes_of_write`).  The bits of a file are asked by a look at the path that may fail,
and then nothing is asked; but where such a look fails there is no file to be written over, since
whoever opens a path to write finds the file that a look finds (`locate_find_of_create`).  So a file
that nobody may write keeps its content, and all other entries are kept as they are (`Keeps`).
-/
namespace ReleaseStamp.Files

/-- What may become of an entry: a file that somebody may write may get another content. -/
inductive Entry.MayBecome : Entry → Entry → Prop where
  | same (e : Entry) : MayBecome e e
  | rewritten {mode : Mode} (h : mode.isReadOnly = false) (old new : ByteArray) :
      MayBecome (.file mode old) (.file mode new)

theorem Entry.MayBecome.trans {a b c : Entry} (h : a.MayBecome b) (h' : b.MayBecome c) :
    a.MayBecome c := by
  cases h with
  | same => exact h'
  | rewritten hw old new =>
    cases h' with
    | same => exact .rewritten hw old new
    | rewritten _ _ newer => exact .rewritten hw old newer

namespace Tree

/-- No entry is removed, and none becomes what it may not. -/
def Keeps (t t' : Tree) : Prop :=
  ∀ l e, t.get? l = some e → ∃ e', t'.get? l = some e' ∧ e.MayBecome e'

theorem Keeps.refl (t : Tree) : t.Keeps t := fun _ e he => ⟨e, he, .same e⟩

theorem Keeps.trans {t t' t'' : Tree} (h : t.Keeps t') (h' : t'.Keeps t'') : t.Keeps t'' := by
  intro l e he
  obtain ⟨e', he', hm⟩ := h l e he
  obtain ⟨e'', he'', hm'⟩ := h' l e' he'
  exact ⟨e'', he'', hm.trans hm'⟩

theorem Keeps.get?_of_isReadOnly {t t' : Tree} (h : t.Keeps t') {l : Location} {mode : Mode}
    {content : ByteArray} (he : t.get? l = some (.file mode content))
    (hro : mode.isReadOnly = true) : t'.get? l = some (.file mode content) := by
  obtain ⟨e', he', hm⟩ := h l _ he
  cases hm with
  | same => exact he'
  | rewritten hw =>
    rw [hro] at hw
    cases hw

/-- A file that somebody may write has another content, and nothing else is changed. -/
def Rewrites (t t' : Tree) : Prop :=
  ∃ l mode old new, t.get? l = some (.file mode old) ∧ mode.isReadOnly = false ∧
    t' = t.set l (.file mode new)

/-- There is one file more, and nothing else is changed. -/
def Makes (t t' : Tree) : Prop :=
  ∃ l content, t.get? l = none ∧ t' = t.set l (.file Mode.newFile content)

theorem Rewrites.keeps {t t' : Tree} (h : t.Rewrites t') : t.Keeps t' := by
  obtain ⟨l, mode, old, new, hl, hw, rfl⟩ := h
  intro k e he
  rw [get?_set]
  by_cases hk : k = l
  · subst hk
    obtain rfl : Entry.file mode old = e := Option.some.inj (hl.symm.trans he)
    exact ⟨_, if_pos rfl, .rewritten hw old new⟩
  · exact ⟨e, by rw [if_neg hk, he], .same e⟩

theorem Rewrites.get?_eq_none {t t' : Tree} (h : t.Rewrites t') {k : Location}
    (hk : t.get? k = none) : t'.get? k = none := by
  obtain ⟨l, mode, old, new, hl, -, rfl⟩ := h
  have hne : k ≠ l := by
    rintro rfl
    rw [hk] at hl
    cases hl
  rw [get?_set, if_neg hne, hk]

theorem Makes.keeps {t t' : Tree} (h : t.Makes t') : t.Keeps t' := by
  obtain ⟨l, content, hl, rfl⟩ := h
  intro k e he
  have hne : k ≠ l := by
    rintro rfl
    rw [he] at hl
    cases hl
  exact ⟨e, by rw [get?_set, if_neg hne, he], .same e⟩

theorem Makes.new {t t' : Tree} (h : t.Makes t') {k : Location} (hk : t.get? k = none)
    (hnew : t'.get? k ≠ none) :
    (∃ mode content, t'.get? k = some (.file mode content)) ∧
      ∀ l, l ≠ k → t'.get? l = t.get? l := by
  obtain ⟨l, content, -, rfl⟩ := h
  rw [get?_set] at hnew
  by_cases hkl : k = l
  · subst hkl
    refine ⟨⟨Mode.newFile, content, ?_⟩, fun l hl => ?_⟩
    · rw [get?_set, if_pos rfl]
    · rw [get?_set, if_neg hl]
  · rw [if_neg hkl] at hnew
    exact absurd hk hnew

/-! ## Where a write goes -/

section

variable {t : Tree} {l : Location} {mode : Mode} {content : ByteArray}

/-- A file that is there to be written is there to be found: a look asks for less. -/
theorem Route.find_of_create {links : Nat} {dir : Location} {names : List Text}
    (h : t.Route .create links dir names (.file l mode content)) :
    t.Route .find links dir names (.file l mode content) := by
  generalize hp : Place.file l mode content = place at h
  induction h with
  | done | vacant => cases hp
  | stay hs hn _ ih => exact .stay hs hn (ih hp)
  | up hs hn _ ih => exact .up hs hn (ih hp)
  | enter hu he _ ih => exact .enter { hu with not_slash := nofun } he (ih hp)
  | follow hu he _ ih => exact .follow { hu with not_slash := nofun } he (ih hp)
  | file hu he => exact .file { hu with not_slash := nofun } he

theorem Route.get?_eq_none {purpose : Purpose} {links : Nat} {dir : Location} {names : List Text}
    (h : t.Route purpose links dir names (.vacant l)) : t.get? l = none := by
  generalize hp : Place.vacant l = place at h
  induction h with
  | done | file => cases hp
  | stay _ _ _ ih | up _ _ _ ih | enter _ _ _ ih | follow _ _ _ ih => exact ih hp
  | vacant _ he =>
    cases hp
    exact he

theorem locate_find_of_create {path : Text}
    (h : t.locate .create path = .ok (.file l mode content)) :
    t.locate .find path = .ok (.file l mode content) := by
  obtain ⟨hf, hr⟩ := (locate_eq_ok_iff t .create path _).1 h
  exact (locate_eq_ok_iff t .find path _).2 ⟨hf, hr.find_of_create⟩

theorem get?_eq_none_of_locate {purpose : Purpose} {path : Text}
    (h : t.locate purpose path = .ok (.vacant l)) : t.get? l = none :=
  ((locate_eq_ok_iff t purpose path _).1 h).2.get?_eq_none

variable {t' : Tree} {path text : Text}

theorem write_cases (h : t.write path text = .ok t') :
    (∃ l mode content, t.locate .create path = .ok (.file l mode content) ∧
      mode.isReadOnly = false ∧ t' = t.set l (.file mode (Text.encode text))) ∨
    ∃ l, t.locate .create path = .ok (.vacant l) ∧
      t' = t.set l (.file Mode.newFile (Text.encode text)) := by
  unfold write at h
  split at h
  · cases h
  · rename_i hro
    unfold store at h
    cases hl : t.locate .create path with
    | error cause => rw [hl] at h; cases h
    | ok place =>
      rw [hl] at h
      cases place with
      | directory l => cases h
      | vacant l =>
        cases h
        exact .inr ⟨l, rfl, rfl⟩
      | file l mode content =>
        have hw : mode.isReadOnly = false := by
          simpa [isReadOnly, locate_find_of_create hl] using hro
        simp only at h
        split at h
        · cases h
          exact .inl ⟨l, mode, content, rfl, hw, rfl⟩
        · cases h

/-- **A write rewrites a file or makes one.**  It is told which by where the path leads. -/
theorem rewrites_or_makes_of_write (h : t.write path text = .ok t') :
    (∃ l mode content, t.locate .create path = .ok (.file l mode content) ∧ t.Rewrites t') ∨
      ∃ l, t.locate .create path = .ok (.vacant l) ∧ t.Makes t' := by
  rcases write_cases h with ⟨l, mode, content, hl, hw, rfl⟩ | ⟨l, hl, rfl⟩
  · exact .inl ⟨l, mode, content, hl, l, mode, content, _, get?_of_locate hl, hw, rfl⟩
  · exact .inr ⟨l, hl, l, _, get?_eq_none_of_locate hl, rfl⟩

theorem rewrites_of_read_of_write {new : Text} (hr : t.read path = .ok text)
    (hw : t.write path new = .ok t') : t.Rewrites t' := by
  obtain ⟨l, mode, hfind, -⟩ := read_eq_ok_iff.1 hr
  have hcreate := locate_create_of_find hfind
  rcases rewrites_or_makes_of_write hw with ⟨_, _, _, -, h⟩ | ⟨k, hvacant, -⟩
  · exact h
  · rw [hcreate] at hvacant
    cases hvacant

end

end Tree
end ReleaseStamp.Files
