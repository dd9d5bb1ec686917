import ReleaseStamp.Proofs.Files.Route
/-!
# Writing over a file

Where a file is put in the place of a file, or where there was nothing, every path that led
somewhere leads there still (`Route.set_file`).  So a file that is written can be read and written
again, and writing it changes nothing else (`HasManifest.write_eq`, `HasManifest.set`).
-/
namespace ReleaseStamp.Files

/-- What is at a place once a file has been put at a location. -/
def Place.filled (l : Location) (mode : Mode) (content : ByteArray) : Place → Place
  | .directory k => .directory k
  | .file k m c => if k = l then .file l mode content else .file k m c
  | .vacant k => if k = l then .file l mode content else .vacant k

namespace Tree

theorem setIn_setIn (l : Location) (e e' : Entry) : ∀ entries : List (Location × Entry),
    setIn l e' (setIn l e entries) = setIn l e' entries
  | [] => by simp [setIn]
  | (k, x) :: entries => by
    by_cases hk : k = l
    · simp [setIn, hk]
    · simp [setIn, hk, setIn_setIn l e e' entries]

theorem setIn_eq_self {l : Location} {e : Entry} : ∀ {entries : List (Location × Entry)},
    entries.lookup l = some e → setIn l e entries = entries
  | (k, x) :: entries, h => by
    by_cases hk : k = l
    · subst hk
      have hx : x = e := by simpa using h
      simp [setIn, hx]
    · rw [List.lookup_cons, beq_false_of_ne (Ne.symm hk)] at h
      simp [setIn, hk, setIn_eq_self h]

theorem set_set (t : Tree) (l : Location) (e e' : Entry) : (t.set l e).set l e' = t.set l e' := by
  rw [set, set, set, setIn_setIn]

theorem set_eq_self {t : Tree} {l : Location} {e : Entry} (h : t.get? l = some e) :
    t.set l e = t := by
  rw [set, setIn_eq_self h]

/-- There is nothing at the location but a file, if there is anything. -/
def IsFileOrFree (t : Tree) (l : Location) : Prop :=
  ∀ e, t.get? l = some e → ∃ mode content, e = .file mode content

section Set

variable {t : Tree} {l : Location} (hl : t.IsFileOrFree l) (mode : Mode) (content : ByteArray)
include hl

theorem modeOf_set_file (k : Location) : (t.set l (.file mode content)).modeOf k = t.modeOf k := by
  rw [modeOf, modeOf, get?_set]
  by_cases hk : k = l
  · rw [if_pos hk, hk]
    cases he : t.get? l with
    | none => rfl
    | some e =>
      obtain ⟨m, c, rfl⟩ := hl e he
      rfl
  · rw [if_neg hk]

theorem LooksUp.set_file {purpose : Purpose} {dir : Location} {name : Text} {rest : List Text}
    (h : t.LooksUp purpose dir name rest) :
    (t.set l (.file mode content)).LooksUp purpose dir name rest :=
  { h with maySearch := by rw [user_set, modeOf_set_file hl]; exact h.maySearch }

theorem get?_set_of_not_file {k : Location} {e : Entry} (he : t.get? k = some e)
    (hne : ∀ m c, e ≠ .file m c) : (t.set l (.file mode content)).get? k = some e := by
  have hk : k ≠ l := fun hk => by
    obtain ⟨m, c, hf⟩ := hl e (hk ▸ he)
    exact hne m c hf
  rw [get?_set, if_neg hk, he]

/-- **A route goes on leading where it led.** -/
theorem Route.set_file {purpose : Purpose} {links : Nat} {dir : Location} {names : List Text}
    {place : Place} (h : t.Route purpose links dir names place) :
    (t.set l (.file mode content)).Route purpose links dir names
      (place.filled l mode content) := by
  have hmode := modeOf_set_file hl mode content
  -- on the way there are only directories and links, so only where it ends can have changed
  induction h with
  | done => exact .done
  | stay hs hn _ ih => exact .stay (fun hne => by rw [user_set, hmode]; exact hs hne) hn ih
  | up hs hn _ ih => exact .up (by rw [user_set, hmode]; exact hs) hn ih
  | enter hu he _ ih =>
    exact .enter (hu.set_file hl mode content)
      (get?_set_of_not_file hl mode content he fun _ _ => nofun) ih
  | follow hu he _ ih =>
    exact .follow (hu.set_file hl mode content)
      (get?_set_of_not_file hl mode content he fun _ _ => nofun) ih
  | @file _ dir name m c hu he =>
    have hu' := hu.set_file hl mode content
    have hget := get?_set t l (.file mode content) (name :: dir)
    rw [Place.filled]
    by_cases hk : name :: dir = l
    · subst hk
      rw [if_pos rfl] at hget ⊢
      exact .file hu' hget
    · rw [if_neg hk] at hget ⊢
      exact .file hu' (hget.trans he)
  | @vacant _ dir name hu he hp hc =>
    have hu' := hu.set_file hl mode content
    have hget := get?_set t l (.file mode content) (name :: dir)
    rw [Place.filled]
    by_cases hk : name :: dir = l
    · subst hk
      rw [if_pos rfl] at hget ⊢
      exact .file hu' hget
    · rw [if_neg hk] at hget ⊢
      exact .vacant hu' (hget.trans he) hp (by rw [user_set, hmode]; exact hc)

theorem locate_set_file {purpose : Purpose} {path : Text} {place : Place}
    (h : t.locate purpose path = .ok place) :
    (t.set l (.file mode content)).locate purpose path = .ok (place.filled l mode content) := by
  obtain ⟨hf, hr⟩ := (locate_eq_ok_iff t purpose path place).1 h
  exact (locate_eq_ok_iff _ purpose path _).2 ⟨hf, hr.set_file hl mode content⟩

end Set

/-! ## A path that leads to a file -/

section File

variable {t : Tree} {l : Location} {mode : Mode} {content : ByteArray}

theorem Route.get?_eq {purpose : Purpose} {links : Nat} {dir : Location} {names : List Text}
    (h : t.Route purpose links dir names (.file l mode content)) :
    t.get? l = some (.file mode content) := by
  generalize hp : Place.file l mode content = place at h
  induction h with
  | done | vacant => cases hp
  | stay _ _ _ ih | up _ _ _ ih | enter _ _ _ ih | follow _ _ _ ih => exact ih hp
  | file _ he =>
    cases hp
    exact he

theorem Route.exists_getLast? {purpose : Purpose} {links : Nat} {dir : Location}
    {names : List Text} (h : t.Route purpose links dir names (.file l mode content)) :
    ∃ last, names.getLast? = some last ∧ last ≠ [] := by
  generalize hp : Place.file l mode content = place at h
  induction h with
  | done | vacant => cases hp
  | stay _ _ _ ih | up _ _ _ ih | enter _ _ _ ih =>
    obtain ⟨last, hlast, hne⟩ := ih hp
    exact ⟨last, by rw [List.getLast?_cons, hlast]; rfl, hne⟩
  | @follow _ _ name rest _ _ hu _ _ ih =>
    obtain ⟨last, hlast, hne⟩ := ih hp
    rw [List.getLast?_append] at hlast
    rw [List.getLast?_cons]
    cases hr : rest.getLast? with
    | none => exact ⟨name, rfl, ne_nil_of_isHere_eq_false hu.not_isHere⟩
    | some x =>
      rw [hr] at hlast
      exact ⟨last, hlast, hne⟩
  | @file _ _ name _ _ hu _ => exact ⟨name, rfl, ne_nil_of_isHere_eq_false hu.not_isHere⟩

theorem Route.not_slash {purpose : Purpose} {links : Nat} {dir : Location} {name : Text}
    {rest : List Text} (h : t.Route purpose links dir (name :: rest) (.file l mode content)) :
    ¬ (rest ≠ [] ∧ rest.all List.isEmpty = true) := by
  rintro ⟨hr, hall⟩
  obtain ⟨last, hlast, hne⟩ := h.exists_getLast?
  obtain ⟨x, hx⟩ := List.getLast?_isSome.2 hr |> Option.isSome_iff_exists.1
  rw [List.getLast?_cons, hx] at hlast
  have hempty : x = [] := by simpa using List.all_eq_true.1 hall x (List.mem_of_getLast? hx)
  exact hne ((Option.some.inj hlast).symm.trans hempty)

/-- What is found as a file can be written: no slash after its name asks for a directory. -/
theorem Route.create_of_find {links : Nat} {dir : Location} {names : List Text}
    (h : t.Route .find links dir names (.file l mode content)) :
    t.Route .create links dir names (.file l mode content) := by
  generalize hp : Place.file l mode content = place at h
  induction h with
  | done | vacant => cases hp
  | stay hs hn _ ih => exact .stay hs hn (ih hp)
  | up hs hn _ ih => exact .up hs hn (ih hp)
  | enter hu he h ih =>
    subst hp
    exact .enter { hu with not_slash := fun hd => (Route.enter hu he h).not_slash hd.2 } he (ih rfl)
  | follow hu he h ih =>
    subst hp
    exact .follow { hu with not_slash := fun hd => (Route.follow hu he h).not_slash hd.2 } he
      (ih rfl)
  | file hu he => exact .file { hu with not_slash := fun hd => hd.2.1 rfl } he

theorem locate_create_of_find {path : Text} (h : t.locate .find path = .ok (.file l mode content)) :
    t.locate .create path = .ok (.file l mode content) := by
  obtain ⟨hf, hr⟩ := (locate_eq_ok_iff t .find path _).1 h
  exact (locate_eq_ok_iff t .create path _).2 ⟨hf, hr.create_of_find⟩

theorem get?_of_locate {purpose : Purpose} {path : Text}
    (h : t.locate purpose path = .ok (.file l mode content)) :
    t.get? l = some (.file mode content) :=
  ((locate_eq_ok_iff t purpose path _).1 h).2.get?_eq

end File

/-- The path leads to a file that holds the text.  The file has a write bit, and the system lets the
user read it and write it, as it lets the superuser anyway. -/
structure HasManifest (t : Tree) (path : Text) (l : Location) (mode : Mode) (text : Text) :
    Prop where
  locate_find : t.locate .find path = .ok (.file l mode (Text.encode text))
  isReadOnly_eq : mode.isReadOnly = false
  mayRead : t.user.mayRead mode = true
  mayWrite : t.user.mayWrite mode = true

namespace HasManifest

variable {t : Tree} {path : Text} {l : Location} {mode : Mode} {text : Text}
  (h : t.HasManifest path l mode text)
include h

theorem get?_eq : t.get? l = some (.file mode (Text.encode text)) := get?_of_locate h.locate_find

theorem read_eq : t.read path = .ok text :=
  read_eq_ok_iff.2 ⟨l, mode, h.locate_find, h.mayRead⟩

theorem write_eq (new : Text) :
    t.write path new = .ok (t.set l (.file mode (Text.encode new))) := by
  have hro : t.isReadOnly path = false := by
    rw [isReadOnly, h.locate_find]
    exact h.isReadOnly_eq
  rw [write, if_neg (by simp [hro]), store, locate_create_of_find h.locate_find]
  simp [h.mayWrite]

theorem set (new : Text) :
    (t.set l (.file mode (Text.encode new))).HasManifest path l mode new where
  locate_find := by
    have hl : t.IsFileOrFree l := fun e he => by
      rw [h.get?_eq] at he
      exact ⟨mode, _, (Option.some.inj he).symm⟩
    have := locate_set_file hl mode (Text.encode new) h.locate_find
    rwa [Place.filled, if_pos rfl] at this
  isReadOnly_eq := h.isReadOnly_eq
  mayRead := h.mayRead
  mayWrite := h.mayWrite

theorem set_self : t.set l (.file mode (Text.encode text)) = t := set_eq_self h.get?_eq

end HasManifest

end Tree
end ReleaseStamp.Files
