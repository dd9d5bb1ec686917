import ReleaseStamp.Files.Access
/-!
# Where a path leads

A walk that arrives goes along a route: each name stays, goes up, enters a directory or follows a
link, and the last one may be that of a file, or of none yet.  `walk_eq_ok_iff` says that a walk
arrives exactly where there is such a route, so what holds of walks is shown along routes.
-/
namespace ReleaseStamp.Files.Tree

/-- The name is looked up in the directory, and not passed by or refused. -/
structure LooksUp (t : Tree) (purpose : Purpose) (dir : Location) (name : Text)
    (rest : List Text) : Prop where
  maySearch : t.user.maySearch (t.modeOf dir) = true
  not_isHere : Path.isHere name = false
  not_isParent : Path.isParent name = false
  not_slash : ¬ (purpose = .create ∧ rest ≠ [] ∧ rest.all List.isEmpty = true)
  not_long : Text.byteLength name ≤ Path.maxName

theorem ne_nil_of_isHere_eq_false {name : Text} (h : Path.isHere name = false) : name ≠ [] := by
  rintro rfl
  cases h

section LookUp

variable {t : Tree} {purpose : Purpose} {dir : Location} {name : Text} {rest : List Text}

theorem looksUp_of (hs : ¬ (name ≠ [] ∧ (!t.user.maySearch (t.modeOf dir)) = true))
    (hh : ¬ Path.isHere name = true) (hp : ¬ Path.isParent name = true)
    (hd : ¬ (purpose = .create ∧ rest ≠ [] ∧ rest.all List.isEmpty = true))
    (hl : ¬ Path.maxName < Text.byteLength name) : t.LooksUp purpose dir name rest := by
  rw [Bool.not_eq_true] at hh hp
  have hne := ne_nil_of_isHere_eq_false hh
  exact ⟨by simpa [hne] using hs, hh, hp, hd, Nat.le_of_not_lt hl⟩

theorem LooksUp.walk_eq (h : t.LooksUp purpose dir name rest) (links : Nat) :
    t.walk purpose links dir (name :: rest) =
      match t.get? (name :: dir) with
      | none =>
        if purpose = .find ∨ rest ≠ [] then .error .noSuchEntry
        else if t.user.mayChange (t.modeOf dir) then .ok (.vacant (name :: dir))
        else .error .permissionDenied
      | some (.file mode content) =>
        if rest = [] then .ok (.file (name :: dir) mode content) else .error .notADirectory
      | some (.directory _) => t.walk purpose links (name :: dir) rest
      | some (.link target) =>
        match links with
        | 0 => .error .tooManyLinks
        | links + 1 =>
          t.walk purpose links (startOf target dir) (Path.names target ++ rest) := by
  have hwalk := walk.eq_2 t purpose links dir name rest
  rw [if_neg (by simp [h.maySearch]), if_neg (by simp [h.not_isHere]),
    if_neg (by simp [h.not_isParent]), if_neg h.not_slash, if_neg (Nat.not_lt.2 h.not_long)]
    at hwalk
  refine hwalk.trans ?_
  cases t.get? (name :: dir) with
  | none => rfl
  | some e => cases e <;> rfl

end LookUp

/-- The names lead from the directory to the place, over no more links than are given. -/
inductive Route (t : Tree) (purpose : Purpose) : Nat → Location → List Text → Place → Prop where
  | done {links : Nat} {dir : Location} : Route t purpose links dir [] (.directory dir)
  | stay {links : Nat} {dir : Location} {name : Text} {rest : List Text} {place : Place}
      (hs : name ≠ [] → t.user.maySearch (t.modeOf dir) = true) (hn : Path.isHere name = true)
      (h : Route t purpose links dir rest place) : Route t purpose links dir (name :: rest) place
  | up {links : Nat} {dir : Location} {name : Text} {rest : List Text} {place : Place}
      (hs : t.user.maySearch (t.modeOf dir) = true) (hn : Path.isParent name = true)
      (h : Route t purpose links dir.tail rest place) :
      Route t purpose links dir (name :: rest) place
  | enter {links : Nat} {dir : Location} {name : Text} {rest : List Text} {place : Place}
      {mode : Mode} (hl : t.LooksUp purpose dir name rest)
      (he : t.get? (name :: dir) = some (.directory mode))
      (h : Route t purpose links (name :: dir) rest place) :
      Route t purpose links dir (name :: rest) place
  | follow {links : Nat} {dir : Location} {name : Text} {rest : List Text} {place : Place}
      {target : Text} (hl : t.LooksUp purpose dir name rest)
      (he : t.get? (name :: dir) = some (.link target))
      (h : Route t purpose links (startOf target dir) (Path.names target ++ rest) place) :
      Route t purpose (links + 1) dir (name :: rest) place
  | file {links : Nat} {dir : Location} {name : Text} {mode : Mode} {content : ByteArray}
      (hl : t.LooksUp purpose dir name []) (he : t.get? (name :: dir) = some (.file mode content)) :
      Route t purpose links dir [name] (.file (name :: dir) mode content)
  | vacant {links : Nat} {dir : Location} {name : Text} (hl : t.LooksUp purpose dir name [])
      (he : t.get? (name :: dir) = none) (hp : purpose = .create)
      (hc : t.user.mayChange (t.modeOf dir) = true) :
      Route t purpose links dir [name] (.vacant (name :: dir))

section

variable {t : Tree} {purpose : Purpose} {links : Nat} {dir : Location} {names : List Text}
  {place : Place}

theorem route_of_walk (h : t.walk purpose links dir names = .ok place) :
    t.Route purpose links dir names place := by
  fun_induction walk t purpose links dir names with
  | case1 => cases h; exact .done
  | case3 links dir name rest hs hh ih =>
    exact .stay (fun hne => by simpa [hne] using hs) hh (ih h)
  | case4 links dir name rest hs hh hp ih =>
    have hne : name ≠ [] := ne_nil_of_isHere_eq_false (by simpa using hh)
    exact .up (by simpa [hne] using hs) hp (ih h)
  | case8 links dir name rest hs hh hp hd hl he hf hc =>
    cases h
    obtain ⟨hne, rfl⟩ : purpose ≠ .find ∧ rest = [] := by simpa using hf
    refine .vacant (looksUp_of hs hh hp hd hl) he ?_ hc
    cases purpose with
    | find => exact absurd rfl hne
    | create => rfl
  | case10 links dir name hs hh hp hl mode content he hd =>
    cases h
    exact .file (looksUp_of hs hh hp hd hl) he
  | case12 links dir name rest hs hh hp hd hl mode he ih =>
    exact .enter (looksUp_of hs hh hp hd hl) he (ih h)
  | case14 dir name rest hs hh hp hd hl target he links ih =>
    exact .follow (looksUp_of hs hh hp hd hl) he (ih h)
  | _ => cases h

theorem Route.walk_eq (h : t.Route purpose links dir names place) :
    t.walk purpose links dir names = .ok place := by
  induction h with
  | done => rw [walk]
  | @stay links dir name rest place hs hn h ih =>
    rw [walk, if_neg (fun hc => by simp [hs hc.1] at hc), if_pos hn, ih]
  | @up links dir name rest place hs hn h ih =>
    have hh : Path.isHere name = false := by
      rw [Path.isParent, beq_iff_eq] at hn
      rw [hn]
      decide
    rw [walk, if_neg (by simp [hs]), if_neg (by simp [hh]), if_pos hn, ih]
  | enter hl he h ih => rw [hl.walk_eq, he]; exact ih
  | follow hl he h ih => rw [hl.walk_eq, he]; exact ih
  | file hl he => rw [hl.walk_eq, he]; rfl
  | vacant hl he hp hc => rw [hl.walk_eq, he, hp]; simp [hc]

/-- **A walk arrives exactly where there is a route.** -/
theorem walk_eq_ok_iff :
    t.walk purpose links dir names = .ok place ↔ t.Route purpose links dir names place :=
  ⟨route_of_walk, Route.walk_eq⟩

theorem locate_eq_ok_iff (t : Tree) (purpose : Purpose) (path : Text) (place : Place) :
    t.locate purpose path = .ok place ↔ Path.fault? path = none ∧
      t.Route purpose maxLinks (startOf path t.home) (Path.names path) place := by
  rw [locate, ← walk_eq_ok_iff]
  cases Path.fault? path <;> simp

end

end ReleaseStamp.Files.Tree
