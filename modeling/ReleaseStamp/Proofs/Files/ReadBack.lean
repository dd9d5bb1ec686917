import ReleaseStamp.Update
import ReleaseStamp.Proofs.Files.Change
/-!
# Reading what was written

A file has many paths: links lead to it, and names that stay or go up and down again.  Paths that
lead to one place before it is written do so afterwards (`LeadsTo.locate_set_file`), also where the
file is only made by the write and some of them are links that led nowhere.  So what is written
through one path is read through all of them, and what is read elsewhere is not changed
(`read_write`).
-/
namespace ReleaseStamp.Files.Tree

/-- The path leads to the location: a file is there, or is made there if the path is written. -/
def LeadsTo (t : Tree) (path : Text) (l : Location) : Prop :=
  (∃ mode content, t.locate .create path = .ok (.file l mode content)) ∨
    t.locate .create path = .ok (.vacant l)

section

variable {t : Tree} {path : Text} {l : Location}

theorem leadsTo_of_locate_find {mode : Mode} {content : ByteArray}
    (h : t.locate .find path = .ok (.file l mode content)) : t.LeadsTo path l :=
  .inl ⟨mode, content, locate_create_of_find h⟩

theorem LeadsTo.isFileOrFree (h : t.LeadsTo path l) : t.IsFileOrFree l := by
  intro e he
  rcases h with ⟨mode, content, h⟩ | h
  · rw [get?_of_locate h] at he
    exact ⟨mode, content, (Option.some.inj he).symm⟩
  · rw [get?_eq_none_of_locate h] at he
    cases he

theorem LeadsTo.locate_find {mode : Mode} {content : ByteArray} (h : t.LeadsTo path l)
    (he : t.get? l = some (.file mode content)) :
    t.locate .find path = .ok (.file l mode content) := by
  rcases h with ⟨mode', content', h⟩ | h
  · have hget := get?_of_locate h
    rw [he] at hget
    cases hget
    exact locate_find_of_create h
  · rw [get?_eq_none_of_locate h] at he
    cases he

theorem LeadsTo.locate_set_file (h : t.LeadsTo path l) (mode : Mode) (content : ByteArray) :
    (t.set l (.file mode content)).locate .find path = .ok (.file l mode content) := by
  have hl := h.isFileOrFree
  -- the walk that creates goes the same way as before, and the one that finds goes with it
  refine locate_find_of_create ?_
  rcases h with ⟨_, _, h⟩ | h <;>
    simpa [Place.filled] using Tree.locate_set_file hl mode content h

theorem read_set_file_of_not_leadsTo {other old : Text} (hl : t.IsFileOrFree l) (mode : Mode)
    (content : ByteArray) (hr : t.read other = .ok old) (hn : ¬ t.LeadsTo other l) :
    (t.set l (.file mode content)).read other = .ok old := by
  obtain ⟨k, m, hk, hm⟩ := read_eq_ok_iff.1 hr
  have hkl : k ≠ l := fun hkl => hn (hkl ▸ leadsTo_of_locate_find hk)
  have hk' := Tree.locate_set_file hl mode content hk
  rw [Place.filled, if_neg hkl] at hk'
  exact read_eq_ok_iff.2 ⟨k, m, hk', hm⟩

theorem exists_leadsTo_of_write {t' : Tree} {text : Text} (h : t.write path text = .ok t') :
    ∃ l mode, t.LeadsTo path l ∧ t' = t.set l (.file mode (Text.encode text)) := by
  rcases write_cases h with ⟨l, mode, content, hl, -, rfl⟩ | ⟨l, hl, rfl⟩
  · exact ⟨l, mode, .inl ⟨mode, content, hl⟩, rfl⟩
  · exact ⟨l, Mode.newFile, .inr hl, rfl⟩

end

/-- **What is written is read back** through every path that led to the file before or leads to it
now, by whoever may read it, as the superuser may.  A path that could be read and leads elsewhere
reads as it did; and where the write fails, every path does. -/
theorem read_write (t : Tree) (path text : Text) :
    let result := (manifests.write path text t).1
    let after := (manifests.write path text t).2
    (result = .ok () → ∃ l mode, t.LeadsTo path l ∧
      after.get? l = some (.file mode (Text.encode text)) ∧
      (t.user.mayRead mode = true →
        ∀ q, t.LeadsTo q l ∨ after.LeadsTo q l → after.read q = .ok text) ∧
      ∀ q old, t.read q = .ok old → ¬ t.LeadsTo q l → after.read q = .ok old) ∧
    ∀ cause, result = .error cause → ∀ q, after.read q = t.read q := by
  cases hw : t.write path text with
  | error cause =>
    rw [manifests_write_of_error hw]
    exact ⟨nofun, fun _ _ _ => rfl⟩
  | ok t' =>
    rw [manifests_write_of_ok hw]
    refine ⟨fun _ => ?_, nofun⟩
    obtain ⟨l, mode, hl, rfl⟩ := exists_leadsTo_of_write hw
    have hget := get?_set t l (.file mode (Text.encode text)) l
    rw [if_pos rfl] at hget
    refine ⟨l, mode, hl, hget, fun hm q hq => ?_, fun q old hr hn => ?_⟩
    · have hfind : (t.set l (.file mode (Text.encode text))).locate .find q =
          .ok (.file l mode (Text.encode text)) := by
        rcases hq with hq | hq
        · exact hq.locate_set_file mode _
        · exact hq.locate_find hget
      exact read_eq_ok_iff.2 ⟨l, mode, hfind, hm⟩
    · exact read_set_file_of_not_leadsTo hl.isFileOrFree mode _ hr hn

/-- A write through a link that leads nowhere yet, read through a path that goes down and up. -/
theorem read_write_link :
    let made := "made".toList
    let old := "let tag = \"v1\"".toList
    let new := "let tag = \"v2\"".toList
    let t : Tree := ⟨.superuser, [(["link".toList], .link made), (["d".toList], .directory 0o755),
      (["other".toList], .file 0o444 (Text.encode old))], []⟩
    let after := (manifests.write "link".toList new t).2
    (manifests.write "link".toList new t).1 = .ok () ∧ after.read made = .ok new ∧
      after.read "d/.././link".toList = .ok new ∧ after.read "other".toList = .ok old := by
  intro made old new t after
  have hlink : t.locate .create "link".toList = .ok (.vacant [made]) := by
    refine (locate_eq_ok_iff ..).2 ⟨by decide, ?_⟩
    refine .follow ⟨rfl, by decide, by decide, by decide, by decide⟩ rfl ?_
    exact .vacant ⟨rfl, by decide, by decide, by decide, by decide⟩ rfl rfl rfl
  have hmade : t.locate .create made = .ok (.vacant [made]) := by
    refine (locate_eq_ok_iff ..).2 ⟨by decide, ?_⟩
    exact .vacant ⟨rfl, by decide, by decide, by decide, by decide⟩ rfl rfl rfl
  have hround : t.locate .create "d/.././link".toList = .ok (.vacant [made]) := by
    refine (locate_eq_ok_iff ..).2 ⟨by decide, ?_⟩
    refine .enter ⟨rfl, by decide, by decide, by decide, by decide⟩ rfl ?_
    refine .up rfl (by decide) (.stay (fun _ => rfl) (by decide) ?_)
    refine .follow ⟨rfl, by decide, by decide, by decide, by decide⟩ rfl ?_
    exact .vacant ⟨rfl, by decide, by decide, by decide, by decide⟩ rfl rfl rfl
  have hother : t.locate .find "other".toList =
      .ok (.file ["other".toList] 0o444 (Text.encode old)) := by
    refine (locate_eq_ok_iff ..).2 ⟨by decide, ?_⟩
    exact .file ⟨rfl, by decide, by decide, by decide, by decide⟩ rfl
  have hmissing : t.locate .find "link".toList = .error .noSuchEntry := by
    have hl : t.LooksUp .find [] "link".toList [] :=
      ⟨rfl, by decide, by decide, by decide, by decide⟩
    have hm : t.LooksUp .find [] made [] := ⟨rfl, by decide, by decide, by decide, by decide⟩
    exact (hl.walk_eq 40).trans (hm.walk_eq 39)
  have hwritten : t.write "link".toList new =
      .ok (t.set [made] (.file Mode.newFile (Text.encode new))) := by
    rw [write, isReadOnly, hmissing, store, hlink]
    rfl
  have hok : (manifests.write "link".toList new t).1 = .ok () := by
    rw [manifests_write_of_ok hwritten]
  obtain ⟨l, mode, hl, -, hsame, helse⟩ := (read_write t "link".toList new).1 hok
  obtain rfl : l = [made] := by
    rcases hl with ⟨_, _, h⟩ | h
    · cases hlink.symm.trans h
    · exact (Place.vacant.inj (Except.ok.inj (hlink.symm.trans h))).symm
  refine ⟨hok, hsame rfl _ (.inl (.inr hmade)), hsame rfl _ (.inl (.inr hround)), ?_⟩
  refine helse _ _ (read_eq_ok_iff.2 ⟨_, _, hother, rfl⟩) ?_
  have hcreate := locate_create_of_find hother
  rintro (⟨_, _, h⟩ | h)
  · exact absurd (Place.file.inj (Except.ok.inj (hcreate.symm.trans h))).1 (by decide)
  · cases hcreate.symm.trans h

end ReleaseStamp.Files.Tree
