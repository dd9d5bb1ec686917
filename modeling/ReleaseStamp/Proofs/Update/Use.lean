import ReleaseStamp.Program
import ReleaseStamp.Proofs.Files.Change
import ReleaseStamp.Proofs.Update.Course
/-!
# What is never done

However manifests are read and written, updates made and the program run, one after another: no
entry is removed, no bits are changed, no link is turned elsewhere and no file that nobody may write
gets another content.  Nothing but a manifest that is written outright makes a file
(`Use.keeps_treeAfterAll`).
-/
namespace ReleaseStamp

open Files (Tree Mode)

namespace Job

theorem runOn_eq_or_rewrites (job : Job) (tree : Tree) :
    (job.runOn tree).2 = tree ∨ tree.Rewrites (job.runOn tree).2 := by
  have hcourse := job.course_runOn tree
  generalize job.runOn tree = outcome at hcourse
  cases hcourse with
  | written hS hr hd hw => exact .inr (Tree.rewrites_of_read_of_write hr hw)
  | refused | unread | dry | unwritten => exact .inl rfl

end Job

theorem Program.runOn_eq_or_rewrites (env : Environment) (args : List Text) (tree : Tree) :
    (runOn env args tree).2 = tree ∨ tree.Rewrites (runOn env args tree).2 := by
  rw [runOn_eq]
  cases CommandLine.read args with
  | error halt => exact .inl rfl
  | ok job => exact job.runOn_eq_or_rewrites tree

/-- What can be done to a file tree at a time. -/
inductive Use where
  | read (path : Text)
  | write (path text : Text)
  | update (job : Job)
  | program (env : Environment) (args : List Text)

namespace Use

/-- The tree that is left. -/
def treeAfter (tree : Tree) : Use → Tree
  | .read path => (Tree.manifests.read path tree).2
  | .write path text => (Tree.manifests.write path text tree).2
  | .update job => (job.runOn tree).2
  | .program env args => (Program.runOn env args tree).2

/-- The tree that is left when all of it has been done in turn. -/
def treeAfterAll (tree : Tree) (uses : List Use) : Tree := uses.foldl treeAfter tree

theorem treeAfterAll_append (tree : Tree) (before after : List Use) :
    treeAfterAll tree (before ++ after) = treeAfterAll (treeAfterAll tree before) after :=
  List.foldl_append

theorem treeAfter_write_of_ok {tree tree' : Tree} {path text : Text}
    (h : tree.write path text = .ok tree') : treeAfter tree (.write path text) = tree' := by
  rw [treeAfter, Tree.manifests_write_of_ok h]

theorem treeAfter_write_of_error {tree : Tree} {path text : Text} {cause : Files.Cause}
    (h : tree.write path text = .error cause) : treeAfter tree (.write path text) = tree := by
  rw [treeAfter, Tree.manifests_write_of_error h]

/-- **What one use does**: nothing, or it rewrites a file, or it is a write and makes one. -/
theorem step (tree : Tree) (u : Use) :
    treeAfter tree u = tree ∨ tree.Rewrites (treeAfter tree u) ∨
      (∃ path text, u = .write path text) ∧ tree.Makes (treeAfter tree u) := by
  cases u with
  | read path => exact .inl rfl
  | write path text =>
    cases hw : tree.write path text with
    | error cause => exact .inl (treeAfter_write_of_error hw)
    | ok tree' =>
      rw [treeAfter_write_of_ok hw]
      rcases Tree.rewrites_or_makes_of_write hw with ⟨_, _, _, -, h⟩ | ⟨_, -, h⟩
      · exact .inr (.inl h)
      · exact .inr (.inr ⟨⟨path, text, rfl⟩, h⟩)
  | update job => exact (job.runOn_eq_or_rewrites tree).imp_right .inl
  | program env args => exact (Program.runOn_eq_or_rewrites env args tree).imp_right .inl

theorem keeps_treeAfter (tree : Tree) (u : Use) : tree.Keeps (treeAfter tree u) := by
  rcases step tree u with h | h | ⟨-, h⟩
  · rw [h]
    exact .refl tree
  · exact h.keeps
  · exact h.keeps

/-- **What any number of uses keep.** -/
theorem run : ∀ (uses : List Use) (tree : Tree), tree.Keeps (treeAfterAll tree uses)
  | [], tree => .refl tree
  | u :: uses, tree => (keeps_treeAfter tree u).trans (run uses (treeAfter tree u))

theorem new_of_treeAfter {tree : Tree} {u : Use} {l : Files.Location} (hl : tree.get? l = none)
    (hnew : (treeAfter tree u).get? l ≠ none) :
    (∃ path text, u = .write path text) ∧
      (∃ mode content, (treeAfter tree u).get? l = some (.file mode content)) ∧
        ∀ k, k ≠ l → (treeAfter tree u).get? k = tree.get? k := by
  rcases step tree u with h | h | ⟨hu, h⟩
  · rw [h] at hnew
    exact absurd hl hnew
  · exact absurd (h.get?_eq_none hl) hnew
  · exact ⟨hu, h.new hl hnew⟩

/-- **What is never done.**  Over any run every entry stays, of its kind and with its bits or its
target, and a file that nobody may write keeps its content.  Where something is new after one more
use, that use was a write, what is new is a file, and it is all that this use has changed. -/
theorem keeps_treeAfterAll (tree : Tree) :
    (∀ uses, tree.Keeps (treeAfterAll tree uses)) ∧
    (∀ uses l mode content, tree.get? l = some (.file mode content) → mode.isReadOnly = true →
      (treeAfterAll tree uses).get? l = some (.file mode content)) ∧
    ∀ uses u l, (treeAfterAll tree uses).get? l = none →
      (treeAfterAll tree (uses ++ [u])).get? l ≠ none →
        (∃ path text, u = .write path text) ∧
          (∃ mode content,
            (treeAfterAll tree (uses ++ [u])).get? l = some (.file mode content)) ∧
          ∀ k, k ≠ l →
            (treeAfterAll tree (uses ++ [u])).get? k = (treeAfterAll tree uses).get? k := by
  refine ⟨fun uses => run uses tree, fun uses l mode content he hro => ?_, fun uses u l hl hnew => ?_⟩
  · exact (run uses tree).get?_of_isReadOnly he hro
  · have hstep : treeAfterAll tree (uses ++ [u]) = treeAfter (treeAfterAll tree uses) u :=
      treeAfterAll_append tree uses [u]
    rw [hstep] at hnew ⊢
    exact new_of_treeAfter hl hnew

/-- Writes through two links, one to a file that nobody may write and one that leads nowhere yet. -/
theorem keeps_treeAfterAll_links :
    let locked := "locked".toList
    let made := "made".toList
    let content := Text.encode "let tag = \"v1\"".toList
    let tree : Tree := ⟨.superuser, [([locked], .file 0o444 content),
      (["a".toList], .link locked), (["b".toList], .link made)], []⟩
    let uses : List Use := [.write "a".toList [], .write "b".toList []]
    tree.get? [made] = none ∧
      (∃ mode content', (treeAfterAll tree uses).get? [made] = some (.file mode content')) ∧
      (treeAfterAll tree uses).get? [locked] = some (.file 0o444 content) := by
  intro locked made content tree uses
  have hlocked : tree.locate .find "a".toList = .ok (.file [locked] 0o444 content) := by
    refine (Tree.locate_eq_ok_iff ..).2 ⟨by decide, ?_⟩
    refine .follow ⟨rfl, by decide, by decide, by decide, by decide⟩ rfl ?_
    exact .file ⟨rfl, by decide, by decide, by decide, by decide⟩ rfl
  have hmade : tree.locate .create "b".toList = .ok (.vacant [made]) := by
    refine (Tree.locate_eq_ok_iff ..).2 ⟨by decide, ?_⟩
    refine .follow ⟨rfl, by decide, by decide, by decide, by decide⟩ rfl ?_
    exact .vacant ⟨rfl, by decide, by decide, by decide, by decide⟩ rfl rfl rfl
  have hmissing : tree.locate .find "b".toList = .error .noSuchEntry := by
    have hb : tree.LooksUp .find [] "b".toList [] :=
      ⟨rfl, by decide, by decide, by decide, by decide⟩
    have hm : tree.LooksUp .find [] made [] := ⟨rfl, by decide, by decide, by decide, by decide⟩
    exact (hb.walk_eq 40).trans (hm.walk_eq 39)
  have hrefused : tree.write "a".toList [] = .error .readOnly := by
    rw [Tree.write, Tree.isReadOnly, hlocked]
    rfl
  have hwritten : tree.write "b".toList [] =
      .ok (tree.set [made] (.file Mode.newFile (Text.encode []))) := by
    rw [Tree.write, Tree.isReadOnly, hmissing, Tree.store, hmade]
    rfl
  have hbefore : treeAfterAll tree [.write "a".toList []] = tree :=
    treeAfter_write_of_error hrefused
  have hafter : treeAfterAll tree uses = tree.set [made] (.file Mode.newFile (Text.encode [])) := by
    calc treeAfterAll tree uses
        = treeAfter (treeAfterAll tree [.write "a".toList []]) (.write "b".toList []) := rfl
      _ = treeAfter tree (.write "b".toList []) := by rw [hbefore]
      _ = _ := treeAfter_write_of_ok hwritten
  obtain ⟨-, hkept, hnew⟩ := keeps_treeAfterAll tree
  have hmadeNew : (treeAfterAll tree uses).get? [made] ≠ none := by
    rw [hafter, Tree.get?_set, if_pos rfl]
    exact Option.some_ne_none _
  obtain ⟨-, hfile, -⟩ := hnew [.write "a".toList []] (.write "b".toList []) [made]
    (by rw [hbefore]; rfl) hmadeNew
  exact ⟨rfl, hfile, hkept uses [locked] _ _ rfl (by decide)⟩

end Use
end ReleaseStamp
