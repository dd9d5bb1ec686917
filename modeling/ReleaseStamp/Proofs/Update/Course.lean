import ReleaseStamp.Update
/-!
# The course of an update

An update takes one of five courses: its request is refused, its manifest is not read, it is a dry
run, or its revision is written, or is not.  `course_runOn` says that there is no sixth, and the
lemma of each course says when it is taken and what comes of it.
-/
namespace ReleaseStamp

open Files (Tree Cause)

namespace Account

/-- What the account says on the standard output. -/
def stdout (a : Account) (colour : Bool) : Text := Notice.renderAll colour a.notices

/-- What it says on the error stream; how it ended is not said there yet. -/
def stderr (a : Account) (colour : Bool) : Text := Notice.renderAll colour a.warnings

@[simp] theorem result_refused (r : Request) (o : Objection) :
    (refused r o).result = .error (.objection o) := rfl

end Account

namespace Job

/-- The account of an update whose manifest held the text and was to become what the stamp makes of
it. -/
def accountOf (job : Job) (S : Stamp) (text : Text) : Account :=
  .revised job.path text (S.revise text)

section Courses

variable {job : Job} {tree : Tree}

theorem runOn_of_objection {o : Objection} (h : Stamp.ofRequest job.request = .error o) :
    job.runOn tree = (.refused job.request o, tree) := by
  rw [runOn_eq, h]

variable {S : Stamp} (hS : Stamp.ofRequest job.request = .ok S)
include hS

theorem runOn_of_unread {cause : Cause} (hr : tree.read job.path = .error cause) :
    job.runOn tree = (.unread job.path cause, tree) := by
  rw [runOn_eq, hS]
  simp only [hr]

variable {text : Text} (hr : tree.read job.path = .ok text)
include hr

theorem runOn_of_dryRun (hd : job.dryRun = true) :
    job.runOn tree = ((job.accountOf S text).dry (S.revise text), tree) := by
  rw [runOn_eq, hS]
  simp only [hr, hd, if_true]
  rfl

theorem runOn_of_write {tree' : Tree} (hd : job.dryRun = false)
    (hw : tree.write job.path (S.revise text).text = .ok tree') :
    job.runOn tree =
      ((job.accountOf S text).written job.path (S.revise text).text (.ok ()), tree') := by
  rw [runOn_eq, hS]
  simp only [hr, hd, hw, Bool.false_eq_true, if_false]
  rfl

theorem runOn_of_unwritten {cause : Cause} (hd : job.dryRun = false)
    (hw : tree.write job.path (S.revise text).text = .error cause) :
    job.runOn tree =
      ((job.accountOf S text).written job.path (S.revise text).text (.error cause), tree) := by
  rw [runOn_eq, hS]
  simp only [hr, hd, hw, Bool.false_eq_true, if_false]
  rfl

end Courses

/-- The courses of an update: what it comes to, and the tree that it leaves. -/
inductive Course (job : Job) (tree : Tree) : Account × Tree → Prop where
  | refused {o : Objection} (h : Stamp.ofRequest job.request = .error o) :
      Course job tree (.refused job.request o, tree)
  | unread {S : Stamp} {cause : Cause} (hS : Stamp.ofRequest job.request = .ok S)
      (hr : tree.read job.path = .error cause) : Course job tree (.unread job.path cause, tree)
  | dry {S : Stamp} {text : Text} (hS : Stamp.ofRequest job.request = .ok S)
      (hr : tree.read job.path = .ok text) (hd : job.dryRun = true) :
      Course job tree ((job.accountOf S text).dry (S.revise text), tree)
  | written {S : Stamp} {text : Text} {tree' : Tree} (hS : Stamp.ofRequest job.request = .ok S)
      (hr : tree.read job.path = .ok text) (hd : job.dryRun = false)
      (hw : tree.write job.path (S.revise text).text = .ok tree') :
      Course job tree
        ((job.accountOf S text).written job.path (S.revise text).text (.ok ()), tree')
  | unwritten {S : Stamp} {text : Text} {cause : Cause} (hS : Stamp.ofRequest job.request = .ok S)
      (hr : tree.read job.path = .ok text) (hd : job.dryRun = false)
      (hw : tree.write job.path (S.revise text).text = .error cause) :
      Course job tree
        ((job.accountOf S text).written job.path (S.revise text).text (.error cause), tree)

/-- **Every update takes one of the courses.** -/
theorem course_runOn (job : Job) (tree : Tree) : Course job tree (job.runOn tree) := by
  cases hS : Stamp.ofRequest job.request with
  | error o => rw [runOn_of_objection hS]; exact .refused hS
  | ok S =>
    cases hr : tree.read job.path with
    | error cause => rw [runOn_of_unread hS hr]; exact .unread hS hr
    | ok text =>
      cases hd : job.dryRun with
      | true => rw [runOn_of_dryRun hS hr hd]; exact .dry hS hr hd
      | false =>
        cases hw : tree.write job.path (S.revise text).text with
        | error cause => rw [runOn_of_unwritten hS hr hd hw]; exact .unwritten hS hr hd hw
        | ok tree' => rw [runOn_of_write hS hr hd hw]; exact .written hS hr hd hw

end Job
end ReleaseStamp
