import ReleaseStamp.Job
import ReleaseStamp.Manifest
import ReleaseStamp.Notice
import ReleaseStamp.Files.Access
/-!
# Updates

An update carries out a job.  The request is accepted or refused before the manifest is opened; the
manifest is then read once, revised in memory and, unless this is a dry run, written once.  It is
written even where the revision changes nothing.  That a field cannot be searched for would end an
update too, and never does (`Stamp.unsearchable?_eq`).

`Account.revised` is all of the account that a dry run and a real run share, and `runOn_eq` says
what an update on a file tree comes to.
-/
namespace ReleaseStamp

/-- What an update came to: how it ended, what it said and what it journalled. -/
structure Account where
  result : Except Failure Unit
  notices : List Notice
  warnings : List Notice
  events : List Event

namespace Account

def refused (r : Request) (o : Objection) : Account :=
  ⟨.error (.objection o), [], [], r.events⟩

def unread (path : Text) (cause : Files.Cause) : Account :=
  ⟨.error (.unreadable path cause), [.updating path], [],
    Manifests.readEvents path (.error cause)⟩

def unsearched (path text : Text) (r : Revision) (f : Field) (o : Journal.Pattern.Objection) :
    Account :=
  ⟨.error (.unsearchable f o), [.updating path], [],
    Manifests.readEvents path (.ok text) ++
      (r.edits.takeWhile (·.field ≠ f)).flatMap Edit.events ++ [.searching f.name]⟩

/-- The account up to the point where the text is revised and not yet written. -/
def revised (path text : Text) (r : Revision) : Account :=
  ⟨.ok (), .updating path :: r.notices, r.warnings path,
    Manifests.readEvents path (.ok text) ++ r.events⟩

/-- Adds that nothing was written because nothing was to be. -/
def dry (a : Account) (r : Revision) : Account :=
  { a with notices := a.notices ++ [.dryRun r.changed.length] }

/-- Adds how the writing ended. -/
def written (a : Account) (path text : Text) (result : Except Files.Cause Unit) : Account :=
  { a with
    result := result.mapError (.unwritable path ·)
    notices := a.notices ++ (match result with | .ok () => [.updated path] | .error _ => [])
    events := a.events ++ Manifests.writeEvents path text result }

end Account

/-- The first field that is asked for and cannot be searched for. -/
def Stamp.unsearchable? (s : Stamp) : Option (Field × Journal.Pattern.Objection) :=
  s.entries.findSome? fun e =>
    match Declaration.search e.1.name with
    | .ok _ => none
    | .error o => some (e.1, o)

theorem Stamp.unsearchable?_eq (s : Stamp) : s.unsearchable? = none := by
  refine List.findSome?_eq_none_iff.2 fun e _ => ?_
  rw [Declaration.search_field]

namespace Job

def run {m : Type → Type} [Monad m] (job : Job) (manifests : Manifests m) : m Account :=
  match Stamp.ofRequest job.request with
  | .error o => pure (.refused job.request o)
  | .ok stamp => do
    match ← manifests.read job.path with
    | .error cause => return .unread job.path cause
    | .ok text =>
      let revision := stamp.revise text
      if let some (f, o) := stamp.unsearchable? then
        return .unsearched job.path text revision f o
      let account := Account.revised job.path text revision
      if job.dryRun then return account.dry revision
      let result ← manifests.write job.path revision.text
      return account.written job.path revision.text result

end Job

def Files.Tree.manifests : Manifests (StateM Files.Tree) where
  read path := fun tree => (tree.read path, tree)
  write path text := fun tree =>
    match tree.write path text with
    | .ok tree' => (.ok (), tree')
    | .error cause => (.error cause, tree)

theorem Files.Tree.manifests_write_of_ok {tree tree' : Files.Tree} {path text : Text}
    (h : tree.write path text = .ok tree') : manifests.write path text tree = (.ok (), tree') := by
  simp [manifests, h]

theorem Files.Tree.manifests_write_of_error {tree : Files.Tree} {path text : Text}
    {cause : Files.Cause} (h : tree.write path text = .error cause) :
    manifests.write path text tree = (.error cause, tree) := by
  simp [manifests, h]

namespace Job

/-- Carries out a job on a file tree. -/
def runOn (job : Job) (tree : Files.Tree) : Account × Files.Tree :=
  job.run Files.Tree.manifests tree

theorem runOn_eq (job : Job) (tree : Files.Tree) :
    job.runOn tree =
      match Stamp.ofRequest job.request with
      | .error o => (.refused job.request o, tree)
      | .ok stamp =>
        match tree.read job.path with
        | .error cause => (.unread job.path cause, tree)
        | .ok text =>
          let revision := stamp.revise text
          let account := Account.revised job.path text revision
          if job.dryRun then (account.dry revision, tree)
          else
            match tree.write job.path revision.text with
            | .ok tree' => (account.written job.path revision.text (.ok ()), tree')
            | .error cause => (account.written job.path revision.text (.error cause), tree) := by
  unfold runOn run
  cases Stamp.ofRequest job.request with
  | error o => rfl
  | ok stamp =>
    simp only [bind, StateT.bind, Files.Tree.manifests]
    cases tree.read job.path with
    | error cause => rfl
    | ok text =>
      simp only [stamp.unsearchable?_eq]
      cases job.dryRun with
      | true => rfl
      | false =>
        simp only [Bool.false_eq_true, if_false, StateT.bind, bind]
        cases tree.write job.path (stamp.revise text).text <;> rfl

end Job
end ReleaseStamp
