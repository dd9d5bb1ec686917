import ReleaseStamp.Program
import ReleaseStamp.Proofs.Update.Course
/-!
# Updates that fail

Whatever ends an update early does so before anything is touched (`Program.failure_untouched`).  A
request that is refused comes first of all: what is said of it is decided by the request, and the
manifest is not even looked at (`Job.run_of_objection`).
-/
namespace ReleaseStamp

open Files (Tree)

namespace Account

@[simp] theorem stdout_refused (r : Request) (o : Objection) (colour : Bool) :
    (refused r o).stdout colour = [] := rfl

@[simp] theorem stderr_refused (r : Request) (o : Objection) (colour : Bool) :
    (refused r o).stderr colour = [] := rfl

end Account

namespace Job

theorem runOn_of_failure {job : Job} {tree : Tree} {f : Failure}
    (h : (job.runOn tree).1.result = .error f) : (job.runOn tree).2 = tree := by
  have hc := job.course_runOn tree
  generalize job.runOn tree = outcome at h hc
  cases hc with
  | written => cases h
  | refused | unread | dry | unwritten => rfl

/-- A refused request is refused the same way wherever the manifests are, and with no use made of
them. -/
theorem run_of_objection {m : Type → Type} [Monad m] (manifests : Manifests m) {job : Job}
    {o : Objection} (h : Stamp.ofRequest job.request = .error o) :
    job.run manifests = pure (.refused job.request o) := by
  rw [run, h]

end Job

namespace Output

theorem exitCode_ofAccount (env : Environment) (a : Account) :
    (ofAccount env a).exitCode = 0 ↔ a.result = .ok () := by
  rw [ofAccount]
  cases a.result <;> simp

end Output

namespace Program

theorem runOn_of_exitCode {env : Environment} {args : List Text} {tree : Tree}
    (h : (runOn env args tree).1.exitCode ≠ 0) : (runOn env args tree).2 = tree := by
  rw [runOn_eq] at h ⊢
  cases hread : CommandLine.read args with
  | error halt => rfl
  | ok job =>
    rw [hread] at h
    cases hresult : (job.runOn tree).1.result with
    | ok u => exact absurd ((Output.exitCode_ofAccount env _).2 hresult) h
    | error f => exact Job.runOn_of_failure hresult

/-- **Nothing is touched by what fails.**  An update that ends in a failure leaves the tree as it
was, and so does a run of the program that ends with another code than 0.  A refused request ends
every update of it in the same way, in silence, whatever the tree, the path and the kind of run, and
on any manifests without a use of them. -/
theorem failure_untouched :
    (∀ (job : Job) (tree : Tree) (f : Failure), (job.runOn tree).1.result = .error f →
      (job.runOn tree).2 = tree) ∧
    (∀ (env : Environment) (args : List Text) (tree : Tree),
      (runOn env args tree).1.exitCode ≠ 0 → (runOn env args tree).2 = tree) ∧
    ∀ (r : Request) (o : Objection), Stamp.ofRequest r = .error o → ∃ a : Account,
      a.result = .error (.objection o) ∧ (∀ colour, a.stdout colour = [] ∧ a.stderr colour = []) ∧
        (∀ (path : Text) (dryRun : Bool) (tree : Tree),
          Job.runOn ⟨r, path, dryRun⟩ tree = (a, tree)) ∧
        ∀ (m : Type → Type) [Monad m] (manifests : Manifests m) (path : Text) (dryRun : Bool),
          Job.run ⟨r, path, dryRun⟩ manifests = pure a := by
  refine ⟨fun job tree f h => Job.runOn_of_failure h, fun env args tree h => runOn_of_exitCode h,
    fun r o h => ?_⟩
  refine ⟨.refused r o, Account.result_refused r o, fun colour => ⟨?_, ?_⟩, ?_, ?_⟩
  · exact Account.stdout_refused r o colour
  · exact Account.stderr_refused r o colour
  · intro path dryRun tree
    have hr : Stamp.ofRequest (Job.mk r path dryRun).request = .error o := h
    exact Job.runOn_of_objection hr
  · intro m _ manifests path dryRun
    have hr : Stamp.ofRequest (Job.mk r path dryRun).request = .error o := h
    exact Job.run_of_objection manifests hr

/-- A checksum in capitals, and a manifest that is not there. -/
theorem failure_untouched_capitals :
    let r : Request := ⟨some "AB".toList, none⟩
    let o : Objection := .rejected .checksum "AB".toList .notLowercase
    let tree : Tree := ⟨.superuser, [], []⟩
    let env : Environment := ⟨⟨none, none, none, none, none⟩, none, none, none, none, false, false,
      fun _ => [], fun _ _ => []⟩
    let args := ["--checksum".toList, "AB".toList]
    Stamp.ofRequest r = .error o ∧ (runOn env args tree).1.exitCode ≠ 0 ∧
      (runOn env args tree).2 = tree ∧ Job.runOn ⟨r, Job.defaultPath, true⟩ tree =
        Job.runOn ⟨r, "elsewhere".toList, false⟩ tree := by
  intro r o tree env args
  have hr : Stamp.ofRequest r = .error o := (Stamp.ofRequest_eq_error_iff r o).2 (by decide)
  have hcode : (runOn env args tree).1.exitCode ≠ 0 := by decide
  obtain ⟨-, hrun, hrefused⟩ := failure_untouched
  obtain ⟨a, -, -, hsame, -⟩ := hrefused r o hr
  exact ⟨hr, hcode, hrun env args tree hcode,
    (hsame Job.defaultPath true tree).trans (hsame "elsewhere".toList false tree).symm⟩

end Program
end ReleaseStamp
