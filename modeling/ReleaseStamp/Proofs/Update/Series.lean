import ReleaseStamp.Succession
import ReleaseStamp.Proofs.Files.Overwrite
import ReleaseStamp.Proofs.Update.Course
/-!
# Updates in a series

Updates of one manifest that follow each other do to its file what their requests do to its text:
after each of them the file holds the text that the requests which were to be written leave, and
nothing else has changed in the tree (`Job.getElem?_runInTurn`).
-/
namespace ReleaseStamp

open Files (Tree Location Mode)
open Request (textAfterAll)

namespace Job

/-- What each job comes to, with the tree that it leaves to the next. -/
def runInTurn : Tree → List Job → List (Account × Tree)
  | _, [] => []
  | tree, job :: jobs => job.runOn tree :: runInTurn (job.runOn tree).2 jobs

/-- The requests that are to be written. -/
def toWrite (jobs : List Job) : List Request := (jobs.filter (!·.dryRun)).map Job.request

theorem textAfterAll_toWrite_cons (text : Text) (job : Job) (jobs : List Job) :
    textAfterAll text (toWrite (job :: jobs)) =
      textAfterAll (textAfterAll text (toWrite [job])) (toWrite jobs) := by
  have hcut : toWrite (job :: jobs) = toWrite [job] ++ toWrite jobs := by
    rw [toWrite, ← List.singleton_append, List.filter_append, List.map_append]
    rfl
  rw [hcut]
  exact List.foldl_append

/-- An update ends as the acceptance of its request does. -/
structure EndsAs (a : Account) (r : Request) : Prop where
  ok_iff : a.result = .ok () ↔ ∃ S, Stamp.ofRequest r = .ok S
  error_of : ∀ o, Stamp.ofRequest r = .error o → a.result = .error (.objection o)

theorem endsAs_of_ok {a : Account} {r : Request} {S : Stamp} (ha : a.result = .ok ())
    (hS : Stamp.ofRequest r = .ok S) : EndsAs a r :=
  ⟨⟨fun _ => ⟨S, hS⟩, fun _ => ha⟩, fun o ho => by rw [hS] at ho; cases ho⟩

theorem endsAs_of_error {a : Account} {r : Request} {o : Objection}
    (ha : a.result = .error (.objection o)) (ho : Stamp.ofRequest r = .error o) : EndsAs a r := by
  refine ⟨⟨fun h => ?_, fun ⟨S, hS⟩ => ?_⟩, fun o' ho' => ?_⟩
  · rw [ha] at h
    cases h
  · rw [hS] at ho
    cases ho
  · rw [ho] at ho'
    cases ho'
    exact ha

section

variable {tree : Tree} {path : Text} {l : Location} {mode : Mode} {text : Text}

/-- **What one update does.** -/
theorem step (h : tree.HasManifest path l mode text) {job : Job} (hp : job.path = path) :
    EndsAs (job.runOn tree).1 job.request ∧
      (job.runOn tree).2 =
        tree.set l (.file mode (Text.encode (textAfterAll text (toWrite [job])))) := by
  subst hp
  cases hS : Stamp.ofRequest job.request with
  | error o =>
    have hsame : textAfterAll text (toWrite [job]) = text := by
      cases hd : job.dryRun <;>
        simp [toWrite, hd, textAfterAll, Request.textAfter, Request.revise, hS, Except.map]
    rw [runOn_of_objection hS, hsame, h.set_self]
    exact ⟨endsAs_of_error rfl hS, rfl⟩
  | ok S =>
    cases hd : job.dryRun with
    | true =>
      have hsame : textAfterAll text (toWrite [job]) = text := by simp [toWrite, hd, textAfterAll]
      rw [runOn_of_dryRun hS h.read_eq hd, hsame, h.set_self]
      exact ⟨endsAs_of_ok rfl hS, rfl⟩
    | false =>
      have hafter : textAfterAll text (toWrite [job]) = (S.revise text).text := by
        simp [toWrite, hd, textAfterAll, Request.textAfter, Request.revise, hS, Except.map]
      rw [runOn_of_write hS h.read_eq hd (h.write_eq _), hafter]
      exact ⟨endsAs_of_ok rfl hS, rfl⟩

end

/-- **What a series of updates does.**  Each update ends as the acceptance of its request does, and
leaves the tree as it was at first, but for the text of the manifest. -/
theorem getElem?_runInTurn {path : Text} {l : Location} {mode : Mode} :
    ∀ {jobs : List Job} {tree : Tree} {text : Text}, tree.HasManifest path l mode text →
      (∀ job ∈ jobs, job.path = path) → ∀ {i : Nat} {job : Job}, jobs[i]? = some job →
        ∃ account tree', (runInTurn tree jobs)[i]? = some (account, tree') ∧
          EndsAs account job.request ∧
          let now := textAfterAll text (toWrite (jobs.take (i + 1)))
          tree' = tree.set l (.file mode (Text.encode now)) ∧ tree'.HasManifest path l mode now
  | job :: jobs, tree, text, h, hp, 0, _, rfl => by
    obtain ⟨hend, htree⟩ := step h (hp job List.mem_cons_self)
    refine ⟨(job.runOn tree).1, (job.runOn tree).2, rfl, hend, htree, ?_⟩
    rw [htree]
    exact h.set _
  | job :: jobs, tree, text, h, hp, i + 1, job', hj => by
    obtain ⟨-, htree⟩ := step h (hp job List.mem_cons_self)
    have hnext := h.set (textAfterAll text (toWrite [job]))
    rw [← htree] at hnext
    obtain ⟨account, tree', hi, hend, hset, hmanifest⟩ :=
      getElem?_runInTurn hnext (fun job' h' => hp job' (List.mem_cons_of_mem _ h')) hj
    rw [← textAfterAll_toWrite_cons, ← List.take_succ_cons] at hset hmanifest
    rw [htree, Tree.set_set] at hset
    exact ⟨account, tree', hi, hend, hset, hmanifest⟩

/-- A dry run and a real one through a link. -/
theorem getElem?_runInTurn_link :
    let text := "let tag = \"v1\"".toList
    let file := "real.swift".toList
    let tree : Tree := ⟨.superuser,
      [([defaultPath], .link file), ([file], .file 0o644 (Text.encode text))], []⟩
    let jobs : List Job := [⟨⟨none, some "2.0.0".toList⟩, defaultPath, true⟩,
      ⟨⟨none, some "1.2.3".toList⟩, defaultPath, false⟩]
    tree.HasManifest defaultPath [file] 0o644 text ∧ (∀ job ∈ jobs, job.path = defaultPath) ∧
      ∃ account tree', (runInTurn tree jobs)[1]? = some (account, tree') ∧
        account.result = .ok () ∧ tree'.read defaultPath = .ok "let tag = \"1.2.3\"".toList := by
  intro text file tree jobs
  have h : tree.HasManifest defaultPath [file] 0o644 text := by
    refine ⟨(Tree.locate_eq_ok_iff ..).2 ⟨by decide, ?_⟩, by decide, rfl, rfl⟩
    refine .follow ⟨rfl, by decide, by decide, by decide, by decide⟩ rfl ?_
    exact .file ⟨rfl, by decide, by decide, by decide, by decide⟩ rfl
  have hp : ∀ job ∈ jobs, job.path = defaultPath := by decide
  have hj : jobs[1]? = some ⟨⟨none, some "1.2.3".toList⟩, defaultPath, false⟩ := rfl
  have hnow : textAfterAll text (toWrite (jobs.take 2)) = "let tag = \"1.2.3\"".toList := by decide
  obtain ⟨account, tree', hi, hend, -, hmanifest⟩ := getElem?_runInTurn h hp hj
  refine ⟨h, hp, account, tree', hi, ?_, hnow ▸ hmanifest.read_eq⟩
  exact hend.ok_iff.2 ⟨⟨⟨none, some "1.2.3".toList⟩, by decide⟩, rfl⟩

end Job
end ReleaseStamp
