import ReleaseStamp.Proofs.Files.Route
import ReleaseStamp.Proofs.Update.Lines
/-!
# Dry runs

A dry run prints what a real one would: both fail in the same way and say the same of it, or else
print the same lines of the revision before they part, and the number that the dry run ends with is
that of the declarations which the real one rewrites (`Job.dryRun_predicts`).
-/
namespace ReleaseStamp

open Files (Tree Cause)
open Terminal (Style)

namespace Job

theorem snd_runOn_of_dryRun {job : Job} (hd : job.dryRun = true) (tree : Tree) :
    (job.runOn tree).2 = tree := by
  have h := course_runOn job tree
  generalize job.runOn tree = out at h
  cases h with
  | refused => rfl
  | unread => rfl
  | dry => rfl
  | written _ _ hf => rw [hd] at hf; cases hf
  | unwritten => rfl

/-- A real run of a text ends in the writing, and says more only if that succeeds. -/
theorem written_or_unwritten {job : Job} {tree : Tree} (colour : Bool) {S : Stamp} {text : Text}
    (hS : Stamp.ofRequest job.request = .ok S) (hr : tree.read job.path = .ok text)
    (hd : job.dryRun = false) :
    let real := job.runOn tree
    let before := firstLines colour job.path (S.revise text) S.entries
    (real.1.result = .ok () ∧ tree.write job.path (S.revise text).text = .ok real.2 ∧
        real.1.stdout colour = before ++
          (Style.boldGreen.paint colour "✓ Successfully updated".toList ++ ' ' :: job.path ++
            ['\n'])) ∨
      ∃ cause, real.1.result = .error (.unwritable job.path cause) ∧
        real.1.stdout colour = before := by
  obtain ⟨r, path, dryRun⟩ := job
  subst hd
  intro real before
  have hout : real.1.stdout colour = _ := stdout_of_text colour hS hr
  cases hw : tree.write path (S.revise text).text with
  | ok tree' =>
    have hreal : real = _ := runOn_of_write hS hr rfl hw
    have hres : real.1.result = .ok () := by
      rw [hreal]
      rfl
    refine .inl ⟨hres, by rw [hreal], ?_⟩
    rw [hout, show (Job.runOn ⟨r, path, false⟩ tree).1.result = .ok () from hres]
    rfl
  | error cause =>
    have hreal : real = _ := runOn_of_unwritten hS hr rfl hw
    have hres : real.1.result = .error (.unwritable path cause) := by
      rw [hreal]
      rfl
    refine .inr ⟨cause, hres, ?_⟩
    rw [hout, show (Job.runOn ⟨r, path, false⟩ tree).1.result = _ from hres]
    exact List.append_nil _

/-- **A dry run predicts the real one.**  The number that it ends with is that of the fields which
were found in the text, and of the pairs of lines that tell an old value and a new one. -/
theorem dryRun_predicts (r : Request) (path : Text) (tree : Tree) (colour : Bool) :
    let dry := Job.runOn ⟨r, path, true⟩ tree
    let real := Job.runOn ⟨r, path, false⟩ tree
    dry.2 = tree ∧
      (∀ o, Stamp.ofRequest r = .error o →
        dry.1.result = .error (.objection o) ∧ real.1 = dry.1 ∧
          dry.1.stdout colour = [] ∧ dry.1.stderr colour = []) ∧
      ∀ S, Stamp.ofRequest r = .ok S →
        (∀ cause, tree.read path = .error cause →
          dry.1.result = .error (.unreadable path cause) ∧ real.1 = dry.1 ∧
            dry.1.stdout colour = "Updating: ".toList ++ path ++ ['\n'] ∧
              dry.1.stderr colour = []) ∧
        ∀ text, tree.read path = .ok text →
          let revision := S.revise text
          let before := "Updating: ".toList ++ path ++ ['\n'] ++
            revision.lines colour S.entries ++
            if revision.isNoop then
              '\n' :: Style.yellow.paint colour "No changes needed".toList ++ ['\n']
            else []
          let found := Field.all.filter revision.isFound
          dry.1.result = .ok () ∧
            dry.1.stdout colour = before ++
              ('\n' :: Style.boldYellow.paint colour "DRY RUN - No changes will be made".toList ++
                " (".toList ++ Text.ofNat found.length ++ " declaration(s) matched)\n".toList) ∧
            real.1.stderr colour = dry.1.stderr colour ∧
            ((real.1.result = .ok () ∧ tree.write path revision.text = .ok real.2 ∧
                real.1.stdout colour = before ++
                  (Style.boldGreen.paint colour "✓ Successfully updated".toList ++ ' ' :: path ++
                    ['\n'])) ∨
              ∃ cause, real.1.result = .error (.unwritable path cause) ∧
                real.1.stdout colour = before) ∧
            (revision.changes S.entries).length = found.length := by
  intro dry real
  refine ⟨snd_runOn_of_dryRun rfl tree, fun o ho => ?_, fun S hS => ?_⟩
  · have ho (d : Bool) : Stamp.ofRequest (Job.mk r path d).request = .error o := ho
    have hdry : dry = (.refused r o, tree) := runOn_of_objection (ho true)
    have hreal : real = (.refused r o, tree) := runOn_of_objection (ho false)
    rw [hdry, hreal]
    exact ⟨rfl, rfl, rfl, rfl⟩
  have hS (d : Bool) : Stamp.ofRequest (Job.mk r path d).request = .ok S := hS
  refine ⟨fun cause hr => ?_, fun text hr => ?_⟩
  · have hdry : dry = (.unread path cause, tree) := runOn_of_unread (hS true) hr
    have hreal : real = (.unread path cause, tree) := runOn_of_unread (hS false) hr
    have hout := stdout_of_unread colour (hS true) hr
    refine ⟨congrArg (·.1.result) hdry, by rw [hdry, hreal], hout, ?_⟩
    rw [hdry]
    rfl
  intro revision before found
  have hcount : (revision.changes S.entries).length = found.length := S.length_changes_revise text
  have hok : dry.1.result = .ok () := by
    rw [show dry = _ from runOn_of_dryRun (hS true) hr rfl]
    rfl
  have hout : dry.1.stdout colour = _ := stdout_of_text colour (hS true) hr
  have herr : dry.1.stderr colour = _ := stderr_of_text colour (hS true) hr
  have herr' : real.1.stderr colour = _ := stderr_of_text colour (hS false) hr
  -- how the writing ends is all that the dry run does not know
  have hreal := written_or_unwritten colour (hS false) hr rfl
  exact ⟨hok, hcount ▸ hout, herr'.trans herr.symm, hreal, hcount⟩

/-- A file that nobody may write, and a value that it holds already. -/
theorem dryRun_predicts_readOnly :
    let text := "let tag = \"1.2.3\"".toList
    let tree : Tree := ⟨.superuser, [([defaultPath], .file 0o444 (Text.encode text))], []⟩
    let r : Request := ⟨none, some "1.2.3".toList⟩
    let dry := Job.runOn ⟨r, defaultPath, true⟩ tree
    let real := Job.runOn ⟨r, defaultPath, false⟩ tree
    let before := "Updating: Package.swift\nSetting tag: 1.2.3\n".toList ++
      "  Changed from: 1.2.3\n  Changed to:   1.2.3\n\nNo changes needed\n".toList
    (∃ S, Stamp.ofRequest r = .ok S) ∧ tree.read defaultPath = .ok text ∧
      dry.1.result = .ok () ∧ real.1.result = .error (.unwritable defaultPath .readOnly) ∧
      dry.1.stdout false = before ++
        "\nDRY RUN - No changes will be made (1 declaration(s) matched)\n".toList ∧
      real.1.stdout false = before := by
  intro text tree r dry real before
  let S : Stamp := ⟨r, by decide⟩
  have hS : Stamp.ofRequest r = .ok S := rfl
  have hfind : tree.locate .find defaultPath =
      .ok (.file [defaultPath] 0o444 (Text.encode text)) := by
    refine (Tree.locate_eq_ok_iff ..).2 ⟨by decide, ?_⟩
    exact .file ⟨rfl, by decide, by decide, by decide, by decide⟩ rfl
  have hr : tree.read defaultPath = .ok text := by
    rw [Tree.read, hfind]
    decide
  have hw : tree.write defaultPath (S.revise text).text = .error .readOnly := by
    rw [Tree.write, Tree.isReadOnly, hfind]
    rfl
  have hfail : real.1.result = .error (.unwritable defaultPath .readOnly) :=
    congrArg (·.1.result) (runOn_of_unwritten hS hr rfl hw)
  obtain ⟨-, -, h⟩ := dryRun_predicts r defaultPath tree false
  obtain ⟨hok, hdry, -, hreal, -⟩ := (h S hS).2 text hr
  refine ⟨⟨S, hS⟩, hr, hok, hfail, hdry.trans (by decide +kernel), ?_⟩
  obtain ⟨hreal, -⟩ | ⟨_, -, hreal⟩ := hreal
  · rw [hfail] at hreal
    cases hreal
  · exact hreal.trans (by decide +kernel)

end Job
end ReleaseStamp
