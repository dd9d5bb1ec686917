import ReleaseStamp.Proofs.Files.Route
import ReleaseStamp.Proofs.Revision.Report
import ReleaseStamp.Proofs.Update.Lines
/-!
# What is told of each field

An update tells of each field that it was asked for, in their order: the new value, and after it the
old one if the field was declared.  A field that was not declared is warned of on the error stream
instead.  The notices are made edit by edit and look up nothing; that they agree with the report,
where a field is looked up by its name, rests on there being one edit for each field
(`Job.accounts_and_tells`).
-/
namespace ReleaseStamp

open Files (Tree)
open Terminal (Style)

/-! ## The lines -/

namespace Field

/-- What is told of a field: the new value, and the values that the report has of it. -/
def lines (f : Field) (new : Text) (o : Option Outcome) : Text :=
  "Setting ".toList ++ f.name ++ ": ".toList ++ new ++ ['\n'] ++
    match o with
    | some (.replaced old new) =>
      "  Changed from: ".toList ++ old ++ ['\n'] ++ "  Changed to:   ".toList ++ new ++ ['\n']
    | _ => []

/-- The warning of a field that the file does not declare. -/
def warning (f : Field) (file : Text) : Text :=
  "  ".toList ++ "Warning:".toList ++ " Could not find ".toList ++ f.name ++ " in ".toList ++
    file ++ ['\n']

end Field

/-- What is told when there is nothing to change. -/
def Revision.idleLines (r : Revision) : Text :=
  if r.isNoop then '\n' :: "No changes needed".toList ++ ['\n'] else []

/-- What an update tells in the end; one that could not write tells nothing more. -/
def Job.lastLines (job : Job) (r : Revision) (result : Except Failure Unit) : Text :=
  match job.dryRun, result with
  | true, _ =>
    '\n' :: "DRY RUN - No changes will be made".toList ++ " (".toList ++
      Text.ofNat r.changed.length ++ " declaration(s) matched)\n".toList
  | false, .ok _ => "✓ Successfully updated".toList ++ ' ' :: job.path ++ ['\n']
  | false, .error _ => []

/-! ## Without colour -/

theorem Field.settingLine_false (f : Field) (new : Text) : f.settingLine false new =
    "Setting ".toList ++ f.name ++ ": ".toList ++ new ++ ['\n'] :=
  rfl

theorem Revision.lines_false (r : Revision) (fields : List (Field × Text)) :
    r.lines false fields = fields.flatMap fun e => e.1.lines e.2 (r.outcome? e.1) := by
  refine List.flatMap_congr fun e _ => ?_
  unfold change? Field.lines
  rw [Field.settingLine_false]
  cases r.outcome? e.1 with
  | none => rfl
  | some o => cases o <;> rfl

theorem Revision.idleNotice_false (r : Revision) : r.idleNotice false = r.idleLines := rfl

namespace Job

theorem endLines_false (job : Job) (S : Stamp) (text : Text) (result : Except Failure Unit) :
    job.endLines false ((S.revise text).changes S.entries).length result =
      job.lastLines (S.revise text) result := by
  rw [S.length_changes_revise, ← S.length_changed_revise]
  rfl

/-- **Each field that is asked for is told of once.**  The report has it once, as changed or as not
found, and so have the two streams: between what is told of the path and what is told in the end
stands the new value of each field in turn, with the old one if it was changed, and each field that
was not found has its warning. -/
theorem accounts_and_tells :
    (∀ (S : Stamp) (text : Text), (S.revise text).Accounts S) ∧
    ∀ (job : Job) (tree : Tree) (S : Stamp) (text : Text),
      Stamp.ofRequest job.request = .ok S → tree.read job.path = .ok text →
        let r := S.revise text
        let a := (job.runOn tree).1
        a.stdout false =
            "Updating: ".toList ++ job.path ++ ['\n'] ++
              (S.entries.flatMap (fun e => e.1.lines e.2 (r.outcome? e.1)) ++ r.idleLines) ++
                job.lastLines r a.result ∧
          a.stderr false =
            r.notFound.flatMap (·.warning ((Files.Path.fileName? job.path).getD job.path)) := by
  refine ⟨Stamp.accounts_revise, fun job tree S text hS hr => ?_⟩
  intro r a
  have hout : a.stdout false = firstLines false job.path r S.entries ++
      job.endLines false (r.changes S.entries).length a.result := stdout_of_text false hS hr
  refine ⟨?_, stderr_of_text false hS hr⟩
  unfold firstLines at hout
  rw [hout, r.lines_false, r.idleNotice_false, job.endLines_false, List.append_assoc _ _ r.idleLines]

/-- An old value of two lines, and a field that is not declared. -/
theorem accounts_and_tells_lines :
    let text := "let checksum = \"a\nb\"".toList
    let tree : Tree := ⟨.superuser, [([defaultPath], .file 0o644 (Text.encode text))], []⟩
    let r : Request := ⟨some "cd".toList, some "1.2.3".toList⟩
    let a := (Job.runOn ⟨r, defaultPath, true⟩ tree).1
    (∃ S, Stamp.ofRequest r = .ok S) ∧ tree.read defaultPath = .ok text ∧
      a.stdout false = "Updating: Package.swift\nSetting checksum: cd\n".toList ++
        "  Changed from: a\nb\n  Changed to:   cd\n".toList ++ "Setting tag: 1.2.3\n".toList ++
          "\nDRY RUN - No changes will be made (1 declaration(s) matched)\n".toList ∧
      a.stderr false = "  Warning: Could not find tag in Package.swift\n".toList := by
  intro text tree r a
  let S : Stamp := ⟨r, by decide⟩
  have hS : Stamp.ofRequest r = .ok S := rfl
  have hfind : tree.locate .find defaultPath =
      .ok (.file [defaultPath] 0o644 (Text.encode text)) := by
    refine (Tree.locate_eq_ok_iff ..).2 ⟨by decide, ?_⟩
    exact .file ⟨rfl, by decide, by decide, by decide, by decide⟩ rfl
  have hr : tree.read defaultPath = .ok text := by
    rw [Tree.read, hfind]
    decide
  obtain ⟨hout, herr⟩ := accounts_and_tells.2 ⟨r, defaultPath, true⟩ tree S text hS hr
  refine ⟨⟨S, hS⟩, hr, hout.trans ?_, herr.trans ?_⟩
  · decide +kernel
  · decide

end Job
end ReleaseStamp
