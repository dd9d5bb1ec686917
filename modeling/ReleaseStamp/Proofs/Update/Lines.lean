import ReleaseStamp.Proofs.Revision.Outcome
import ReleaseStamp.Proofs.Update.Course
/-!
# The lines of an update

What an update prints, line by line and in full: the path, then of each field the new value and, if
its declaration was found, the old value and the new one, then that there is nothing to change if
there is nothing, and last what came of it.  An update that is refused prints nothing, and one whose
manifest cannot be read gets no further than the path (`Job.stdout_of_objection`,
`Job.stdout_of_unread`, `Job.stdout_of_text`).
-/
namespace ReleaseStamp

open Files (Tree Cause)
open Terminal (Style)

/-- The line of a field and its new value. -/
def Field.settingLine (colour : Bool) (f : Field) (new : Text) : Text :=
  "Setting ".toList ++ Style.bold.paint colour f.name ++ ": ".toList ++ new ++ ['\n']

/-- The two lines of an old value and the new one. -/
def Field.changeLines (colour : Bool) (change : Text × Text) : Text :=
  "  Changed from: ".toList ++ Style.yellow.paint colour change.1 ++ ['\n'] ++
    "  Changed to:   ".toList ++ Style.green.paint colour change.2 ++ ['\n']

/-- The warning of a field that the file does not declare. -/
def Field.warningLine (colour : Bool) (file : Text) (f : Field) : Text :=
  "  ".toList ++ Style.boldYellow.paint colour "Warning:".toList ++ " Could not find ".toList ++
    f.name ++ " in ".toList ++ file ++ ['\n']

namespace Revision

/-- The old value of a field and the new one, as they are reported. -/
def change? (r : Revision) (f : Field) : Option (Text × Text) :=
  match r.outcome? f with
  | some (.replaced old new) => some (old, new)
  | _ => none

/-- The old and new values that are told of some fields. -/
def changes (r : Revision) (fields : List (Field × Text)) : List (Text × Text) :=
  fields.filterMap fun e => r.change? e.1

/-- What is told of some fields that are to have the values. -/
def lines (colour : Bool) (r : Revision) (fields : List (Field × Text)) : Text :=
  fields.flatMap fun e =>
    e.1.settingLine colour e.2 ++ (r.change? e.1).elim [] (Field.changeLines colour)

/-- What is told when there is nothing to change. -/
def idleNotice (colour : Bool) (r : Revision) : Text :=
  if r.isNoop then '\n' :: Style.yellow.paint colour "No changes needed".toList ++ ['\n'] else []

end Revision

namespace Notice

variable (colour : Bool)

theorem renderAll_append (ns ms : List Notice) :
    renderAll colour (ns ++ ms) = renderAll colour ns ++ renderAll colour ms :=
  List.flatMap_append

theorem renderAll_singleton (n : Notice) : renderAll colour [n] = n.render colour :=
  List.flatMap_singleton ..

theorem renderAll_concat (ns : List Notice) (n : Notice) :
    renderAll colour (ns ++ [n]) = renderAll colour ns ++ n.render colour := by
  rw [renderAll_append, renderAll_singleton]

end Notice

theorem Revision.renderAll_idle (colour : Bool) (r : Revision) :
    Notice.renderAll colour (if r.isNoop then [.nothingToChange] else []) = r.idleNotice colour := by
  rw [idleNotice]
  cases r.isNoop with
  | false => rfl
  | true => exact Notice.renderAll_singleton colour .nothingToChange

namespace Edit

/-- The old value and the new one, if there is an old one. -/
def change? (e : Edit) : Option (Text × Text) := e.site?.map fun s => (s.value, e.value)

theorem renderAll_notices (colour : Bool) (e : Edit) : Notice.renderAll colour e.notices =
    e.field.settingLine colour e.value ++ e.change?.elim [] (Field.changeLines colour) := by
  rw [notices, change?, Notice.renderAll, List.flatMap_cons]
  cases e.site? with
  | none => rfl
  | some s => exact congrArg _ (Notice.renderAll_singleton colour (.replaced s.value e.value))

end Edit

namespace Stamp

variable (S : Stamp) {text : Text}

theorem change?_of_mem_edits {e : Edit} (he : e ∈ (S.revise text).edits) :
    (S.revise text).change? e.field = e.change? := by
  rw [Revision.change?, S.outcome?_of_mem_edits he, Edit.outcome, Edit.change?]
  cases e.site? <;> rfl

variable (text)

theorem entries_eq_map_edits :
    S.entries = (S.revise text).edits.map fun e => (e.field, e.value) :=
  (Revision.edits_ofEntries S.entries text).symm

theorem renderAll_edits (colour : Bool) :
    Notice.renderAll colour ((S.revise text).edits.flatMap Edit.notices) =
      (S.revise text).lines colour S.entries := by
  rw [Notice.renderAll, List.flatMap_assoc, S.entries_eq_map_edits text, Revision.lines,
    List.flatMap_map]
  refine List.flatMap_congr fun e he => ?_
  rw [S.change?_of_mem_edits he]
  exact e.renderAll_notices colour

theorem length_changes_revise : ((S.revise text).changes S.entries).length =
    (Field.all.filter (S.revise text).isFound).length := by
  have hchanges : (S.revise text).changes S.entries =
      (S.revise text).edits.filterMap Edit.change? := by
    rw [Revision.changes, S.entries_eq_map_edits text, List.filterMap_map]
    exact List.filterMap_congr fun e he => S.change?_of_mem_edits he
  rw [hchanges, ← S.length_changed_revise, Revision.changed, List.length_map,
    List.length_filterMap_eq_countP, ← List.countP_eq_length_filter]
  exact List.countP_congr fun e _ => by rw [Edit.change?, Option.isSome_map]

end Stamp

namespace Job

/-- What an update prints before it writes, or instead. -/
def firstLines (colour : Bool) (path : Text) (r : Revision) (fields : List (Field × Text)) : Text :=
  "Updating: ".toList ++ path ++ ['\n'] ++ r.lines colour fields ++ r.idleNotice colour

/-- What it prints in the end; one that could not write prints nothing more. -/
def endLines (colour : Bool) (job : Job) (matched : Nat) (result : Except Failure Unit) : Text :=
  match job.dryRun, result with
  | true, _ =>
    '\n' :: Style.boldYellow.paint colour "DRY RUN - No changes will be made".toList ++
      " (".toList ++ Text.ofNat matched ++ " declaration(s) matched)\n".toList
  | false, .ok _ =>
    Style.boldGreen.paint colour "✓ Successfully updated".toList ++ ' ' :: job.path ++ ['\n']
  | false, .error _ => []

section

variable (job : Job) (S : Stamp) (text : Text) (colour : Bool)

theorem stdout_accountOf : (job.accountOf S text).stdout colour =
    firstLines colour job.path (S.revise text) S.entries := by
  have hnotices : (job.accountOf S text).notices = [.updating job.path] ++
      ((S.revise text).edits.flatMap Edit.notices ++
        if (S.revise text).isNoop then [.nothingToChange] else []) := rfl
  rw [Account.stdout, hnotices, Notice.renderAll_append, Notice.renderAll_append,
    Notice.renderAll_singleton, S.renderAll_edits, Revision.renderAll_idle, ← List.append_assoc]
  rfl

theorem stdout_dry : ((job.accountOf S text).dry (S.revise text)).stdout colour =
    (job.accountOf S text).stdout colour ++
      Notice.render colour (.dryRun (S.revise text).changed.length) :=
  Notice.renderAll_concat ..

theorem stdout_written_ok (new : Text) :
    ((job.accountOf S text).written job.path new (.ok ())).stdout colour =
      (job.accountOf S text).stdout colour ++ Notice.render colour (.updated job.path) :=
  Notice.renderAll_concat ..

theorem stdout_written_error (new : Text) (cause : Cause) :
    ((job.accountOf S text).written job.path new (.error cause)).stdout colour =
      (job.accountOf S text).stdout colour :=
  congrArg (Notice.renderAll colour) (List.append_nil _)

end

variable {job : Job} {tree : Tree} (colour : Bool)

theorem stdout_of_objection {o : Objection} (h : Stamp.ofRequest job.request = .error o) :
    (job.runOn tree).1.stdout colour = [] := by
  rw [runOn_of_objection h]
  rfl

variable {S : Stamp} (hS : Stamp.ofRequest job.request = .ok S)
include hS

theorem stdout_of_unread {cause : Cause} (hr : tree.read job.path = .error cause) :
    (job.runOn tree).1.stdout colour = "Updating: ".toList ++ job.path ++ ['\n'] := by
  rw [runOn_of_unread hS hr]
  exact Notice.renderAll_singleton colour (.updating job.path)

/-- **All that an update of a text prints.** -/
theorem stdout_of_text {text : Text} (hr : tree.read job.path = .ok text) :
    (job.runOn tree).1.stdout colour =
      firstLines colour job.path (S.revise text) S.entries ++
        job.endLines colour ((S.revise text).changes S.entries).length
          (job.runOn tree).1.result := by
  have hcount : (S.revise text).changed.length = ((S.revise text).changes S.entries).length :=
    (S.length_changed_revise text).trans (S.length_changes_revise text).symm
  obtain ⟨request, path, dryRun⟩ := job
  cases dryRun with
  | true =>
    rw [runOn_of_dryRun hS hr rfl, stdout_dry, stdout_accountOf, hcount]
    rfl
  | false =>
    cases hw : tree.write path (S.revise text).text with
    | ok tree' =>
      rw [runOn_of_write hS hr rfl hw, stdout_written_ok, stdout_accountOf]
      rfl
    | error cause =>
      rw [runOn_of_unwritten hS hr rfl hw, stdout_written_error, stdout_accountOf]
      exact (List.append_nil _).symm

/-- **All that it prints on the error stream.** -/
theorem stderr_of_text {text : Text} (hr : tree.read job.path = .ok text) :
    (job.runOn tree).1.stderr colour = (S.revise text).notFound.flatMap
      (Field.warningLine colour ((Files.Path.fileName? job.path).getD job.path)) := by
  have hwarnings : (job.runOn tree).1.warnings = (S.revise text).warnings job.path := by
    rw [runOn_eq, hS]
    simp only [hr]
    split
    · rfl
    · split <;> rfl
  rw [Account.stderr, hwarnings, Revision.warnings, Notice.renderAll, List.flatMap_map]
  rfl

end Job
end ReleaseStamp
