import ReleaseStamp.Event
import ReleaseStamp.Declaration.Search
/-!
# Revisions

A stamp is put into a text one field after another, each in the text that the one before it left.
Only the first declaration of a field is given the new value, and a field without a declaration is
passed by.  A revision is the text that results, with one edit for each entry of the stamp; what is
reported and journalled of it is read off the edits.
-/
namespace ReleaseStamp

/-- What became of a requested value. -/
inductive Outcome where
  | replaced (old new : Text)
  | notFound
  deriving DecidableEq

/-- A requested value, and the declaration found for it in the text as it then was. -/
structure Edit where
  field : Field
  value : Text
  site? : Option Site
  deriving DecidableEq

namespace Edit

def outcome (e : Edit) : Outcome :=
  match e.site? with
  | some s => .replaced s.value e.value
  | none => .notFound

/-- Whether the edit leaves the text as it is. -/
def isIdle (e : Edit) : Bool :=
  match e.site? with
  | some s => s.value == e.value
  | none => true

def events (e : Edit) : List Event :=
  [.searching e.field.name,
    match e.site? with
    | some s => .found e.field s.start s.stop s.value
    | none => .notDeclared e.field]

def of (text : Text) (field : Field) (value : Text) : Edit :=
  ⟨field, value, Declaration.find field.name text⟩

def result (e : Edit) (text : Text) : Text :=
  match e.site? with
  | some s => (s.withValue e.value).text
  | none => text

end Edit

structure Revision where
  text : Text
  edits : List Edit
  deriving DecidableEq

namespace Revision

def ofEntries : Text → List (Field × Text) → Revision
  | text, [] => ⟨text, []⟩
  | text, (field, value) :: entries =>
    let edit := Edit.of text field value
    let after := ofEntries (edit.result text) entries
    { after with edits := edit :: after.edits }

def outcomes (r : Revision) : List (Field × Outcome) := r.edits.map fun e => (e.field, e.outcome)

def outcome? (r : Revision) (f : Field) : Option Outcome :=
  (r.edits.find? (·.field == f)).map Edit.outcome

/-- The fields that were declared. -/
def changed (r : Revision) : List Field := (r.edits.filter (·.site?.isSome)).map Edit.field

/-- The fields that were not. -/
def notFound (r : Revision) : List Field := (r.edits.filter (·.site?.isNone)).map Edit.field

def isNoop (r : Revision) : Bool := r.edits.all Edit.isIdle

def events (r : Revision) : List Event := r.edits.flatMap Edit.events

theorem edits_ofEntries : ∀ (entries : List (Field × Text)) (text : Text),
    (ofEntries text entries).edits.map (fun e => (e.field, e.value)) = entries
  | [], _ => rfl
  | (f, v) :: entries, text => by
    simp only [ofEntries, List.map_cons, edits_ofEntries entries]
    rfl

end Revision

/-- The text with the values of the stamp in it. -/
def Stamp.revise (s : Stamp) (text : Text) : Revision := Revision.ofEntries text s.entries

end ReleaseStamp
