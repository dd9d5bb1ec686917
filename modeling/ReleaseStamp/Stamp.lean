import ReleaseStamp.Field
import ReleaseStamp.Checksum
import ReleaseStamp.Tag.Basic
/-!
# Stamps

A request asks for new values of some fields; a stamp is a request that has been accepted.  That
each of its values obeys the rules of its field, and that it asks for something, is part of the
type, so whoever holds a stamp need not check again.  Accepting a request looks at the request
alone: no file is opened for a request that is refused.
-/
namespace ReleaseStamp

/-- The first rule that a value breaks as a value of the field. -/
def Field.rejection? : Field → Text → Option Rejection
  | .checksum => Checksum.rejection?
  | .tag => Tag.rejection?

/-- The new values asked for; an empty value is asked for like any other. -/
structure Request where
  checksum : Option Text
  tag : Option Text
  deriving DecidableEq

/-- Why a request is not accepted. -/
inductive Objection where
  | nothingRequested
  | rejected (field : Field) (value : Text) (reason : Rejection)
  deriving DecidableEq

def Objection.message : Objection → Text
  | .nothingRequested => "At least one of --checksum or --tag arguments must be provided.".toList
  | .rejected f v reason =>
    "Invalid ".toList ++ f.name ++ " '".toList ++ v ++ "': ".toList ++ reason.message

namespace Request

def get? (r : Request) : Field → Option Text
  | .checksum => r.checksum
  | .tag => r.tag

/-- The values asked for, in the order of the fields. -/
def entries (r : Request) : List (Field × Text) :=
  Field.all.filterMap fun f => (r.get? f).map (f, ·)

theorem mem_entries_iff (r : Request) (f : Field) (v : Text) :
    (f, v) ∈ r.entries ↔ r.get? f = some v := by
  simp only [entries, List.mem_filterMap, Option.map_eq_some_iff, Prod.mk.injEq]
  constructor
  · rintro ⟨g, -, w, h, rfl, rfl⟩; exact h
  · intro h; exact ⟨f, f.mem_all, v, h, rfl, rfl⟩

/-- The first entry that breaks a rule of its field. -/
def objection? (r : Request) : Option Objection :=
  if r.entries.isEmpty then some .nothingRequested
  else r.entries.findSome? fun (f, v) => (f.rejection? v).map (.rejected f v)

end Request

structure Stamp where
  request : Request
  accepted : request.objection? = none

namespace Stamp

def ofRequest (r : Request) : Except Objection Stamp :=
  match h : r.objection? with
  | some o => .error o
  | none => .ok ⟨r, h⟩

def get? (s : Stamp) (f : Field) : Option Text := s.request.get? f

def entries (s : Stamp) : List (Field × Text) := s.request.entries

def size (s : Stamp) : Nat := s.entries.length

def isEmpty (s : Stamp) : Bool := s.entries.isEmpty

theorem ofRequest_eq_ok_iff (r : Request) (s : Stamp) : ofRequest r = .ok s ↔ s.request = r := by
  unfold ofRequest
  split
  · rename_i o h
    constructor
    · intro h'; cases h'
    · rintro rfl; rw [s.accepted] at h; cases h
  · constructor
    · intro h; cases h; rfl
    · rintro rfl; rfl

theorem ofRequest_eq_error_iff (r : Request) (o : Objection) :
    ofRequest r = .error o ↔ r.objection? = some o := by
  unfold ofRequest
  split
  · rename_i o' h
    rw [h]
    simp
  · rename_i h
    constructor
    · intro h'; cases h'
    · intro h'; rw [h] at h'; cases h'

theorem rejection?_eq_none (s : Stamp) {f : Field} {v : Text} (h : (f, v) ∈ s.entries) :
    f.rejection? v = none := by
  have ha := s.accepted
  unfold Request.objection? at ha
  split at ha
  · cases ha
  · exact Option.map_eq_none_iff.1 (List.findSome?_eq_none_iff.1 ha (f, v) h)

theorem isEmpty_eq_false (s : Stamp) : s.isEmpty = false := by
  have ha := s.accepted
  unfold Request.objection? at ha
  split at ha
  · cases ha
  · rename_i h
    exact Bool.eq_false_iff.2 h

end Stamp
end ReleaseStamp
