import Mathlib.Logic.Basic
import ReleaseStamp.Event
import ReleaseStamp.Proofs.Stamp
/-!
# What requests are accepted

A request is refused for asking nothing, or for the first of its values that breaks a rule of its
field; a field that is not asked for, or whose value breaks none, passes (`Request.Passes`).  Where
all fields pass the stamp holds what was asked for and nothing else (`Stamp.Holds`), so no stamp is
empty and no value of one breaks a rule.
-/
namespace ReleaseStamp

namespace Request

/-- The field is not asked for, or its value breaks no rule. -/
def Passes (r : Request) (f : Field) : Prop := ∀ v, r.get? f = some v → f.rejection? v = none

/-- What there is to object to the value of a field. -/
def rejected? (r : Request) (f : Field) : Option Objection :=
  (r.get? f).bind fun v => (f.rejection? v).map (.rejected f v)

section

variable (r : Request)

theorem rejected?_eq_some_iff (f g : Field) (v : Text) (reason : Rejection) :
    r.rejected? f = some (.rejected g v reason) ↔
      f = g ∧ r.get? f = some v ∧ f.rejection? v = some reason := by
  rw [rejected?, Option.bind_eq_some_iff]
  constructor
  · rintro ⟨w, hw, h⟩
    obtain ⟨x, hx, h⟩ := Option.map_eq_some_iff.1 h
    cases h
    exact ⟨rfl, hw, hx⟩
  · rintro ⟨rfl, hv, hx⟩
    exact ⟨v, hv, by rw [hx]; rfl⟩

theorem rejected?_ne_nothingRequested (f : Field) : r.rejected? f ≠ some .nothingRequested := by
  rw [rejected?]
  intro h
  obtain ⟨v, -, h⟩ := Option.bind_eq_some_iff.1 h
  obtain ⟨reason, -, h⟩ := Option.map_eq_some_iff.1 h
  cases h

theorem rejected?_eq_none_iff (f : Field) : r.rejected? f = none ↔ r.Passes f := by
  simp [rejected?, Passes, Option.bind_eq_none_iff]

theorem entries_eq : r.entries =
    (r.checksum.map (Field.checksum, ·)).toList ++ (r.tag.map (Field.tag, ·)).toList := by
  obtain ⟨c, t⟩ := r
  cases c <;> cases t <;> rfl

theorem entries_eq_nil_iff : r.entries = [] ↔ r.checksum = none ∧ r.tag = none := by
  simp [entries_eq]

theorem lookup_entries : ∀ f : Field, r.entries.lookup f = r.get? f := by
  obtain ⟨c, t⟩ := r
  cases c <;> cases t <;> rintro (_ | _) <;> rfl

theorem findSome?_toList_map {β : Type} (o : Option Text) (f : Field) (g : Field × Text → Option β) :
    (o.map (f, ·)).toList.findSome? g = o.bind fun v => g (f, v) := by
  cases o <;> simp

theorem findSome?_entries {β : Type} (g : Field × Text → Option β) : r.entries.findSome? g =
    (r.checksum.bind fun v => g (.checksum, v)).or (r.tag.bind fun v => g (.tag, v)) := by
  rw [entries_eq, List.findSome?_append, findSome?_toList_map, findSome?_toList_map]

theorem objection?_eq : r.objection? =
    if r.checksum = none ∧ r.tag = none then some .nothingRequested
    else (r.rejected? .checksum).or (r.rejected? .tag) := by
  simp only [objection?, List.isEmpty_iff, entries_eq_nil_iff]
  split
  · rfl
  · exact r.findSome?_entries _

theorem passes_before_checksum (g : Field) (hg : [g, Field.checksum].Sublist Field.all) :
    r.Passes g :=
  nomatch (Field.eq_of_pair_sublist hg).2

theorem passes_before_tag_iff :
    (∀ g, [g, Field.tag].Sublist Field.all → r.Passes g) ↔ r.Passes .checksum := by
  refine ⟨fun h => h .checksum (by decide), fun h g hg => ?_⟩
  rw [(Field.eq_of_pair_sublist hg).1]
  exact h

/-- **The first value that breaks a rule of its field is objected to**, and none before it does. -/
theorem objection?_eq_rejected_iff (f : Field) (v : Text) (reason : Rejection) :
    r.objection? = some (.rejected f v reason) ↔
      r.get? f = some v ∧ f.rejection? v = some reason ∧
        ∀ g, [g, f].Sublist Field.all → r.Passes g := by
  rw [objection?_eq]
  split
  · rename_i h
    have hf : r.get? f = none := by
      cases f with
      | checksum => exact h.1
      | tag => exact h.2
    simp [hf]
  · rw [Option.or_eq_some_iff, rejected?_eq_some_iff, rejected?_eq_some_iff, rejected?_eq_none_iff]
    cases f with
    | checksum => simpa using fun _ _ => r.passes_before_checksum
    | tag =>
      simp only [passes_before_tag_iff, reduceCtorEq, false_and, false_or, true_and]
      exact and_rotate

theorem objection?_eq_nothingRequested_iff :
    r.objection? = some .nothingRequested ↔ r.checksum = none ∧ r.tag = none := by
  rw [objection?_eq]
  split
  · rename_i h
    exact iff_of_true rfl h
  · rename_i h
    refine iff_of_false (fun hn => ?_) h
    rcases Option.or_eq_some_iff.1 hn with hn | ⟨-, hn⟩
    · exact r.rejected?_ne_nothingRequested _ hn
    · exact r.rejected?_ne_nothingRequested _ hn

theorem objection?_eq_none_iff : r.objection? = none ↔
    ¬ (r.checksum = none ∧ r.tag = none) ∧ r.Passes .checksum ∧ r.Passes .tag := by
  rw [objection?_eq]
  split
  · rename_i h
    exact iff_of_false nofun fun hn => hn.1 h
  · rename_i h
    rw [Option.or_eq_none_iff, rejected?_eq_none_iff, rejected?_eq_none_iff, and_iff_right h]

theorem events_of_rejected {f : Field} {v : Text} {reason : Rejection}
    (h : r.objection? = some (.rejected f v reason)) : r.events = [.rejected f v reason] := by
  rw [events, h]

theorem events_of_not_rejected (h : ∀ f v reason, r.objection? ≠ some (.rejected f v reason)) :
    r.events = [] := by
  unfold events
  split
  · rename_i f v reason ho
    exact absurd ho (h f v reason)
  · rfl

end

end Request

namespace Stamp

/-- What a stamp has of the request that it was made from. -/
structure Holds (s : Stamp) (r : Request) : Prop where
  entries_eq : s.entries =
    (r.checksum.map (Field.checksum, ·)).toList ++ (r.tag.map (Field.tag, ·)).toList
  in_order : (s.entries.map Prod.fst).Sublist Field.all
  size_pos : 1 ≤ s.size
  isEmpty_eq : s.isEmpty = false
  get?_eq : ∀ f, s.get? f = r.get? f
  lookup_eq : ∀ f, s.entries.lookup f = r.get? f
  rejection?_eq : ∀ f v, (f, v) ∈ s.entries → f.rejection? v = none

theorem holds (s : Stamp) : s.Holds s.request where
  entries_eq := s.request.entries_eq
  in_order := s.request.map_fst_entries_sublist
  size_pos := List.length_pos_iff.2 (List.isEmpty_eq_false_iff.1 s.isEmpty_eq_false)
  isEmpty_eq := s.isEmpty_eq_false
  get?_eq _ := rfl
  lookup_eq := s.request.lookup_entries
  rejection?_eq _ _ := s.rejection?_eq_none

theorem exists_ofRequest_eq_ok_iff (r : Request) :
    (∃ s, ofRequest r = .ok s) ↔ r.objection? = none := by
  constructor
  · rintro ⟨s, h⟩
    rw [← (ofRequest_eq_ok_iff r s).1 h]
    exact s.accepted
  · intro h
    exact ⟨⟨r, h⟩, (ofRequest_eq_ok_iff r _).2 rfl⟩

/-- **What requests are accepted, and how the others are refused.**  Nothing is requested if no value
is; else the checksum is told if it is rejected, and the tag if it is and the checksum is not.  Where
neither is rejected there is a stamp, and it holds the values as they were asked for.  Nothing but a
rejection is journalled. -/
theorem accepts_or_refuses (r : Request) :
    (ofRequest r = .error .nothingRequested ↔ r.checksum = none ∧ r.tag = none) ∧
    (∀ c reason, ofRequest r = .error (.rejected .checksum c reason) ↔
      r.checksum = some c ∧ Checksum.rejection? c = some reason) ∧
    (∀ t reason, ofRequest r = .error (.rejected .tag t reason) ↔
      r.tag = some t ∧ Tag.rejection? t = some reason ∧
        ∀ c, r.checksum = some c → Checksum.rejection? c = none) ∧
    ((∃ s, ofRequest r = .ok s) ↔ ¬ (r.checksum = none ∧ r.tag = none) ∧
      (∀ c, r.checksum = some c → Checksum.rejection? c = none) ∧
        ∀ t, r.tag = some t → Tag.rejection? t = none) ∧
    (∀ s, ofRequest r = .ok s → s.Holds r) ∧
    (∀ f v reason, ofRequest r = .error (.rejected f v reason) →
      r.events = [.rejected f v reason]) ∧
    ((∀ f v reason, ofRequest r ≠ .error (.rejected f v reason)) → r.events = []) := by
  simp only [exists_ofRequest_eq_ok_iff, ofRequest_eq_error_iff, ne_eq]
  refine ⟨r.objection?_eq_nothingRequested_iff, fun c reason => ?_, fun t reason => ?_, ?_, ?_,
    fun _ _ _ => r.events_of_rejected, r.events_of_not_rejected⟩
  · rw [r.objection?_eq_rejected_iff, and_iff_left r.passes_before_checksum]
    rfl
  · rw [r.objection?_eq_rejected_iff, r.passes_before_tag_iff]
    rfl
  · rw [r.objection?_eq_none_iff]
    rfl
  · intro s h
    rw [← (ofRequest_eq_ok_iff r s).1 h]
    exact s.holds

/-- An empty value is asked for like any other. -/
example : Request.objection? ⟨some [], some "1.2".toList⟩ =
    some (.rejected .checksum [] .notAlphanumeric) := by
  decide

end Stamp
end ReleaseStamp
