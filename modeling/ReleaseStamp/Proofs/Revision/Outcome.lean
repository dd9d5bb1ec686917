import Mathlib.Data.List.Nodup
import ReleaseStamp.Revision
import ReleaseStamp.Proofs.Stamp
/-!
# The outcome of a field

A stamp asks for each field once, so what is reported of a field is the outcome of its one edit
(`Stamp.outcome?_eq_some_iff`), and there are as many changed fields as there are fields whose
declaration was found (`Stamp.length_changed_revise`).
-/
namespace ReleaseStamp

namespace Edit

theorem outcome_eq_replaced_iff (e : Edit) (old new : Text) :
    e.outcome = .replaced old new ↔ ∃ s, e.site? = some s ∧ s.value = old ∧ e.value = new := by
  rw [outcome]
  cases e.site? with
  | none => simp
  | some s => simp

theorem outcome_eq_notFound_iff (e : Edit) : e.outcome = .notFound ↔ e.site? = none := by
  rw [outcome]
  cases e.site? with
  | none => simp
  | some s => simp

end Edit

namespace Revision

/-- Whether the declaration of the field was looked for and found. -/
def isFound (r : Revision) (f : Field) : Bool :=
  match r.outcome? f with
  | some (.replaced _ _) => true
  | _ => false

theorem isFound_iff (r : Revision) (f : Field) :
    r.isFound f = true ↔ ∃ old new, r.outcome? f = some (.replaced old new) := by
  rw [isFound]
  split
  · next old new h => exact iff_of_true rfl ⟨old, new, h⟩
  · next hno =>
    refine iff_of_false Bool.false_ne_true ?_
    rintro ⟨old, new, h⟩
    exact hno old new h

theorem mem_changed_iff (r : Revision) (f : Field) :
    f ∈ r.changed ↔ ∃ old new, (f, .replaced old new) ∈ r.outcomes := by
  simp only [changed, outcomes, List.mem_map, List.mem_filter, Prod.mk.injEq,
    Edit.outcome_eq_replaced_iff]
  constructor
  · rintro ⟨e, ⟨he, hs⟩, rfl⟩
    obtain ⟨s, hs⟩ := Option.isSome_iff_exists.1 hs
    exact ⟨s.value, e.value, e, he, rfl, s, hs, rfl, rfl⟩
  · rintro ⟨old, new, e, he, rfl, s, hs, -, -⟩
    exact ⟨e, ⟨he, Option.isSome_of_eq_some hs⟩, rfl⟩

theorem mem_notFound_iff (r : Revision) (f : Field) :
    f ∈ r.notFound ↔ (f, .notFound) ∈ r.outcomes := by
  simp only [notFound, outcomes, List.mem_map, List.mem_filter, Prod.mk.injEq,
    Edit.outcome_eq_notFound_iff, Option.isNone_iff_eq_none]
  exact exists_congr fun e => by rw [and_assoc, and_comm (a := e.site? = none)]

end Revision

namespace Stamp

variable (S : Stamp) (text : Text)

theorem map_fst_outcomes_revise :
    (S.revise text).outcomes.map Prod.fst = S.entries.map Prod.fst := by
  rw [← Revision.edits_ofEntries S.entries text, Revision.outcomes, List.map_map, List.map_map]
  rfl

theorem nodup_fst_outcomes_revise : ((S.revise text).outcomes.map Prod.fst).Nodup := by
  rw [S.map_fst_outcomes_revise]
  exact Field.all_nodup.sublist S.request.map_fst_entries_sublist

variable {text} {f : Field} {o : Outcome}

theorem find?_of_mem_edits {e : Edit} (he : e ∈ (S.revise text).edits) :
    (S.revise text).edits.find? (·.field == e.field) = some e := by
  have hnd := S.nodup_fst_outcomes_revise text
  rw [Revision.outcomes, List.map_map] at hnd
  have hsome : ((S.revise text).edits.find? (·.field == e.field)).isSome = true :=
    List.find?_isSome.2 ⟨e, he, beq_self_eq_true e.field⟩
  obtain ⟨e', hfind⟩ := Option.isSome_iff_exists.1 hsome
  have hfield : e'.field = e.field := by simpa using List.find?_some hfind
  rwa [List.inj_on_of_nodup_map hnd (List.mem_of_find?_eq_some hfind) he hfield] at hfind

theorem outcome?_of_mem_edits {e : Edit} (he : e ∈ (S.revise text).edits) :
    (S.revise text).outcome? e.field = some e.outcome := by
  rw [Revision.outcome?, S.find?_of_mem_edits he]
  rfl

theorem outcome?_eq_some_iff :
    (S.revise text).outcome? f = some o ↔ (f, o) ∈ (S.revise text).outcomes := by
  rw [Revision.outcomes, List.mem_map]
  constructor
  · intro h
    obtain ⟨e, he, rfl⟩ := Option.map_eq_some_iff.1 h
    have hfield : e.field = f := by simpa using List.find?_some he
    exact ⟨e, List.mem_of_find?_eq_some he, by rw [hfield]⟩
  · rintro ⟨e, he, heq⟩
    obtain ⟨rfl, rfl⟩ := Prod.mk.inj heq
    exact S.outcome?_of_mem_edits he

theorem isFound_of_mem_edits {e : Edit} (he : e ∈ (S.revise text).edits) :
    (S.revise text).isFound e.field = e.site?.isSome := by
  rw [Revision.isFound, S.outcome?_of_mem_edits he, Edit.outcome]
  cases e.site? <;> rfl

variable (text)

theorem length_changed_revise :
    (S.revise text).changed.length = (Field.all.filter (S.revise text).isFound).length := by
  have hfields : (S.revise text).changed.Nodup := by
    have h := S.nodup_fst_outcomes_revise text
    rw [Revision.outcomes, List.map_map] at h
    exact h.sublist (List.filter_sublist.map Edit.field)
  refine ((List.perm_ext_iff_of_nodup hfields (Field.all_nodup.filter _)).2 fun f => ?_).length_eq
  simp only [Revision.mem_changed_iff, List.mem_filter, Revision.isFound_iff,
    S.outcome?_eq_some_iff, f.mem_all, true_and]

end Stamp
end ReleaseStamp
