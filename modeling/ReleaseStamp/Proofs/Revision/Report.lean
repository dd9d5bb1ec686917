import ReleaseStamp.Proofs.Revision.Outcome
/-!
# What is reported of a revision

The report accounts for each field that was asked for, once and in the order of the fields, as
changed or as not found (`Stamp.accounts_revise`).
-/
namespace ReleaseStamp

namespace Revision

/-- The report accounts for the fields that the stamp asks for, and for no other. -/
structure Accounts (r : Revision) (S : Stamp) : Prop where
  fields_eq : r.outcomes.map Prod.fst = Field.all.filter fun f => (S.get? f).isSome
  nodup_fields : (r.outcomes.map Prod.fst).Nodup
  /-- The fields fall into those that were found and those that were not. -/
  changed_eq : r.changed = (r.outcomes.map Prod.fst).filter r.isFound
  notFound_eq : r.notFound = (r.outcomes.map Prod.fst).filter (!r.isFound ·)
  mem_changed_iff : ∀ f, f ∈ r.changed ↔ ∃ old new, r.outcome? f = some (.replaced old new)
  mem_notFound_iff : ∀ f, f ∈ r.notFound ↔ r.outcome? f = some .notFound
  outcome?_eq_some_iff : ∀ f o, r.outcome? f = some o ↔ (f, o) ∈ r.outcomes
  outcome?_eq_none_iff : ∀ f, r.outcome? f = none ↔ S.get? f = none

end Revision

namespace Stamp

variable (S : Stamp) (text : Text)

theorem changed_revise : (S.revise text).changed =
    ((S.revise text).outcomes.map Prod.fst).filter (S.revise text).isFound := by
  rw [Revision.changed, Revision.outcomes, List.map_map, List.filter_map]
  exact congrArg _ (List.filter_congr fun e he => (S.isFound_of_mem_edits he).symm)

theorem notFound_revise : (S.revise text).notFound =
    ((S.revise text).outcomes.map Prod.fst).filter (!(S.revise text).isFound ·) := by
  rw [Revision.notFound, Revision.outcomes, List.map_map, List.filter_map]
  refine congrArg _ (List.filter_congr fun e he => ?_)
  rw [Function.comp_apply, Function.comp_apply, S.isFound_of_mem_edits he, Option.not_isSome]

theorem outcome?_eq_none_iff (f : Field) :
    (S.revise text).outcome? f = none ↔ S.get? f = none := by
  have hasked : (∃ o, (S.revise text).outcome? f = some o) ↔ ∃ v, S.get? f = some v := by
    have hfields : f ∈ (S.revise text).outcomes.map Prod.fst ↔ f ∈ S.entries.map Prod.fst := by
      rw [S.map_fst_outcomes_revise]
    simpa [S.outcome?_eq_some_iff, entries, S.request.mem_entries_iff, get?] using hfields
  rw [Option.eq_none_iff_forall_ne_some, Option.eq_none_iff_forall_ne_some]
  simpa using not_congr hasked

/-- **The report of a revision accounts for all that was asked for.** -/
theorem accounts_revise : (S.revise text).Accounts S where
  fields_eq := (S.map_fst_outcomes_revise text).trans S.request.map_fst_entries
  nodup_fields := S.nodup_fst_outcomes_revise text
  changed_eq := S.changed_revise text
  notFound_eq := S.notFound_revise text
  mem_changed_iff f := by
    simp only [Revision.mem_changed_iff, S.outcome?_eq_some_iff]
  mem_notFound_iff f := by
    rw [Revision.mem_notFound_iff, S.outcome?_eq_some_iff]
  outcome?_eq_some_iff _ _ := S.outcome?_eq_some_iff
  outcome?_eq_none_iff := S.outcome?_eq_none_iff text

end Stamp
end ReleaseStamp
