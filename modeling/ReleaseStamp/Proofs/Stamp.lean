import ReleaseStamp.Stamp
import ReleaseStamp.Proofs.Value.Tag
import ReleaseStamp.Proofs.Declaration.Opening
/-!
# The values of a stamp

What the rules of the fields leave out matters more to a manifest than what they let pass: no value
that a field accepts has a quote or a blank in it (`Stamp.isBare_of_mem_entries`), so none can end
the string it is written into or begin a declaration.
-/
namespace ReleaseStamp

open Text (IsBare)
open Declaration (IsName)

namespace Checksum

theorem isBare_of_rejection? {value : Text} (h : rejection? value = none) : value.IsBare := by
  obtain ⟨-, hall⟩ := (rejection?_eq_none_iff value).1 h
  have hbare : Text.IsBare ('x' :: hexDigits) := by decide
  exact ⟨fun hq => hbare.quote_notMem (mem_of_forall_mem_digits hall hq),
    fun c hc => hbare.isBlank_eq_false c (mem_of_forall_mem_digits hall hc)⟩

end Checksum

namespace Tag

theorem isBare_of_rejection? {value : Text} (h : rejection? value = none) : value.IsBare := by
  obtain ⟨-, v, rfl⟩ := (rejection?_eq_none_iff value).1 h
  exact ⟨fun hq => (Version.plain_of_mem_render hq).2.1 rfl,
    fun c hc => (Version.plain_of_mem_render hc).2.2.1⟩

end Tag

theorem Field.isBare_of_rejection? : ∀ {f : Field} {value : Text},
    f.rejection? value = none → value.IsBare
  | .checksum, _, h => Checksum.isBare_of_rejection? h
  | .tag, _, h => Tag.isBare_of_rejection? h

theorem Field.isName_name (f : Field) : IsName f.name := by
  cases f <;> decide

/-- Of two fields the one that comes first is the checksum and the other one the tag. -/
theorem Field.eq_of_pair_sublist {f g : Field} (h : [f, g].Sublist all) :
    f = checksum ∧ g = tag := by
  revert h
  cases f <;> cases g <;> decide

theorem Request.map_fst_entries (r : Request) :
    r.entries.map Prod.fst = Field.all.filter fun f => (r.get? f).isSome := by
  rw [entries, List.map_filterMap, ← List.filterMap_eq_filter]
  congr 1
  funext f
  cases h : r.get? f <;> simp [Option.guard, h]

theorem Request.map_fst_entries_sublist (r : Request) :
    (r.entries.map Prod.fst).Sublist Field.all := by
  rw [r.map_fst_entries]
  exact List.filter_sublist

namespace Stamp

theorem isBare_of_mem_entries (s : Stamp) {f : Field} {value : Text} (h : (f, value) ∈ s.entries) :
    value.IsBare := Field.isBare_of_rejection? (s.rejection?_eq_none h)

end Stamp
end ReleaseStamp
