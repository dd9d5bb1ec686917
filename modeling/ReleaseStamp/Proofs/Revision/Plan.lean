import ReleaseStamp.Revision
import ReleaseStamp.Proofs.Stamp
import ReleaseStamp.Proofs.Revision.Carry
/-!
# Revisions planned ahead

A revision searches for each field in the text that the fields before it left.  The same edits can
be planned on the text as it was: a field is given the first declaration whose keyword no write
before it buries.  `Pending` is what holds between two edits; from it a revision is its plan,
written all at once (`Stamp.text_revise`, `Stamp.outcomes_revise`).
-/
namespace ReleaseStamp

open Declaration (IsAt findOutside)
open Write (Fit textAfter carry)

namespace Edit

def write? (e : Edit) : Option Write := e.site?.map fun s => ⟨s, e.value⟩

/-- The edit of a field when the writes have buried what lies in the values they go to. -/
def planned (text : Text) (ws : List Write) (field : Field) (value : Text) : Edit :=
  ⟨field, value, findOutside (ws.map Write.site) field.name text⟩

/-- The edits of the entries, of which each finds the writes of those before it. -/
def planFrom (text : Text) : List Write → List (Field × Text) → List Edit
  | _, [] => []
  | ws, (field, value) :: entries =>
    let e := planned text ws field value
    e :: planFrom text (ws ++ e.write?.toList) entries

theorem filterMap_write?_cons (e : Edit) (es : List Edit) :
    (e :: es).filterMap write? = e.write?.toList ++ es.filterMap write? := by
  rw [List.filterMap_cons]
  cases e.write? <;> rfl

end Edit

namespace Stamp

/-- What the stamp does to a text, all of it read off the text as it is. -/
def plan (S : Stamp) (text : Text) : List Edit := Edit.planFrom text [] S.entries

def writes (S : Stamp) (text : Text) : List Write := (S.plan text).filterMap Edit.write?

end Stamp

theorem Declaration.of_findOutside {values : List Site} {name text : Text} {s : Site}
    (h : findOutside values name text = some s) :
    s.text = text ∧ IsAt name s ∧ s.isOutside values = true := by
  have hmem := List.mem_of_find?_eq_some h
  obtain ⟨ht, hat⟩ := (mem_all_iff name text s).1 hmem
  exact ⟨ht, hat, List.find?_some h⟩

/-- Between two edits: the writes so far have been made, and these entries are still to come. -/
structure Pending (text : Text) (ws : List Write) (entries : List (Field × Text)) : Prop where
  fit : Fit text ws
  nodup_index : (ws.map (·.site.index)).Nodup
  isBare : ∀ e ∈ entries, e.2.IsBare
  nodup_fields : (entries.map Prod.fst).Nodup
  /-- No write went to a field that is still to come. -/
  not_isAt : ∀ e ∈ entries, ∀ w ∈ ws, ¬ IsAt e.1.name w.site

namespace Pending

variable {text : Text} {ws : List Write} {field : Field} {value : Text}
  {entries : List (Field × Text)}

theorem tail (h : Pending text ws ((field, value) :: entries)) : Pending text ws entries where
  fit := h.fit
  nodup_index := h.nodup_index
  isBare := fun e he => h.isBare e (List.mem_cons_of_mem _ he)
  nodup_fields := (List.nodup_cons.1 h.nodup_fields).2
  not_isAt := fun e he => h.not_isAt e (List.mem_cons_of_mem _ he)

section Found

variable {s : Site} (h : Pending text ws ((field, value) :: entries)) (ht : s.text = text)
  (hs : IsAt field.name s)
include h ht hs

theorem index_ne : ∀ w ∈ ws, w.site.index ≠ s.index := by
  intro w hw hi
  obtain ⟨htw, name, hn, hat⟩ := h.fit.isAt w hw
  obtain ⟨-, rfl⟩ := hat.eq_of_index_eq hs (htw.trans ht.symm) hn field.isName_name hi
  exact h.not_isAt (field, value) List.mem_cons_self w hw hs

theorem valueAfter_eq : Write.valueAfter ws s = s.value :=
  Write.valueAfter_of_forall_ne fun w hw he => h.index_ne ht hs w hw (by rw [he])

theorem put : Pending text (ws ++ [⟨s, value⟩]) entries where
  fit := by
    refine ⟨fun w hw => ?_, fun w hw => ?_⟩
    · rcases List.mem_append.1 hw with hw | hw
      · exact h.fit.isAt w hw
      · rw [List.mem_singleton.1 hw]
        exact ⟨ht, field.name, field.isName_name, hs⟩
    · rcases List.mem_append.1 hw with hw | hw
      · exact h.fit.isBare w hw
      · rw [List.mem_singleton.1 hw]
        exact h.isBare (field, value) List.mem_cons_self
  nodup_index := by
    rw [List.map_append, List.nodup_append]
    refine ⟨h.nodup_index, List.pairwise_singleton _ _, fun i hi j hj => ?_⟩
    obtain ⟨w, hw, rfl⟩ := List.mem_map.1 hi
    rw [List.map_singleton, List.mem_singleton] at hj
    rw [hj]
    exact h.index_ne ht hs w hw
  isBare := h.tail.isBare
  nodup_fields := h.tail.nodup_fields
  not_isAt := by
    intro e he w hw
    rcases List.mem_append.1 hw with hw | hw
    · exact h.tail.not_isAt e he w hw
    · rw [List.mem_singleton.1 hw]
      -- two names that share a declaration are one, and no field comes twice
      intro hat
      obtain ⟨hname, -⟩ :=
        hat.eq_of_index_eq hs rfl e.1.isName_name field.isName_name rfl
      have hnew := (List.nodup_cons.1 h.nodup_fields).1
      rw [← Field.name_inj _ _ hname] at hnew
      exact hnew (List.mem_map.2 ⟨e, he, rfl⟩)

theorem pieceAfter_append (i : Nat) (piece : Text) :
    Write.pieceAfter (ws ++ [⟨s, value⟩]) i piece =
      if s.index + 1 = i then value else Write.pieceAfter ws i piece := by
  rw [Write.pieceAfter, List.find?_append, List.find?_singleton]
  by_cases hi : s.index + 1 = i
  · have hf : ws.find? (·.site.index + 1 == i) = none := List.find?_eq_none.2 fun w hw he => by
      rw [beq_iff_eq] at he
      exact h.index_ne ht hs w hw (by omega)
    rw [hf]
    simp [hi]
  · simp [hi, Write.pieceAfter]

end Found

/-- **What one edit does**: it is the planned one, carried by the writes so far. -/
theorem edit_of (h : Pending text ws ((field, value) :: entries)) :
    (Edit.of (textAfter ws text) field value).site? =
      (Edit.planned text ws field value).site?.map (carry ws) :=
  h.fit.find_textAfter field.isName_name

theorem outcome_of (h : Pending text ws ((field, value) :: entries)) :
    (Edit.of (textAfter ws text) field value).outcome =
      (Edit.planned text ws field value).outcome := by
  have hsite := h.edit_of
  rw [Edit.outcome, Edit.outcome, hsite]
  cases hp : (Edit.planned text ws field value).site? with
  | none => rfl
  | some s =>
    obtain ⟨ht, hs, -⟩ := Declaration.of_findOutside hp
    have hv := (h.fit.value_carry field.isName_name ht hs).trans (h.valueAfter_eq ht hs)
    simp only [Option.map_some, hv]
    rfl

/-- The text after an edit is the text with one write more, and the rest can go on from there. -/
theorem step (h : Pending text ws ((field, value) :: entries)) :
    let ws' := ws ++ (Edit.planned text ws field value).write?.toList
    Pending text ws' entries ∧
      (Edit.of (textAfter ws text) field value).result (textAfter ws text) =
        textAfter ws' text := by
  have hsite := h.edit_of
  rw [Edit.result, hsite, Edit.write?]
  cases hp : (Edit.planned text ws field value).site? with
  | none =>
    rw [Option.map_none, Option.map_none, Option.toList_none, List.append_nil]
    exact ⟨h.tail, rfl⟩
  | some s =>
    obtain ⟨ht, hs, ho⟩ := Declaration.of_findOutside hp
    have hq := field.isName_name.quote_notMem
    exact ⟨h.put ht hs, (h.put ht hs).fit.text_withValue_carry hq ht hs
      ((h.fit.isOutside_iff hq ht hs).1 ho) (h.pieceAfter_append ht hs)⟩

/-- **What all edits do.** -/
theorem run : ∀ {entries : List (Field × Text)} {ws : List Write}, Pending text ws entries →
    let plan := Edit.planFrom text ws entries
    let ws' := ws ++ plan.filterMap Edit.write?
    let r := Revision.ofEntries (textAfter ws text) entries
    Pending text ws' [] ∧ r.text = textAfter ws' text ∧
      r.outcomes = plan.map fun e => (e.field, e.outcome)
  | [], ws, h => by
    simp only [Edit.planFrom, List.filterMap_nil, List.append_nil]
    exact ⟨h, rfl, rfl⟩
  | (field, value) :: entries, ws, h => by
    obtain ⟨hnext, hresult⟩ := h.step
    have hout := h.outcome_of
    obtain ⟨hend, htext, houts⟩ := hnext.run
    rw [← hresult] at htext houts
    rw [List.append_assoc, ← Edit.filterMap_write?_cons] at hend htext
    refine ⟨hend, htext, ?_⟩
    rw [Edit.planFrom, List.map_cons, ← houts, ← hout]
    rfl

end Pending

theorem Edit.map_planFrom (text : Text) : ∀ (ws : List Write) (entries : List (Field × Text)),
    (planFrom text ws entries).map (fun e => (e.field, e.value)) = entries
  | _, [] => rfl
  | ws, (field, value) :: entries => by
    rw [planFrom, List.map_cons, map_planFrom text _ entries]
    rfl

theorem Edit.site?_of_planFrom {text : Text} {e : Edit} {after : List Edit} :
    ∀ {before : List Edit} {entries : List (Field × Text)} {ws : List Write},
      planFrom text ws entries = before ++ e :: after →
        e.site? = findOutside ((ws ++ before.filterMap write?).map Write.site) e.field.name text
  | [], (field, value) :: entries, ws, h => by
    obtain ⟨rfl, -⟩ := List.cons.inj h
    rw [List.filterMap_nil, List.append_nil]
    rfl
  | e' :: before, (field, value) :: entries, ws, h => by
    obtain ⟨rfl, hrest⟩ := List.cons.inj h
    rw [filterMap_write?_cons, ← List.append_assoc]
    exact site?_of_planFrom hrest

namespace Stamp

theorem pending (S : Stamp) (text : Text) : Pending text [] S.entries where
  fit := .nil text
  nodup_index := List.nodup_nil
  isBare := fun _ h => S.isBare_of_mem_entries h
  nodup_fields := Field.all_nodup.sublist S.request.map_fst_entries_sublist
  not_isAt := fun _ _ _ h => absurd h List.not_mem_nil

/-- **A revision writes what was planned.** -/
theorem text_revise (S : Stamp) (text : Text) :
    (S.revise text).text = textAfter (S.writes text) text := by
  have := (S.pending text).run.2.1
  rwa [Write.textAfter_nil] at this

theorem outcomes_revise (S : Stamp) (text : Text) :
    (S.revise text).outcomes = (S.plan text).map fun e => (e.field, e.outcome) := by
  have := (S.pending text).run.2.2
  rwa [Write.textAfter_nil] at this

theorem exists_append_of_mem_plan {S : Stamp} {text : Text} {e : Edit} (h : e ∈ S.plan text) :
    ∃ before after, S.plan text = before ++ e :: after ∧
      e.site? = findOutside ((before.filterMap Edit.write?).map Write.site) e.field.name text := by
  obtain ⟨before, after, hplan⟩ := List.append_of_mem h
  exact ⟨before, after, hplan, Edit.site?_of_planFrom hplan⟩

theorem isAt_of_mem_plan {S : Stamp} {text : Text} {e : Edit} (h : e ∈ S.plan text) {s : Site}
    (hs : e.site? = some s) : s.text = text ∧ IsAt e.field.name s := by
  obtain ⟨before, -, -, hsite⟩ := exists_append_of_mem_plan h
  obtain ⟨ht, hat, -⟩ := Declaration.of_findOutside (hsite.symm.trans hs)
  exact ⟨ht, hat⟩

theorem mem_writes_iff (S : Stamp) (text : Text) (w : Write) :
    w ∈ S.writes text ↔ ∃ e ∈ S.plan text, e.site? = some w.site ∧ e.value = w.value := by
  rw [writes, List.mem_filterMap]
  refine exists_congr fun e => and_congr_right fun _ => ?_
  rw [Edit.write?, Option.map_eq_some_iff]
  constructor
  · rintro ⟨s, hs, rfl⟩
    exact ⟨hs, rfl⟩
  · rintro ⟨hs, hv⟩
    exact ⟨w.site, hs, by rw [hv]⟩

theorem map_plan (S : Stamp) (text : Text) :
    (S.plan text).map (fun e => (e.field, e.value)) = S.entries :=
  Edit.map_planFrom text [] S.entries

theorem fit_writes (S : Stamp) (text : Text) : Fit text (S.writes text) :=
  (S.pending text).run.1.fit

theorem nodup_index_writes (S : Stamp) (text : Text) :
    ((S.writes text).map (·.site.index)).Nodup := (S.pending text).run.1.nodup_index

end Stamp
end ReleaseStamp
