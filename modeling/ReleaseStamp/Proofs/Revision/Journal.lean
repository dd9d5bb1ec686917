import ReleaseStamp.Proofs.Revision.Overlap
/-!
# Where the journal finds the fields

The journal tells where each field was found, in bytes of the text as it then was.  The writes made
before may have moved its value, by as much as the text before it has grown
(`Write.Fit.start_carry`).  So the first field is found at its place in the text as it was at first,
and the tag at its place in that text or moved by the growth of the checksum, by whether the
checksum lies behind it or before (`Stamp.journal_revise`).
-/
namespace ReleaseStamp

open Declaration (IsAt)
open Text (byteLength)
open Write (Fit textAfter carry shift growth)

/-! ## One declaration -/

namespace Write

theorem shift_singleton (w : Write) (pos : Nat) :
    shift [w] pos = if w.site.stop ≤ pos then w.growth else 0 := by
  rw [shift, List.filter_singleton]
  by_cases h : w.site.stop ≤ pos
  · simp [h]
  · simp [h]

/-- **How far a value moves** that is not itself written to. -/
theorem Fit.start_carry {text name : Text} {ws : List Write} {s : Site} (h : Fit text ws)
    (hnd : (ws.map (·.site.index)).Nodup) (hq : '"' ∉ name) (ht : s.text = text)
    (hs : IsAt name s) (ho : ∀ w ∈ ws, w.site.index + 1 ≠ s.index)
    (hne : ∀ w ∈ ws, w.site.index ≠ s.index) :
    ((carry ws s).start : Int) = s.start + shift ws s.start := by
  obtain ⟨htext, hat, hindex⟩ := h.isAt_carry hq ht hs ho
  obtain ⟨hlt, -, -⟩ := hs.opens hq
  have hbefore : ws.filter (fun w => decide (w.site.stop ≤ s.start)) =
      ws.filter fun w => decide (w.site.index + 1 < s.index + 1) := by
    refine List.filter_congr fun w hw => ?_
    obtain ⟨htw, name', hn', hat'⟩ := h.isAt w hw
    rw [decide_eq_decide, hat'.stop_le_start_iff hs (htw.trans ht.symm) hn'.quote_notMem hq
      (hne w hw), Nat.succ_lt_succ_iff]
  rw [ht] at hlt
  have hmoved := h.pieceStart_piecesAfter hnd (i := s.index + 1) (by omega)
  rw [hat.start_eq hq, htext, hindex, h.pieces_textAfter, hmoved, shift, hbefore, hs.start_eq hq,
    ht]

end Write

/-! ## The edits of a revision -/

namespace Edit

/-- The edit as it is made when the writes have moved its declaration. -/
def carried (ws : List Write) (e : Edit) : Edit := { e with site? := e.site?.map (carry ws) }

/-- Planned edits as they are made, one after another. -/
def carriedFrom : List Write → List Edit → List Edit
  | _, [] => []
  | ws, e :: es => e.carried ws :: carriedFrom (ws ++ e.write?.toList) es

theorem carried_mem_carriedFrom (e : Edit) (after : List Edit) :
    ∀ (before : List Edit) (ws : List Write),
      e.carried (ws ++ before.filterMap write?) ∈ carriedFrom ws (before ++ e :: after)
  | [], ws => by
    rw [List.filterMap_nil, List.append_nil]
    exact List.mem_cons_self
  | e' :: before, ws => by
    rw [filterMap_write?_cons, ← List.append_assoc]
    exact List.mem_cons_of_mem _ (carried_mem_carriedFrom e after before _)

end Edit

theorem Pending.edits_ofEntries {text : Text} :
    ∀ {entries : List (Field × Text)} {ws : List Write}, Pending text ws entries →
      (Revision.ofEntries (textAfter ws text) entries).edits =
        Edit.carriedFrom ws (Edit.planFrom text ws entries)
  | [], _, _ => rfl
  | (field, value) :: entries, ws, h => by
    obtain ⟨hnext, hresult⟩ := h.step
    have hedit : Edit.of (textAfter ws text) field value =
        (Edit.planned text ws field value).carried ws := by
      rw [Edit.carried, ← h.edit_of]
      rfl
    have hrest := hnext.edits_ofEntries
    rw [← hresult] at hrest
    rw [Edit.planFrom, Edit.carriedFrom, ← hrest, ← hedit]
    rfl

/-! ## The journal -/

/-- The byte at which the declaration of a field was found to have its value, in the text as it then
was. -/
def Revision.foundAt (r : Revision) (f : Field) : Nat :=
  ((r.edits.find? (·.field == f)).bind Edit.site?).elim 0 Site.start

/-- What the journal says of a field by what became of it.  A range is as long as the value that was
found in it. -/
def Field.records (f : Field) (start : Nat) : Outcome → List Text
  | .replaced old _ => ["Compiled declaration pattern: ".toList ++ Declaration.pattern f.name,
      "Found ".toList ++ f.name ++ " at bytes ".toList ++ Text.ofNat start ++ "..".toList ++
        Text.ofNat (start + byteLength old) ++ ": '".toList ++ old ++ ['\'']]
  | .notFound => ["Compiled declaration pattern: ".toList ++ Declaration.pattern f.name,
      "No declaration found for '".toList ++ f.name ++ ['\'']]

theorem Edit.map_message_events (e : Edit) :
    e.events.map Event.message = e.field.records (e.site?.elim 0 Site.start) e.outcome := by
  rw [events, outcome]
  cases e.site? <;> rfl

namespace Stamp

variable {S : Stamp} {text : Text}

theorem edits_revise (S : Stamp) (text : Text) :
    (S.revise text).edits = Edit.carriedFrom [] (S.plan text) := by
  have := (S.pending text).edits_ofEntries
  rwa [Write.textAfter_nil] at this

theorem foundAt_of_mem_edits {e : Edit} (he : e ∈ (S.revise text).edits) :
    (S.revise text).foundAt e.field = e.site?.elim 0 Site.start := by
  rw [Revision.foundAt, S.find?_of_mem_edits he, Option.bind_some]

theorem map_message_events (S : Stamp) (text : Text) :
    (S.revise text).events.map Event.message =
      (S.revise text).outcomes.flatMap fun o => o.1.records ((S.revise text).foundAt o.1) o.2 := by
  rw [Revision.events, Revision.outcomes, List.map_flatMap, List.flatMap_map]
  refine List.flatMap_congr fun e he => ?_
  rw [foundAt_of_mem_edits he]
  exact e.map_message_events

/-! ## What the fields are written to -/

section Written

variable {f : Field} {w : Write} (hw : w ∈ S.writes text) (hat : IsAt f.name w.site)
include hw hat

theorem mem_plan_of_isAt : ⟨f, w.value, some w.site⟩ ∈ S.plan text := by
  obtain ⟨e, he, hs, hv⟩ := (S.mem_writes_iff text w).1 hw
  obtain ⟨-, hat'⟩ := isAt_of_mem_plan he hs
  obtain ⟨hname, -⟩ := hat'.eq_of_index_eq hat rfl e.field.isName_name f.isName_name rfl
  rwa [← Field.name_inj _ _ hname, ← hv, ← hs]

theorem get?_of_isAt : S.get? f = some w.value := by
  have hentry : (f, w.value) ∈ S.entries := by
    rw [← S.map_plan text]
    exact List.mem_map.2 ⟨_, mem_plan_of_isAt hw hat, rfl⟩
  exact (S.request.mem_entries_iff ..).1 hentry

end Written

theorem outcome?_eq_replaced_iff (S : Stamp) (text : Text) (f : Field) (old new : Text) :
    (S.revise text).outcome? f = some (.replaced old new) ↔
      ∃ w ∈ S.writes text,
        w.site.text = text ∧ IsAt f.name w.site ∧ w.site.value = old ∧ w.value = new := by
  constructor
  · intro h
    obtain ⟨e, he, rfl, ho⟩ := exists_of_outcome? h
    obtain ⟨s, hs, hold, hnew⟩ := (e.outcome_eq_replaced_iff old new).1 ho
    obtain ⟨ht, hat⟩ := isAt_of_mem_plan he hs
    exact ⟨⟨s, e.value⟩, mem_writes he hs, ht, hat, hold, hnew⟩
  · rintro ⟨w, hw, -, hat, rfl, rfl⟩
    exact outcome?_of_mem_plan (mem_plan_of_isAt hw hat)

section Planned

variable {f : Field} {w : Write} {before after : List Edit}
  (hplan : S.plan text = before ++ ⟨f, w.value, some w.site⟩ :: after)
include hplan

/-- **Where a field is found that is written to after others.** -/
theorem foundAt_eq : ((S.revise text).foundAt f : Int) =
    w.site.start + shift (before.filterMap Edit.write?) w.site.start := by
  have hwrites : S.writes text =
      before.filterMap Edit.write? ++ w :: after.filterMap Edit.write? := by
    rw [writes, hplan, List.filterMap_append, Edit.filterMap_write?_cons]
    rfl
  have hfit := S.fit_writes text
  have hnd := S.nodup_index_writes text
  rw [hwrites] at hfit hnd
  rw [List.map_append, List.nodup_append] at hnd
  obtain ⟨hnd, -, hne⟩ := hnd
  obtain ⟨ht, hat, ho⟩ := Declaration.of_findOutside (Edit.site?_of_planFrom hplan).symm
  have hq := f.isName_name.quote_notMem
  have hsub := hfit.of_subset (List.subset_append_left (before.filterMap Edit.write?) _)
  have hstart := hsub.start_carry hnd hq ht hat ((hsub.isOutside_iff hq ht hat).1 ho)
    fun w' hw' => hne _ (List.mem_map_of_mem hw') _ List.mem_cons_self
  have hedit : Edit.carried (before.filterMap Edit.write?) ⟨f, w.value, some w.site⟩ ∈
      (S.revise text).edits := by
    rw [S.edits_revise, hplan]
    exact Edit.carried_mem_carriedFrom _ after before []
  rw [← hstart]
  exact congrArg Nat.cast (foundAt_of_mem_edits hedit)

theorem foundAt_head? (hf : S.entries.head?.map Prod.fst = some f) :
    (S.revise text).foundAt f = w.site.start := by
  have hhead : ((S.plan text).map Edit.field).head? = some f := by
    rw [S.map_field_plan, List.head?_map, hf]
  have hat := foundAt_eq hplan
  have hnd := Field.all_nodup.sublist (S.map_field_plan_sublist text)
  rw [hplan] at hhead hnd
  cases before with
  | nil =>
    simpa [shift] using hat
  | cons e before =>
    rw [List.cons_append, List.map_cons] at hhead hnd
    obtain rfl : e.field = f := Option.some.inj hhead
    refine absurd ?_ (List.nodup_cons.1 hnd).1
    rw [List.map_append, List.map_cons]
    exact List.mem_append_right _ List.mem_cons_self

end Planned

theorem plan_eq_pair {c t : Write} (hc : c ∈ S.writes text) (ht : t ∈ S.writes text)
    (hcat : IsAt Field.checksum.name c.site) (htat : IsAt Field.tag.name t.site) :
    S.plan text = [⟨.checksum, c.value, some c.site⟩, ⟨.tag, t.value, some t.site⟩] := by
  obtain ⟨e, e', hplan, hfc, hft⟩ : ∃ e e', S.plan text = [e, e'] ∧
      e.field = .checksum ∧ e'.field = .tag := by
    have hreq : S.request = ⟨some c.value, some t.value⟩ := by
      rw [← get?_of_isAt hc hcat, ← get?_of_isAt ht htat]
      rfl
    rw [plan, entries, hreq]
    exact ⟨_, _, rfl, rfl, rfl⟩
  have he : e ∈ S.plan text := by simp [hplan]
  have he' : e' ∈ S.plan text := by simp [hplan]
  rw [hplan, eq_of_field_eq he (mem_plan_of_isAt hc hcat) hfc,
    eq_of_field_eq he' (mem_plan_of_isAt ht htat) hft]

/-- The tag is found where it was, or moved by what the checksum before it has grown by. -/
theorem foundAt_tag {c t : Write} (hc : c ∈ S.writes text) (ht : t ∈ S.writes text)
    (hcat : IsAt Field.checksum.name c.site) (htat : IsAt Field.tag.name t.site) :
    (t.site.stop < c.site.start ∧ (S.revise text).foundAt .tag = t.site.start) ∨
      (c.site.stop < t.site.start ∧
        ((S.revise text).foundAt .tag : Int) = t.site.start + c.growth) := by
  have hfit := S.fit_writes text
  have htext : c.site.text = t.site.text := (hfit.isAt c hc).1.trans (hfit.isAt t ht).1.symm
  have hplan : S.plan text =
      [⟨.checksum, c.value, some c.site⟩] ++ ⟨.tag, t.value, some t.site⟩ :: [] :=
    plan_eq_pair hc ht hcat htat
  have hfound := foundAt_eq hplan
  have hshift : shift ([⟨.checksum, c.value, some c.site⟩].filterMap Edit.write?) t.site.start =
      if c.site.stop ≤ t.site.start then c.growth else 0 := Write.shift_singleton c _
  rw [hshift] at hfound
  have hn := Field.checksum.isName_name
  have hn' := Field.tag.isName_name
  have hne : c.site.index ≠ t.site.index := fun heq => by
    cases Field.name_inj _ _ (hcat.eq_of_index_eq htat htext hn hn' heq).1
  have hiff := hcat.stop_le_start_iff htat htext hn.quote_notMem hn'.quote_notMem hne
  rcases Nat.lt_or_gt_of_ne hne with hlt | hlt
  · rw [if_pos (hiff.2 hlt)] at hfound
    exact .inr ⟨hcat.stop_lt_start htat htext hn.quote_notMem hn'.quote_notMem hlt, hfound⟩
  · rw [if_neg (mt hiff.1 (Nat.lt_asymm hlt)), Int.add_zero] at hfound
    exact .inl ⟨htat.stop_lt_start hcat htext.symm hn'.quote_notMem hn.quote_notMem hlt,
      Int.ofNat.inj hfound⟩

/-- **The journal of a revision and where it finds the values.**  Of each field that is asked for,
in their order, it has one record of the search and one of what came of it.  The first field, if it
is declared, is found at the place in the text where its value is written over.  So is the tag
before a checksum that is written over; behind the checksum it has moved by what the checksum grew.
-/
theorem journal_revise (S : Stamp) (text : Text) :
    let r := S.revise text
    r.events.map Event.message = r.outcomes.flatMap (fun o => o.1.records (r.foundAt o.1) o.2) ∧
      r.outcomes.map Prod.fst = S.entries.map Prod.fst ∧
      r.text = text.replaceAll ((S.writes text).map Write.replacement) ∧
      (∀ f old new, r.outcome? f = some (.replaced old new) ↔ ∃ w ∈ S.writes text,
        w.site.text = text ∧ IsAt f.name w.site ∧ w.site.value = old ∧ w.value = new) ∧
      (∀ f, ∀ w ∈ S.writes text, IsAt f.name w.site →
        S.entries.head?.map Prod.fst = some f → r.foundAt f = w.site.start) ∧
      ∀ c ∈ S.writes text, ∀ t ∈ S.writes text,
        IsAt Field.checksum.name c.site → IsAt Field.tag.name t.site →
          (t.site.stop < c.site.start ∧ r.foundAt .tag = t.site.start) ∨
            (c.site.stop < t.site.start ∧ (r.foundAt .tag : Int) =
              t.site.start + (byteLength c.value - byteLength c.site.value)) := by
  refine ⟨S.map_message_events text, S.map_fst_outcomes_revise text, S.text_revise text,
    S.outcome?_eq_replaced_iff text, fun f w hw hat hhead => ?_,
    fun c hc t ht hcat htat => foundAt_tag hc ht hcat htat⟩
  obtain ⟨before, after, hplan⟩ := List.append_of_mem (mem_plan_of_isAt hw hat)
  exact foundAt_head? hplan hhead

/-- A letter of two bytes makes room for four. -/
theorem journal_revise_moved :
    let S : Stamp := ⟨⟨some "abcd".toList, some "1.2.3".toList⟩, by decide⟩
    let text := "let checksum = \"é\"; let tag = \"v1\"".toList
    let r := S.revise text
    r.outcome? .checksum = some (.replaced "é".toList "abcd".toList) ∧
      r.outcome? .tag = some (.replaced "v1".toList "1.2.3".toList) ∧
      (S.writes text).map (fun w => (w.site.start, w.site.stop)) = [(16, 18), (32, 34)] ∧
      r.foundAt .checksum = 16 ∧ r.foundAt .tag = 34 := by
  intro S text r
  have hcout : r.outcome? .checksum = some (.replaced "é".toList "abcd".toList) := by decide
  have htout : r.outcome? .tag = some (.replaced "v1".toList "1.2.3".toList) := by decide
  obtain ⟨-, -, -, hiff, hfirst, htag⟩ := S.journal_revise text
  obtain ⟨c, hc, -, hcat, hcold, hcnew⟩ := (hiff _ _ _).1 hcout
  obtain ⟨t, ht, -, htat, htold, -⟩ := (hiff _ _ _).1 htout
  have hcspan : ∀ w ∈ S.writes text, w.site.value = "é".toList →
      w.site.start = 16 ∧ w.site.stop = 18 := by decide
  have htspan : ∀ w ∈ S.writes text, w.site.value = "v1".toList →
      w.site.start = 32 ∧ w.site.stop = 34 := by decide
  obtain ⟨hcstart, hcstop⟩ := hcspan c hc hcold
  obtain ⟨htstart, htstop⟩ := htspan t ht htold
  refine ⟨hcout, htout, by decide, (hfirst _ c hc hcat rfl).trans hcstart, ?_⟩
  have hgrowth : (byteLength c.value - byteLength c.site.value : Int) = 2 := by
    rw [hcold, hcnew]
    rfl
  rcases htag c hc t ht hcat htat with ⟨hbefore, -⟩ | ⟨-, hmoved⟩
  · omega
  · rw [hgrowth, htstart] at hmoved
    exact Int.ofNat.inj hmoved

end Stamp
end ReleaseStamp
