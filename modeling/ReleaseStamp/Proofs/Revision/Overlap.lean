import ReleaseStamp.Proofs.Revision.Outcome
import ReleaseStamp.Proofs.Revision.Plan
/-!
# What fields do to each other

A value may run over the declaration of another field, and whoever replaces it buries that
declaration.  So the tag may be looked for in vain, or further on, once the checksum is written
(`Stamp.outcome?_tag`), and a checksum that was written may be buried when the tag is
(`Stamp.find_revise`).  Nothing else comes between the fields.
-/
namespace ReleaseStamp

open Declaration (IsAt find findOutside)

namespace Declaration

theorem findOutside_nil (name text : Text) : findOutside [] name text = find name text := by
  have hall : (all name text).filter (·.isOutside []) = all name text :=
    List.filter_eq_self.2 fun _ _ => rfl
  rw [findOutside, ← List.head?_filter, hall, head?_all]

theorem findOutside_eq_none {name text : Text} (h : find name text = none) (values : List Site) :
    findOutside values name text = none := by
  refine List.find?_eq_none.2 fun s hs => ?_
  obtain ⟨ht, hat⟩ := (mem_all_iff name text s).1 hs
  exact absurd hat ((find_eq_none_iff name text).1 h s ht)

theorem findOutside_of_subset {values values' : List Site} {name text : Text} {s : Site}
    (h : findOutside values name text = some s) (hsub : ∀ v ∈ values, v ∈ values')
    (ho : s.isOutside values' = true) : findOutside values' name text = some s := by
  obtain ⟨-, before, after, hall, hinside⟩ := List.find?_eq_some_iff_append.1 h
  refine List.find?_eq_some_iff_append.2 ⟨ho, before, after, hall, fun s' hs' => ?_⟩
  have hs' := hinside s' hs'
  rw [Bool.not_eq_true', ← Bool.not_eq_true, Site.isOutside_iff] at hs' ⊢
  exact fun hout => hs' fun v hv => hout v (hsub v hv)

end Declaration

namespace Stamp

variable {S : Stamp} {text : Text}

theorem map_field_plan (S : Stamp) (text : Text) :
    (S.plan text).map Edit.field = S.entries.map Prod.fst := by
  rw [← S.map_plan text, List.map_map]
  rfl

theorem map_field_plan_sublist (S : Stamp) (text : Text) :
    ((S.plan text).map Edit.field).Sublist Field.all := by
  rw [S.map_field_plan]
  exact S.request.map_fst_entries_sublist

theorem eq_of_field_eq {e e' : Edit} (he : e ∈ S.plan text) (he' : e' ∈ S.plan text)
    (hf : e.field = e'.field) : e = e' :=
  List.inj_on_of_nodup_map (Field.all_nodup.sublist (S.map_field_plan_sublist text)) he he' hf

theorem exists_of_outcome? {f : Field} {o : Outcome} (h : (S.revise text).outcome? f = some o) :
    ∃ e ∈ S.plan text, e.field = f ∧ e.outcome = o := by
  rw [S.outcome?_eq_some_iff, S.outcomes_revise, List.mem_map] at h
  obtain ⟨e, he, ho⟩ := h
  exact ⟨e, he, Prod.mk.inj ho⟩

theorem outcome?_of_mem_plan {e : Edit} (he : e ∈ S.plan text) :
    (S.revise text).outcome? e.field = some e.outcome := by
  rw [S.outcome?_eq_some_iff, S.outcomes_revise]
  exact List.mem_map_of_mem he

section Planned

variable {e : Edit} {s : Site} (he : e ∈ S.plan text) (hs : e.site? = some s)
include he hs

theorem mem_writes : ⟨s, e.value⟩ ∈ S.writes text := (S.mem_writes_iff text _).2 ⟨e, he, hs, rfl⟩

theorem eq_of_isAt {w : Write} (hw : w ∈ S.writes text) (hat : IsAt e.field.name w.site) :
    w.site = s := by
  obtain ⟨e', he', hs', -⟩ := (S.mem_writes_iff text w).1 hw
  obtain ⟨-, hat'⟩ := isAt_of_mem_plan he' hs'
  obtain ⟨hname, -⟩ :=
    hat'.eq_of_index_eq hat rfl e'.field.isName_name e.field.isName_name rfl
  rw [eq_of_field_eq he' he (Field.name_inj _ _ hname), hs] at hs'
  exact (Option.some.inj hs').symm

/-- Only an edit that comes later can bury what was written. -/
theorem exists_after_of_encloses {w : Write} (hw : w ∈ S.writes text)
    (hin : w.site.encloses s = true) : ∃ before e' after, S.plan text = before ++ e :: after ∧
      e' ∈ after ∧ e'.site? = some w.site ∧ e'.value = w.value := by
  obtain ⟨e', he', hs', hv'⟩ := (S.mem_writes_iff text w).1 hw
  obtain ⟨before, after, hplan, hsite⟩ := exists_append_of_mem_plan he
  refine ⟨before, e', after, hplan, ?_, hs', hv'⟩
  rw [hplan, List.mem_append, List.mem_cons] at he'
  rcases he' with hbefore | rfl | hafter
  · -- the search was kept away from what an earlier edit had buried
    obtain ⟨-, -, ho⟩ := Declaration.of_findOutside (hsite.symm.trans hs)
    have hmem : w ∈ before.filterMap Edit.write? :=
      List.mem_filterMap.2 ⟨e', hbefore, by rw [Edit.write?, hs', Option.map_some, hv']⟩
    rw [(Site.isOutside_iff _ s).1 ho w.site (List.mem_map.2 ⟨w, hmem, rfl⟩)] at hin
    cases hin
  · obtain ⟨-, hat⟩ := isAt_of_mem_plan he hs
    have hq := e'.field.isName_name.quote_notMem
    rw [Option.some.inj (hs'.symm.trans hs), hat.encloses_iff hat rfl hq hq] at hin
    omega
  · exact hafter

/-- Only the tag buries what was written, and what it buries is the checksum. -/
theorem eq_of_encloses {w : Write} (hw : w ∈ S.writes text) (hin : w.site.encloses s = true) :
    e.field = .checksum ∧ IsAt Field.tag.name w.site ∧
      (S.revise text).outcome? .tag = some (.replaced w.site.value w.value) := by
  obtain ⟨before, e', after, hplan, hafter, hs', hv'⟩ := exists_after_of_encloses he hs hw hin
  have he' : e' ∈ S.plan text := by
    rw [hplan]
    exact List.mem_append_right _ (List.mem_cons_of_mem _ hafter)
  have hsub := S.map_field_plan_sublist text
  rw [hplan, List.map_append, List.map_cons] at hsub
  have hpair : [e.field, e'.field].Sublist (e.field :: after.map Edit.field) :=
    (List.singleton_sublist.2 (List.mem_map_of_mem hafter)).cons_cons e.field
  obtain ⟨hf, hf'⟩ :=
    Field.eq_of_pair_sublist ((hpair.trans (List.sublist_append_right _ _)).trans hsub)
  obtain ⟨-, hat'⟩ := isAt_of_mem_plan he' hs'
  have hout := outcome?_of_mem_plan he'
  rw [Edit.outcome, hs', hf', hv'] at hout
  rw [hf'] at hat'
  exact ⟨hf, hat', hout⟩

theorem find_revise_of_outside (ho : ∀ w ∈ S.writes text, w.site.encloses s = false) :
    (find e.field.name (S.revise text).text).map Site.value = some e.value := by
  have hfit := S.fit_writes text
  obtain ⟨ht, hat⟩ := isAt_of_mem_plan he hs
  obtain ⟨before, after, hplan, hsite⟩ := exists_append_of_mem_plan he
  have hfind : findOutside ((S.writes text).map Write.site) e.field.name text = some s := by
    refine Declaration.findOutside_of_subset (hsite.symm.trans hs) (fun v hv => ?_) ?_
    · rw [writes, hplan, List.filterMap_append, List.map_append]
      exact List.mem_append_left _ hv
    · rw [Site.isOutside_iff, List.forall_mem_map]
      exact ho
  rw [S.text_revise text, hfit.find_textAfter e.field.isName_name, hfind, Option.map_some,
    Option.map_some, hfit.value_carry e.field.isName_name ht hat]
  exact congrArg some (Write.valueAfter_of_mem (S.nodup_index_writes text) (mem_writes he hs))

theorem find_revise_of_encloses {w : Write} (hw : w ∈ S.writes text)
    (hin : w.site.encloses s = true) :
    (find e.field.name (S.revise text).text).map Site.value =
      (findOutside ((S.writes text).map Write.site) e.field.name text).map Site.value := by
  have hfit := S.fit_writes text
  have hn := e.field.isName_name
  rw [S.text_revise text, hfit.find_textAfter hn, Option.map_map]
  refine Option.map_congr fun s' hs' => ?_
  obtain ⟨ht, hat, ho⟩ := Declaration.of_findOutside hs'
  rw [Function.comp_apply, hfit.value_carry hn ht hat]
  refine Write.valueAfter_of_forall_ne fun w' hw' hsite => ?_
  rw [← hsite, eq_of_isAt he hs hw' (hsite ▸ hat), Site.isOutside_iff, List.forall_mem_map] at ho
  rw [ho w hw] at hin
  cases hin

end Planned

/-- **What was written to a field is what the field reads as, unless it was buried.**  Only the tag
can have buried it, and then the field, a checksum, reads as the first of its declarations that was
not. -/
theorem find_revise (S : Stamp) (text : Text) {f : Field} {old new : Text}
    (h : (S.revise text).outcome? f = some (.replaced old new)) :
    ∃ s, ⟨s, new⟩ ∈ S.writes text ∧ s.text = text ∧ IsAt f.name s ∧ s.value = old ∧
      ((∀ w ∈ S.writes text, w.site.encloses s = false) →
        (find f.name (S.revise text).text).map Site.value = some new) ∧
      ∀ w ∈ S.writes text, w.site.encloses s = true →
        f = .checksum ∧ IsAt Field.tag.name w.site ∧
          (S.revise text).outcome? .tag = some (.replaced w.site.value w.value) ∧
          (find f.name (S.revise text).text).map Site.value =
            (findOutside ((S.writes text).map Write.site) f.name text).map Site.value := by
  obtain ⟨e, he, rfl, ho⟩ := exists_of_outcome? h
  cases hs : e.site? with
  | none =>
    rw [Edit.outcome, hs] at ho
    cases ho
  | some s =>
    rw [Edit.outcome, hs] at ho
    injection ho with hold hnew
    obtain ⟨ht, hat⟩ := isAt_of_mem_plan he hs
    rw [← hnew]
    refine ⟨s, mem_writes he hs, ht, hat, hold, find_revise_of_outside he hs, fun w hw hin => ?_⟩
    obtain ⟨hf, htag, hout⟩ := eq_of_encloses he hs hw hin
    exact ⟨hf, htag, hout, find_revise_of_encloses he hs hw hin⟩

theorem find_revise_apart :
    let S : Stamp := ⟨⟨some "ab".toList, some "1.2.3".toList⟩, by decide⟩
    let text := "let checksum = \"x\"; let tag = \"v1\"".toList
    (S.revise text).outcome? .checksum = some (.replaced "x".toList "ab".toList) ∧
      (find Field.checksum.name (S.revise text).text).map Site.value = some "ab".toList := by
  intro S text
  have h : (S.revise text).outcome? .checksum = some (.replaced "x".toList "ab".toList) := by decide
  have hapart : ∀ w ∈ S.writes text, ∀ w' ∈ S.writes text, w'.site.encloses w.site = false := by
    decide
  obtain ⟨s, hw, -, -, -, hread, -⟩ := S.find_revise text h
  exact ⟨h, hread (hapart _ hw)⟩

/-- The tag can bury the checksum that was just written. -/
theorem find_revise_buried :
    let S : Stamp := ⟨⟨some "ab".toList, some "1.2.3".toList⟩, by decide⟩
    let text := "let tag = \"let checksum = \"x\"".toList
    (S.revise text).outcome? .checksum = some (.replaced "x".toList "ab".toList) ∧
      find Field.checksum.name (S.revise text).text = none := by
  decide

theorem outcome?_tag_alone {t : Text} (h : S.request = ⟨none, some t⟩) (text : Text) :
    (S.revise text).outcome? .tag = some (Edit.outcome ⟨.tag, t, find Field.tag.name text⟩) := by
  have hmem : Edit.planned text [] .tag t ∈ S.plan text := by
    rw [plan, entries, h]
    exact List.mem_cons_self
  have := outcome?_of_mem_plan hmem
  rwa [Edit.planned, List.map_nil, Declaration.findOutside_nil] at this

theorem outcome?_tag_after_checksum {c t : Text} (h : S.request = ⟨some c, some t⟩) (text : Text) :
    (S.revise text).outcome? .tag = some (Edit.outcome ⟨.tag, t,
      findOutside (find Field.checksum.name text).toList Field.tag.name text⟩) := by
  have hmem : Edit.planned text (Edit.planned text [] .checksum c).write?.toList .tag t ∈
      S.plan text := by
    rw [plan, entries, h]
    exact List.mem_cons_of_mem _ List.mem_cons_self
  have hsites : (Edit.planned text [] .checksum c).write?.toList.map Write.site =
      (find Field.checksum.name text).toList := by
    rw [Edit.write?, Edit.planned, List.map_nil, Declaration.findOutside_nil]
    cases find Field.checksum.name text <;> rfl
  have := outcome?_of_mem_plan hmem
  rwa [Edit.planned, hsites] at this

/-- **What becomes of the tag when the checksum is written before it**: the same as without the
checksum, unless the declaration of the tag is buried; then the first one that is not stands for it.
-/
theorem outcome?_tag {both only : Stamp} {c t : Text} (hboth : both.request = ⟨some c, some t⟩)
    (honly : only.request = ⟨none, some t⟩) (text : Text) :
    ((∀ k s, find Field.checksum.name text = some k → find Field.tag.name text = some s →
        k.encloses s = false) →
      (both.revise text).outcome? .tag = (only.revise text).outcome? .tag) ∧
    (only.revise text).outcome? .tag =
      some (Edit.outcome ⟨.tag, t, find Field.tag.name text⟩) ∧
    (both.revise text).outcome? .tag = some (Edit.outcome ⟨.tag, t,
      findOutside (find Field.checksum.name text).toList Field.tag.name text⟩) := by
  have hout := outcome?_tag_alone honly text
  have hout' := outcome?_tag_after_checksum hboth text
  refine ⟨fun h => ?_, hout, hout'⟩
  rw [hout, hout']
  cases hs : find Field.tag.name text with
  | none => rw [Declaration.findOutside_eq_none hs]
  | some s =>
    have hnil := (Declaration.findOutside_nil Field.tag.name text).trans hs
    rw [Declaration.findOutside_of_subset hnil (fun v hv => absurd hv List.not_mem_nil)]
    rw [Site.isOutside_iff]
    exact fun k hk => h k s (Option.mem_toList.1 hk) hs

theorem outcome?_tag_apart :
    let both : Stamp := ⟨⟨some "ab".toList, some "1.2.3".toList⟩, by decide⟩
    let only : Stamp := ⟨⟨none, some "1.2.3".toList⟩, by decide⟩
    let text := "let checksum = \"x\"; let tag = \"v1\"".toList
    both.request = ⟨some "ab".toList, some "1.2.3".toList⟩ ∧
      only.request = ⟨none, some "1.2.3".toList⟩ ∧
        (both.revise text).outcome? .tag = (only.revise text).outcome? .tag := by
  intro both only text
  have hapart : ∀ k ∈ find Field.checksum.name text, ∀ s ∈ find Field.tag.name text,
      k.encloses s = false := by decide
  exact ⟨rfl, rfl, (outcome?_tag rfl rfl text).1 fun k s hk hs => hapart k hk s hs⟩

/-- The checksum can bury the tag before it is looked for. -/
theorem outcome?_tag_buried :
    let both : Stamp := ⟨⟨some "ab".toList, some "1.2.3".toList⟩, by decide⟩
    let only : Stamp := ⟨⟨none, some "1.2.3".toList⟩, by decide⟩
    let text := "let checksum = \"let tag = \"v1\"".toList
    (both.revise text).outcome? .tag = some .notFound ∧
      (only.revise text).outcome? .tag = some (.replaced "v1".toList "1.2.3".toList) := by
  decide

end Stamp
end ReleaseStamp
