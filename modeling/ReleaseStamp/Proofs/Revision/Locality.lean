import ReleaseStamp.Proofs.Revision.Plan
/-!
# What a revision touches

In bytes, a revision replaces values of the text as it was, each of a declaration of its field, and
no two of them meet; all else is kept (`Stamp.revise_eq_replaceAll`).  In declarations, nothing
comes up that was not there before, and only what began within a value written over is gone
(`Stamp.all_revise`).
-/
namespace ReleaseStamp

open Declaration (IsAt IsName all)
open Write (Fit textAfter shift valueAfter)

namespace Write.Fit

variable {text name : Text} {ws : List Write}

theorem pairwise_apart (h : Fit text ws) (hnd : (ws.map (·.site.index)).Nodup) :
    ws.Pairwise fun w w' => w.site.stop < w'.site.start ∨ w'.site.stop < w.site.start := by
  refine (List.pairwise_map.1 hnd).imp_of_mem fun {w w'} hw hw' hne => ?_
  obtain ⟨ht, name, hn, hat⟩ := h.isAt w hw
  obtain ⟨ht', name', hn', hat'⟩ := h.isAt w' hw'
  rcases Nat.lt_or_gt_of_ne hne with hlt | hlt
  · exact .inl (hat.stop_lt_start hat' (ht.trans ht'.symm) hn.quote_notMem hn'.quote_notMem hlt)
  · exact .inr (hat'.stop_lt_start hat (ht'.trans ht.symm) hn'.quote_notMem hn.quote_notMem hlt)

/-- What is declared after the writes, as it can be seen: where, by which head and with which value.
-/
theorem map_all_textAfter (h : Fit text ws) (hnd : (ws.map (·.site.index)).Nodup)
    (hn : IsName name) :
    (all name (textAfter ws text)).map (fun s => ((s.place : Int), s.head, s.value)) =
      ((all name text).filter (·.isOutside (ws.map Write.site))).map fun s =>
        ((s.place : Int) + shift ws s.place, s.head, valueAfter ws s) := by
  rw [h.all_textAfter hn, List.map_map]
  refine List.map_congr_left fun s hm => ?_
  obtain ⟨hs, ho⟩ := List.mem_filter.1 hm
  obtain ⟨ht, hat⟩ := (Declaration.mem_all_iff name text s).1 hs
  rw [h.isOutside_iff hn.quote_notMem ht hat] at ho
  rw [Function.comp_apply, h.place_carry hnd hn.quote_notMem ht hat ho, Write.head_carry,
    h.value_carry hn ht hat]

end Write.Fit

namespace Stamp

/-- **A revision replaces values of the text as it was, and nothing else.**  For each entry there is
an edit; those that find their field declared put in the new value at its declaration. -/
theorem revise_eq_replaceAll (S : Stamp) (text : Text) :
    (S.plan text).map (fun e => (e.field, e.value)) = S.entries ∧
      (S.revise text).outcomes = (S.plan text).map (fun e => (e.field, e.outcome)) ∧
      (∀ e ∈ S.plan text, ∀ s, e.site? = some s → s.text = text ∧ IsAt e.field.name s) ∧
      (S.writes text).Pairwise (fun w w' =>
        w.site.stop < w'.site.start ∨ w'.site.stop < w.site.start) ∧
      (S.revise text).text = text.replaceAll ((S.writes text).map Write.replacement) := by
  have hfit := S.fit_writes text
  have hnd := S.nodup_index_writes text
  exact ⟨S.map_plan text, S.outcomes_revise text, fun e he s hs => isAt_of_mem_plan he hs,
    hfit.pairwise_apart hnd, S.text_revise text⟩

/-- **A revision declares nothing anew and loses only what began in a value written over.**  What is
left keeps its order, its head and its value, unless it is a declaration that was written to, and
moves by what the text before it has grown. -/
theorem all_revise (S : Stamp) (text : Text) {name : Text} (hn : IsName name) :
    (all name (S.revise text).text).map (fun s => ((s.place : Int), s.head, s.value)) =
        ((all name text).filter (·.isOutside ((S.writes text).map Write.site))).map (fun s =>
          ((s.place : Int) + shift (S.writes text) s.place, s.head, valueAfter (S.writes text) s)) ∧
      (S.revise text).outcomes = (S.plan text).map (fun e => (e.field, e.outcome)) ∧
      ∀ e ∈ S.plan text, ∀ s, e.site? = some s → s ∈ all e.field.name text := by
  have hfit := S.fit_writes text
  have hnd := S.nodup_index_writes text
  refine ⟨?_, S.outcomes_revise text, fun e he s hs => ?_⟩
  · rw [S.text_revise text]
    exact hfit.map_all_textAfter hnd hn
  · exact (Declaration.mem_all_iff e.field.name text s).2 (isAt_of_mem_plan he hs)

theorem all_revise_url :
    let S : Stamp := ⟨⟨some "ab".toList, some "1.2.3".toList⟩, by decide⟩
    let text := "let checksum = \"let url = \"x\" let url = \"y\"".toList
    IsName "url".toList ∧
      (all "url".toList (S.revise text).text).map (fun s => ((s.place : Int), s.head, s.value)) =
        [(22, "let url = \"".toList, "y".toList)] := by
  intro S text
  have hn : IsName "url".toList := by decide
  refine ⟨hn, ?_⟩
  rw [(all_revise S text hn).1]
  decide

end Stamp
end ReleaseStamp
