import ReleaseStamp.Declaration.Lemmas
/-!
# All declarations of a name

`all` tries every place of a text and lists what is declared there, first place first.  It misses no
declaration and lists no other (`mem_all_iff`), and the search stops at the first one
(`head?_all`).
-/
namespace ReleaseStamp

/-- The byte at which the keyword begins. -/
def Site.place (s : Site) : Nat := Text.byteLength s.front

namespace Declaration

/-- The declaration whose keyword follows the first `k` characters. -/
def readAt? (name text : Text) (k : Nat) : Option Site :=
  if wordMayBegin (text.take k).reverse then
    (read? name (text.drop k)).map fun s => { s with front := text.take k }
  else none

def all (name text : Text) : List Site := (List.range text.length).filterMap (readAt? name text)

theorem readAt?_eq_some_iff (name text : Text) (k : Nat) (hk : k ≤ text.length) (s : Site) :
    readAt? name text k = some s ↔ s.text = text ∧ IsAt name s ∧ s.front.length = k := by
  have hlen : (text.take k).length = k := by simp [hk]
  unfold readAt?
  constructor
  · intro h
    split at h
    · rename_i hw
      obtain ⟨s', hs', rfl⟩ := Option.map_eq_some_iff.1 h
      obtain ⟨hf, ht, hh, hv, hr⟩ := of_read? hs'
      refine ⟨?_, ⟨hw, hh, hv, hr⟩, hlen⟩
      have hrest : s'.head ++ (s'.value ++ s'.rest) = text.drop k := by
        simpa [Site.text, hf] using ht
      simp [Site.text, hrest]
    · cases h
  · rintro ⟨ht, h, hf⟩
    have hcut := List.append_inj
      (show s.front ++ (s.head ++ s.value ++ s.rest) = text.take k ++ text.drop k by
        rw [List.take_append_drop, ← ht]; simp [Site.text])
      (by rw [hf, hlen])
    have hr : read? name (text.drop k) = some { s with front := [] } := by
      rw [← hcut.2]
      simpa [Site.text] using read?_text (s := { s with front := [] })
        ⟨rfl, h.isHead, h.quote_notMem_value, h.head?_rest⟩ rfl
    rw [← hcut.1, if_pos h.wordMayBegin_front, hr]
    rfl

theorem IsAt.length_front_lt {name : Text} {s : Site} (h : IsAt name s) :
    s.front.length < s.text.length := by
  have hne := List.length_pos_iff.2 h.isHead.ne_nil
  simp only [Site.text, List.length_append]
  omega

theorem mem_all_iff (name text : Text) (s : Site) :
    s ∈ all name text ↔ s.text = text ∧ IsAt name s := by
  rw [all, List.mem_filterMap]
  constructor
  · rintro ⟨k, hk, h⟩
    have hk := List.mem_range.1 hk
    obtain ⟨ht, hat, -⟩ := (readAt?_eq_some_iff name text k (by omega) s).1 h
    exact ⟨ht, hat⟩
  · rintro ⟨rfl, h⟩
    have hk := h.length_front_lt
    exact ⟨_, List.mem_range.2 hk, (readAt?_eq_some_iff _ _ _ (by omega) s).2 ⟨rfl, h, rfl⟩⟩

theorem pairwise_all (name text : Text) :
    (all name text).Pairwise fun s s' => s.front.length < s'.front.length := by
  have hlt : (List.range text.length).Pairwise fun k k' =>
      k < k' ∧ k ≤ text.length ∧ k' ≤ text.length := by
    refine List.pairwise_lt_range.imp_of_mem fun {k k'} hk hk' h => ?_
    rw [List.mem_range] at hk hk'
    omega
  refine hlt.filterMap _ fun k k' h s hs s' hs' => ?_
  obtain ⟨-, -, hf⟩ := (readAt?_eq_some_iff name text k h.2.1 s).1 hs
  obtain ⟨-, -, hf'⟩ := (readAt?_eq_some_iff name text k' h.2.2 s').1 hs'
  omega

theorem head?_all (name text : Text) : (all name text).head? = find name text := by
  have hp := pairwise_all name text
  have hm := mem_all_iff name text
  cases hl : all name text with
  | nil =>
    refine ((find_eq_none_iff name text).2 fun s ht h => ?_).symm
    have := (hm s).2 ⟨ht, h⟩
    rw [hl] at this
    cases this
  | cons s l =>
    rw [hl] at hp hm
    obtain ⟨ht, h⟩ := (hm s).1 List.mem_cons_self
    refine ((find_eq_some_iff name text s).2 ⟨ht, h, fun s' ht' h' => ?_⟩).symm
    rcases List.mem_cons.1 ((hm s').2 ⟨ht', h'⟩) with rfl | hs'
    · exact Nat.le_refl _
    · exact Nat.le_of_lt (List.rel_of_pairwise_cons hp hs')

end Declaration
end ReleaseStamp
