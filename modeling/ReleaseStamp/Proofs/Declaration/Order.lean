import ReleaseStamp.Proofs.Declaration.Opening
/-!
# How declarations lie to each other

In one text no two declarations open in the same piece (`IsAt.eq_of_index_eq`), so the number of a
declaration's piece orders declarations as their places do.  Of two declarations the values never
meet (`IsAt.stop_lt_start`), and the keyword of one lies in the value of the other exactly when its
piece is that value (`IsAt.encloses_iff`).
-/
namespace ReleaseStamp

open Text (byteLength pieces pieceStart)

/-- The keyword of the other declaration lies in the value of this one. -/
def Site.encloses (s other : Site) : Bool :=
  decide (s.start ≤ other.place) &&
    decide (other.place + byteLength Declaration.keyword ≤ s.stop)

namespace Declaration

section Bytes

variable {name : Text} {s : Site} (h : IsAt name s) (hq : '"' ∉ name)
include h hq

theorem IsAt.place_eq : s.place = pieceStart (pieces s.text) s.index + byteLength s.inner := by
  obtain ⟨-, -, hs⟩ := h.opens hq
  rw [Site.place, congrArg Site.front hs, siteAt, Text.byteLength_append, pieceStart]

theorem IsAt.value_eq : s.value = (pieces s.text).getD (s.index + 1) [] := by
  obtain ⟨-, -, hs⟩ := h.opens hq
  exact congrArg Site.value hs

theorem IsAt.start_eq : s.start = pieceStart (pieces s.text) (s.index + 1) := by
  obtain ⟨hlt, ho, -⟩ := h.opens hq
  have hquote : ('"' : Char).utf8Size = 1 := by decide
  have hlen := congrArg byteLength ho.append_quote
  have hplace := h.place_eq hq
  simp only [Text.byteLength_append, Text.byteLength_cons, Text.byteLength_nil, hquote] at hlen
  rw [Text.pieceStart_succ (by omega), Site.start, Text.byteLength_append]
  rw [Site.place] at hplace
  omega

theorem IsAt.stop_eq : s.stop = pieceStart (pieces s.text) (s.index + 1) +
    byteLength ((pieces s.text).getD (s.index + 1) []) := by
  rw [Site.stop, h.start_eq hq, ← h.value_eq hq]

theorem IsAt.place_add_le : s.place + byteLength keyword ≤ pieceStart (pieces s.text) s.index +
    byteLength ((pieces s.text).getD s.index []) := by
  obtain ⟨-, ho, -⟩ := h.opens hq
  have hk := ho.byteLength_inner_le hq
  have hplace := h.place_eq hq
  omega

end Bytes

section Two

variable {name name' : Text} {s s' : Site} (h : IsAt name s) (h' : IsAt name' s')
  (ht : s.text = s'.text)
include h h' ht

theorem IsAt.eq_of_index_eq (hn : IsName name) (hn' : IsName name') (hi : s.index = s'.index) :
    name = name' ∧ s = s' := by
  obtain ⟨-, ho, hs⟩ := h.opens hn.quote_notMem
  obtain ⟨-, ho', hs'⟩ := h'.opens hn'.quote_notMem
  rw [ht, hi] at ho hs
  obtain ⟨hname, hinner, hhead⟩ := ho.unique hn.isUnbroken hn'.isUnbroken ho'
  rw [hinner, hhead] at hs
  exact ⟨hname, hs.trans hs'.symm⟩

variable (hq : '"' ∉ name) (hq' : '"' ∉ name')
include hq hq'

theorem IsAt.encloses_iff : s.encloses s' = true ↔ s'.index = s.index + 1 := by
  have hk : 0 < byteLength keyword := by decide
  have hlt := (h.opens hq).1
  have hlt' := (h'.opens hq').1
  have hstart := h.start_eq hq
  have hstop := h.stop_eq hq
  have hplace := h'.place_eq hq'
  have hin := h'.place_add_le hq'
  rw [ht] at hstart hstop hlt
  simp only [Site.encloses, Bool.and_eq_true, decide_eq_true_eq]
  constructor
  · rintro ⟨h1, h2⟩
    rcases Nat.lt_trichotomy s'.index (s.index + 1) with hi | hi | hi
    · have := Text.pieceStart_le (pieces s'.text) (by omega) hi
      omega
    · exact hi
    · have := Text.pieceStart_le (pieces s'.text) (by omega) hi
      omega
  · intro hi
    rw [hi] at hplace hin
    omega

theorem IsAt.stop_le_place_iff (hi : s'.index ≠ s.index + 1) :
    s.stop ≤ s'.place ↔ s.index + 1 < s'.index := by
  have hk : 0 < byteLength keyword := by decide
  have hlt := (h.opens hq).1
  have hlt' := (h'.opens hq').1
  have hstop := h.stop_eq hq
  have hplace := h'.place_eq hq'
  have hin := h'.place_add_le hq'
  rw [ht] at hstop hlt
  constructor
  · intro hle
    apply Nat.lt_of_not_le
    intro hc
    have := Text.pieceStart_le (pieces s'.text) (i := s'.index) (j := s.index + 1) (by omega)
      (by omega)
    omega
  · intro hlt'
    have := Text.pieceStart_le (pieces s'.text) (by omega) hlt'
    omega

theorem IsAt.stop_lt_start (hi : s.index < s'.index) : s.stop < s'.start := by
  have hlt := (h.opens hq).1
  have hstop := h.stop_eq hq
  have hstart := h'.start_eq hq'
  rw [ht] at hstop hlt
  have := Text.pieceStart_le (pieces s'.text) (i := s.index + 1) (j := s'.index + 1)
    (by omega) (by omega)
  omega

theorem IsAt.stop_le_start_iff (hi : s.index ≠ s'.index) :
    s.stop ≤ s'.start ↔ s.index < s'.index := by
  refine ⟨fun hle => ?_, fun hlt => Nat.le_of_lt (h.stop_lt_start h' ht hq hq' hlt)⟩
  rcases Nat.lt_or_gt_of_ne hi with hlt | hlt
  · exact hlt
  · have hafter := h'.stop_lt_start h ht.symm hq' hq hlt
    simp only [Site.stop] at hafter hle
    omega

end Two

theorem IsAt.index_lt {name name' : Text} {s s' : Site} (h : IsAt name s) (h' : IsAt name' s')
    (ht : s.text = s'.text) (hn : IsName name) (hn' : IsName name')
    (hf : s.front.length < s'.front.length) : s.index < s'.index := by
  have hpre : s.front <+: s'.front := by
    have h1 : s.front <+: s'.text := ⟨s.head ++ s.value ++ s.rest, by rw [← ht]; simp [Site.text]⟩
    have h2 : s'.front <+: s'.text := ⟨s'.head ++ s'.value ++ s'.rest, by simp [Site.text]⟩
    exact List.prefix_of_prefix_length_le h1 h2 (Nat.le_of_lt hf)
  have hle : s.index ≤ s'.index := hpre.sublist.count_le '"'
  have hne : s.index ≠ s'.index := fun hi => by
    obtain ⟨-, rfl⟩ := h.eq_of_index_eq h' ht hn hn' hi
    omega
  omega

theorem pairwise_index_all {name : Text} (hn : IsName name) (text : Text) :
    (all name text).Pairwise fun s s' => s.index < s'.index := by
  refine (pairwise_all name text).imp_of_mem fun {s s'} hs hs' hf => ?_
  obtain ⟨ht, h⟩ := (mem_all_iff name text s).1 hs
  obtain ⟨ht', h'⟩ := (mem_all_iff name text s').1 hs'
  exact h.index_lt h' (ht.trans ht'.symm) hn hn hf

end Declaration
end ReleaseStamp
