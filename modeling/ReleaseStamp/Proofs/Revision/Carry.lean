import Mathlib.Algebra.Ring.Int.Defs
import Mathlib.Data.List.Nodup
import ReleaseStamp.Proofs.Revision.Write
/-!
# Declarations after writes

A declaration whose keyword lies in a value that is written over is lost.  Every other declaration
is carried to the text after the writes, with its head, and with its value unless that is written
over. Nothing else is declared there (`all_textAfter`), since a value without blanks begins no
declaration. How far a declaration moves is what the writes before it lengthen the text by
(`place_carry`).
-/
namespace ReleaseStamp

open Text (byteLength pieces joined closed pieceStart)
open Declaration (IsAt IsName Opens siteAt all)

/-- The keyword lies in none of the values. -/
def Site.isOutside (values : List Site) (s : Site) : Bool := !values.any (·.encloses s)

theorem Site.isOutside_iff (values : List Site) (s : Site) :
    s.isOutside values = true ↔ ∀ v ∈ values, v.encloses s = false := by
  rw [isOutside, Bool.not_eq_true', List.any_eq_false]
  exact forall₂_congr fun v _ => Bool.eq_false_iff.symm

theorem Site.eq_of_pairwise_index {l l' : List Site}
    (h : l.Pairwise fun s s' => s.index < s'.index)
    (h' : l'.Pairwise fun s s' => s.index < s'.index) (hmem : ∀ s, s ∈ l ↔ s ∈ l') : l = l' := by
  have hnodup : ∀ {l : List Site}, l.Pairwise (fun s s' => s.index < s'.index) → l.Nodup :=
    fun hl => hl.imp fun hlt he => by rw [he] at hlt; omega
  exact List.Perm.eq_of_pairwise (fun s s' _ _ h1 h2 => absurd h1 (Nat.lt_asymm h2)) h h'
    ((List.perm_ext_iff_of_nodup (hnodup h) (hnodup h')).2 hmem)

/-- The first declaration whose keyword lies in none of the values. -/
def Declaration.findOutside (values : List Site) (name text : Text) : Option Site :=
  (all name text).find? (·.isOutside values)

namespace Write

/-- The value of a declaration after the writes. -/
def valueAfter (ws : List Write) (s : Site) : Text :=
  ((ws.find? (·.site == s)).map Write.value).getD s.value

/-- The bytes that the text gains by a write; below zero where it loses some. -/
def growth (w : Write) : Int := byteLength w.value - byteLength w.site.value

/-- The bytes gained by all writes to values that end at the byte or before it. -/
def shift (ws : List Write) (pos : Nat) : Int :=
  ((ws.filter fun w => decide (w.site.stop ≤ pos)).map growth).sum

/-- Where a declaration stands after the writes. -/
def carry (ws : List Write) (s : Site) : Site :=
  siteAt (piecesAfter ws (pieces s.text)) s.index s.inner s.head

@[simp] theorem head_carry (ws : List Write) (s : Site) : (carry ws s).head = s.head := rfl

theorem valueAfter_of_mem {ws : List Write} (hnd : (ws.map (·.site.index)).Nodup) {w : Write}
    (hw : w ∈ ws) : valueAfter ws w.site = w.value := by
  have hsome : (ws.find? (·.site == w.site)).isSome = true :=
    List.find?_isSome.2 ⟨w, hw, beq_self_eq_true w.site⟩
  obtain ⟨w', hf⟩ := Option.isSome_iff_exists.1 hsome
  have hsite : w'.site = w.site := by simpa using List.find?_some hf
  have hw' := List.inj_on_of_nodup_map hnd (List.mem_of_find?_eq_some hf) hw (by rw [hsite])
  rw [valueAfter, hf, hw']
  rfl

theorem pieceAfter_of_mem {ws : List Write} (hnd : (ws.map (·.site.index)).Nodup) {w : Write}
    (hw : w ∈ ws) (piece : Text) : pieceAfter ws (w.site.index + 1) piece = w.value := by
  rcases pieceAfter_eq_or ws (w.site.index + 1) piece with ⟨-, hno⟩ | ⟨w', hw', hi, hp⟩
  · exact absurd rfl (hno w hw)
  · rw [hp, List.inj_on_of_nodup_map hnd hw' hw (Nat.succ.inj hi)]

theorem valueAfter_of_forall_ne {ws : List Write} {s : Site} (h : ∀ w ∈ ws, w.site ≠ s) :
    valueAfter ws s = s.value := by
  have hf : ws.find? (·.site == s) = none :=
    List.find?_eq_none.2 fun w hw => by simpa using h w hw
  rw [valueAfter, hf]
  rfl

namespace Fit

variable {text name : Text} {ws : List Write} {s : Site}

theorem isOutside_iff (h : Fit text ws) (hq : '"' ∉ name) (ht : s.text = text) (hs : IsAt name s) :
    s.isOutside (ws.map Write.site) = true ↔ ∀ w ∈ ws, w.site.index + 1 ≠ s.index := by
  rw [Site.isOutside_iff, List.forall_mem_map]
  refine forall₂_congr fun w hw => ?_
  obtain ⟨htw, name', hn', hat⟩ := h.isAt w hw
  rw [← Bool.not_eq_true, hat.encloses_iff hs (htw.trans ht.symm) hn'.quote_notMem hq, eq_comm]

theorem isAt_carry (h : Fit text ws) (hq : '"' ∉ name) (ht : s.text = text) (hs : IsAt name s)
    (ho : ∀ w ∈ ws, w.site.index + 1 ≠ s.index) :
    (carry ws s).text = textAfter ws text ∧ IsAt name (carry ws s) ∧
      (carry ws s).index = s.index := by
  obtain ⟨hlt, hopens, -⟩ := hs.opens hq
  rw [← pieceAfter_of_forall_ne ho ((pieces s.text).getD s.index []),
    ← getD_piecesAfter ws (by omega)] at hopens
  rw [← length_piecesAfter ws] at hlt
  rw [carry, ht, ← h.pieces_textAfter]
  rw [ht, ← h.pieces_textAfter] at hlt hopens
  obtain ⟨htext, hat⟩ := Declaration.isAt_siteAt hlt hopens
  exact ⟨htext, hat, Declaration.index_siteAt hq hlt hopens⟩

theorem exists_carry (h : Fit text ws) (hn : IsName name) {s' : Site}
    (ht' : s'.text = textAfter ws text) (hs' : IsAt name s') :
    ∃ s, s.text = text ∧ IsAt name s ∧ (∀ w ∈ ws, w.site.index + 1 ≠ s.index) ∧
      carry ws s = s' := by
  obtain ⟨hlt, hopens, hcut⟩ := hs'.opens hn.quote_notMem
  rw [ht', h.pieces_textAfter] at hlt hopens hcut
  rw [length_piecesAfter] at hlt
  rw [getD_piecesAfter ws (by omega)] at hopens
  rcases pieceAfter_eq_or ws s'.index ((pieces text).getD s'.index []) with
    ⟨hp, hne⟩ | ⟨w, hw, -, hp⟩
  · rw [hp] at hopens
    obtain ⟨ht, hs⟩ := Declaration.isAt_siteAt hlt hopens
    have hi := Declaration.index_siteAt hn.quote_notMem hlt hopens
    generalize siteAt (pieces text) s'.index s'.inner s'.head = s at ht hs hi
    obtain ⟨-, hopens', -⟩ := hs.opens hn.quote_notMem
    rw [ht, hi] at hopens'
    obtain ⟨-, hinner, hhead⟩ := hopens'.unique hn.isUnbroken hn.isUnbroken hopens
    refine ⟨s, ht, hs, by rwa [hi], ?_⟩
    rw [carry, ht, hi, hinner, hhead]
    exact hcut.symm
  · rw [hp] at hopens
    exact absurd hopens (Declaration.not_opens_of_isBare (h.isBare w hw))

/-- **All that is declared after the writes.** -/
theorem all_textAfter (h : Fit text ws) (hn : IsName name) :
    all name (textAfter ws text) =
      ((all name text).filter (·.isOutside (ws.map Write.site))).map (carry ws) := by
  have hcarry : ∀ s ∈ (all name text).filter (·.isOutside (ws.map Write.site)),
      (carry ws s).text = textAfter ws text ∧ IsAt name (carry ws s) ∧
        (carry ws s).index = s.index := fun s hm => by
    obtain ⟨hs, ho⟩ := List.mem_filter.1 hm
    obtain ⟨ht, hat⟩ := (Declaration.mem_all_iff name text s).1 hs
    exact h.isAt_carry hn.quote_notMem ht hat ((h.isOutside_iff hn.quote_notMem ht hat).1 ho)
  have hleft := Declaration.pairwise_index_all hn (textAfter ws text)
  have hright : (((all name text).filter (·.isOutside (ws.map Write.site))).map (carry ws)).Pairwise
      fun s s' => s.index < s'.index := by
    rw [List.pairwise_map]
    refine ((Declaration.pairwise_index_all hn text).filter _).imp_of_mem
      fun {s s'} hs hs' hlt => ?_
    rw [(hcarry s hs).2.2, (hcarry s' hs').2.2]
    exact hlt
  refine Site.eq_of_pairwise_index hleft hright fun s' => ?_
  rw [Declaration.mem_all_iff, List.mem_map]
  constructor
  · rintro ⟨ht', hs'⟩
    obtain ⟨s, ht, hs, ho, rfl⟩ := h.exists_carry hn ht' hs'
    refine ⟨s, List.mem_filter.2 ⟨(Declaration.mem_all_iff name text s).2 ⟨ht, hs⟩, ?_⟩, rfl⟩
    exact (h.isOutside_iff hn.quote_notMem ht hs).2 ho
  · rintro ⟨s, hs, rfl⟩
    exact ⟨(hcarry s hs).1, (hcarry s hs).2.1⟩

theorem find_textAfter (h : Fit text ws) (hn : IsName name) :
    Declaration.find name (textAfter ws text) =
      (Declaration.findOutside (ws.map Write.site) name text).map (carry ws) := by
  rw [← Declaration.head?_all, h.all_textAfter hn, List.head?_map, List.head?_filter]
  rfl

theorem value_carry (h : Fit text ws) (hn : IsName name) (ht : s.text = text) (hs : IsAt name s) :
    (carry ws s).value = valueAfter ws s := by
  obtain ⟨hlt, -, -⟩ := hs.opens hn.quote_notMem
  have hcongr : ∀ w ∈ ws, (w.site.index + 1 == s.index + 1) = (w.site == s) := fun w hw => by
    obtain ⟨htw, name', hn', hat⟩ := h.isAt w hw
    rw [Bool.eq_iff_iff, beq_iff_eq, beq_iff_eq]
    constructor
    · intro hi
      exact (hat.eq_of_index_eq hs (htw.trans ht.symm) hn' hn (by omega)).2
    · intro he
      rw [he]
  rw [carry, siteAt]
  dsimp only
  rw [getD_piecesAfter ws (by omega), ← hs.value_eq hn.quote_notMem, pieceAfter, valueAfter,
    List.find?_congr hcongr]

/-- Writing a new value where a declaration is carried to is one write more. -/
theorem text_withValue_carry {ws' : List Write} (h : Fit text ws') (hq : '"' ∉ name)
    (ht : s.text = text) (hs : IsAt name s) (ho : ∀ w ∈ ws, w.site.index + 1 ≠ s.index)
    {value : Text} (hafter : ∀ i piece, pieceAfter ws' i piece =
      if s.index + 1 = i then value else pieceAfter ws i piece) :
    ((carry ws s).withValue value).text = textAfter ws' text := by
  obtain ⟨hlt, hopens, -⟩ := hs.opens hq
  rw [← pieceAfter_of_forall_ne ho ((pieces s.text).getD s.index []),
    ← getD_piecesAfter ws (by omega)] at hopens
  rw [carry, Declaration.text_withValue_siteAt (by simpa using hlt) hopens, h.textAfter_eq_joined,
    ht]
  congr 1
  apply List.ext_getElem (by simp)
  intro i hi hi'
  rw [List.getElem_set]
  simp only [piecesAfter, List.getElem_mapIdx, hafter]

/-! ## How far a declaration moves -/

theorem of_subset {ws' : List Write} (h : Fit text ws) (hsub : ws' ⊆ ws) : Fit text ws' :=
  ⟨fun w hw => h.isAt w (hsub hw), fun w hw => h.isBare w (hsub hw)⟩

theorem pieceStart_piecesAfter : ∀ {ws : List Write}, Fit text ws →
    (ws.map (·.site.index)).Nodup → ∀ {i : Nat}, i ≤ (pieces text).length →
      (pieceStart (piecesAfter ws (pieces text)) i : Int) = pieceStart (pieces text) i +
        ((ws.filter fun w => decide (w.site.index + 1 < i)).map growth).sum
  | [], _, _, i, _ => by simp [piecesAfter_nil]
  | w :: ws, h, hnd, i, hi => by
    rw [List.map_cons, List.nodup_cons] at hnd
    obtain ⟨hnew, hnd⟩ := hnd
    have ih := (h.of_subset (List.subset_cons_self w ws)).pieceStart_piecesAfter hnd hi
    have hlt := h.index_lt List.mem_cons_self
    obtain ⟨htw, name', hn', hat⟩ := h.isAt w List.mem_cons_self
    have hold : (piecesAfter ws (pieces text)).getD (w.site.index + 1) [] = w.site.value := by
      rw [getD_piecesAfter ws (by omega), pieceAfter_of_forall_ne, hat.value_eq hn'.quote_notMem,
        htw]
      intro w' hw' he
      exact hnew (List.mem_map.2 ⟨w', hw', by omega⟩)
    have hi' : i ≤ (piecesAfter ws (pieces text)).length := by rwa [length_piecesAfter]
    have hj : w.site.index + 1 < (piecesAfter ws (pieces text)).length := by
      rw [length_piecesAfter]
      omega
    rw [piecesAfter_cons, Text.pieceStart_set hi' hj, ih, hold, List.filter_cons]
    by_cases hwi : w.site.index + 1 < i
    · simp only [hwi, decide_true, if_true, List.map_cons, List.sum_cons, growth]
      omega
    · simp [hwi]

theorem place_carry (h : Fit text ws) (hnd : (ws.map (·.site.index)).Nodup) (hq : '"' ∉ name)
    (ht : s.text = text) (hs : IsAt name s) (ho : ∀ w ∈ ws, w.site.index + 1 ≠ s.index) :
    ((carry ws s).place : Int) = s.place + shift ws s.place := by
  obtain ⟨hlt, -, -⟩ := hs.opens hq
  have hplace := hs.place_eq hq
  have hcarry : (carry ws s).place =
      pieceStart (piecesAfter ws (pieces s.text)) s.index + byteLength s.inner := by
    rw [carry, siteAt, Site.place, Text.byteLength_append, pieceStart]
  have hbefore : ws.filter (fun w => decide (w.site.stop ≤ s.place)) =
      ws.filter fun w => decide (w.site.index + 1 < s.index) := by
    refine List.filter_congr fun w hw => ?_
    obtain ⟨htw, name', hn', hat⟩ := h.isAt w hw
    rw [decide_eq_decide]
    exact hat.stop_le_place_iff hs (htw.trans ht.symm) hn'.quote_notMem hq (Ne.symm (ho w hw))
  rw [ht] at hlt hplace hcarry
  have hstart := h.pieceStart_piecesAfter hnd (i := s.index) (by omega)
  rw [shift, hbefore]
  omega

end Fit

end Write
end ReleaseStamp
