import Mathlib.Data.List.Find
import ReleaseStamp.Proofs.Declaration.Order
import ReleaseStamp.Proofs.Text.Replacement
/-!
# Writes

New values for declarations of one text, put in all at once.  A declaration's value is a piece of
the text, so the text with the writes in it has the same pieces but for the values written
(`pieces_textAfter`).  Of two writes to one declaration the first in the list counts.
-/
namespace ReleaseStamp

open Text (byteLength pieces joined closed pieceStart replaceFrom)
open Declaration (IsAt IsName)

structure Write where
  /-- The declaration in the text before all writes. -/
  site : Site
  value : Text
  deriving DecidableEq

namespace Write

def replacement (w : Write) : Replacement := ⟨w.site.start, w.site.stop, w.value⟩

def textAfter (ws : List Write) (text : Text) : Text := text.replaceAll (ws.map replacement)

/-- What becomes of the piece of number `i`. -/
def pieceAfter (ws : List Write) (i : Nat) (piece : Text) : Text :=
  ((ws.find? (·.site.index + 1 == i)).map Write.value).getD piece

def piecesAfter (ws : List Write) (ps : List Text) : List Text := ps.mapIdx (pieceAfter ws)

/-- The writes go to declarations of the text, and what they write has no quote and no blank. -/
structure Fit (text : Text) (ws : List Write) : Prop where
  isAt : ∀ w ∈ ws, w.site.text = text ∧ ∃ name, IsName name ∧ IsAt name w.site
  isBare : ∀ w ∈ ws, w.value.IsBare

theorem pieceAfter_of_forall_ne {ws : List Write} {i : Nat} (h : ∀ w ∈ ws, w.site.index + 1 ≠ i)
    (piece : Text) : pieceAfter ws i piece = piece := by
  have hf : ws.find? (·.site.index + 1 == i) = none :=
    List.find?_eq_none.2 fun w hw => by simpa using h w hw
  rw [pieceAfter, hf]
  rfl

theorem pieceAfter_of_find? {ws : List Write} {i : Nat} {w : Write}
    (h : ws.find? (·.site.index + 1 == i) = some w) (piece : Text) :
    pieceAfter ws i piece = w.value := by
  rw [pieceAfter, h]
  rfl

theorem pieceAfter_eq_or (ws : List Write) (i : Nat) (piece : Text) :
    (pieceAfter ws i piece = piece ∧ ∀ w ∈ ws, w.site.index + 1 ≠ i) ∨
      ∃ w ∈ ws, w.site.index + 1 = i ∧ pieceAfter ws i piece = w.value := by
  cases hf : ws.find? (·.site.index + 1 == i) with
  | none =>
    have hne : ∀ w ∈ ws, w.site.index + 1 ≠ i := fun w hw => by
      simpa using List.find?_eq_none.1 hf w hw
    exact .inl ⟨pieceAfter_of_forall_ne hne piece, hne⟩
  | some w =>
    exact .inr ⟨w, List.mem_of_find?_eq_some hf, by simpa using List.find?_some hf,
      pieceAfter_of_find? hf piece⟩

@[simp] theorem length_piecesAfter (ws : List Write) (ps : List Text) :
    (piecesAfter ws ps).length = ps.length := List.length_mapIdx

theorem getD_piecesAfter (ws : List Write) {ps : List Text} {i : Nat} (hi : i < ps.length) :
    (piecesAfter ws ps).getD i [] = pieceAfter ws i (ps.getD i []) := by
  rw [List.getD_eq_getElem _ _ (by simpa using hi), List.getD_eq_getElem _ _ hi]
  exact List.getElem_mapIdx

theorem piecesAfter_nil (ps : List Text) : piecesAfter [] ps = ps :=
  List.mapIdx_eq_iff.2 fun i => by cases ps[i]? <;> rfl

theorem piecesAfter_cons (w : Write) (ws : List Write) (ps : List Text) :
    piecesAfter (w :: ws) ps = (piecesAfter ws ps).set (w.site.index + 1) w.value := by
  apply List.ext_getElem (by simp)
  intro i hi hi'
  rw [List.getElem_set]
  simp only [piecesAfter, List.getElem_mapIdx, pieceAfter, List.find?_cons]
  by_cases hw : w.site.index + 1 = i
  · simp [hw]
  · rw [beq_eq_false_iff_ne.2 hw, if_neg hw]

namespace Fit

variable {text : Text} {ws : List Write}

theorem nil (text : Text) : Fit text [] :=
  ⟨fun _ h => absurd h List.not_mem_nil, fun _ h => absurd h List.not_mem_nil⟩

theorem index_lt (h : Fit text ws) {w : Write} (hw : w ∈ ws) :
    w.site.index + 2 < (pieces text).length := by
  obtain ⟨rfl, name, hn, hat⟩ := h.isAt w hw
  exact (hat.opens hn.quote_notMem).1

/-- A write fills the piece that is its own and has nothing to do with any other. -/
theorem start_eq_or_isAside (h : Fit text ws) {w : Write} (hw : w ∈ ws) {i : Nat}
    (hi : i < (pieces text).length) :
    (w.site.index + 1 = i ∧ w.site.start = pieceStart (pieces text) i ∧
        w.site.stop = pieceStart (pieces text) i + byteLength ((pieces text).getD i [])) ∨
      (w.site.index + 1 ≠ i ∧ w.replacement.IsAside (pieceStart (pieces text) i)
        (pieceStart (pieces text) i + byteLength ((pieces text).getD i []) + 1)) := by
  have hlt := h.index_lt hw
  obtain ⟨rfl, name, hn, hat⟩ := h.isAt w hw
  have hstart := hat.start_eq hn.quote_notMem
  have hstop := hat.stop_eq hn.quote_notMem
  rcases Nat.lt_trichotomy (w.site.index + 1) i with hj | hj | hj
  · have := Text.pieceStart_le (pieces w.site.text) (by omega) hj
    exact .inr ⟨by omega, .inl (by simp only [replacement]; omega)⟩
  · rw [← hj]
    exact .inl ⟨rfl, hstart, hstop⟩
  · have := Text.pieceStart_le (pieces w.site.text) hi hj
    exact .inr ⟨by omega, .inr (by simp only [replacement]; omega)⟩

theorem replaceFrom_last (h : Fit text ws) {i : Nat} (hi : i + 1 = (pieces text).length) :
    replaceFrom (ws.map replacement) (pieceStart (pieces text) i) ((pieces text).getD i []) =
      pieceAfter ws i ((pieces text).getD i []) := by
  have hne : ∀ w ∈ ws, w.site.index + 1 ≠ i := fun w hw => by
    have := h.index_lt hw
    omega
  have haside : ∀ r ∈ ws.map replacement, r.IsAside (pieceStart (pieces text) i)
      (pieceStart (pieces text) i + byteLength ((pieces text).getD i []) + 1) := fun r hr => by
    obtain ⟨w, hw, rfl⟩ := List.mem_map.1 hr
    rcases h.start_eq_or_isAside hw (i := i) (by omega) with hc | hc
    · exact absurd hc.1 (hne w hw)
    · exact hc.2
  have hkeep := Text.replaceFrom_append_of_isAside ((pieces text).getD i []) []
    fun r hr => (haside r hr).imp id (by omega)
  have hend : ∀ r ∈ ws.map replacement, r.start ≠
      pieceStart (pieces text) i + byteLength ((pieces text).getD i []) := fun r hr => by
    rcases haside r hr with hr | hr <;> omega
  rw [List.append_nil, Text.replaceFrom_nil hend, List.append_nil] at hkeep
  rw [hkeep, pieceAfter_of_forall_ne hne]

theorem replaceFrom_append_quote (h : Fit text ws) {i : Nat} (hi : i < (pieces text).length)
    (u : Text) :
    replaceFrom (ws.map replacement) (pieceStart (pieces text) i)
        ((pieces text).getD i [] ++ '"' :: u) =
      pieceAfter ws i ((pieces text).getD i []) ++
        '"' :: replaceFrom (ws.map replacement) (pieceStart (pieces text) (i + 1)) u := by
  have hquote : ('"' : Char).utf8Size = 1 := by decide
  have hcases := fun w hw => h.start_eq_or_isAside (w := w) hw hi
  rw [Text.pieceStart_succ hi]
  -- a piece that no write goes to is passed over, and any other one gives way as a whole
  cases hf : ws.find? (·.site.index + 1 == i) with
  | none =>
    have hne : ∀ w ∈ ws, w.site.index + 1 ≠ i := fun w hw => by
      simpa using List.find?_eq_none.1 hf w hw
    have haside : ∀ r ∈ ws.map replacement, r.IsAside (pieceStart (pieces text) i)
        (pieceStart (pieces text) i + byteLength ((pieces text).getD i [] ++ ['"'])) :=
      fun r hr => by
        obtain ⟨w, hw, rfl⟩ := List.mem_map.1 hr
        rcases hcases w hw with hc | hc
        · exact absurd hc.1 (hne w hw)
        · simpa [hquote, Nat.add_assoc] using hc.2
    rw [pieceAfter_of_forall_ne hne]
    simpa [hquote, Nat.add_assoc] using Text.replaceFrom_append_of_isAside _ u haside
  | some w =>
    have hstart : ∀ w ∈ ws, (replacement w).start = pieceStart (pieces text) i ↔
        w.site.index + 1 = i := fun w hw => by
      rcases hcases w hw with hc | ⟨hne, hc⟩
      · exact ⟨fun _ => hc.1, fun _ => hc.2.1⟩
      · refine ⟨fun he => ?_, fun he => absurd he hne⟩
        rcases hc with hc | hc <;> omega
    have hfind : (ws.map replacement).find? (·.start == pieceStart (pieces text) i) =
        some w.replacement := by
      have hcongr : ∀ w ∈ ws, ((·.start == pieceStart (pieces text) i) ∘ replacement) w =
          (w.site.index + 1 == i) := fun w hw => by
        rw [Function.comp_apply, Bool.eq_iff_iff, beq_iff_eq, beq_iff_eq]
        exact hstart w hw
      rw [List.find?_map, List.find?_congr hcongr, hf]
      rfl
    have hput := Text.replaceFrom_append_cons hfind (t := (pieces text).getD i []) (u := u)
      (c := '"') fun r hr => by
        obtain ⟨w', hw', rfl⟩ := List.mem_map.1 hr
        rcases hcases w' hw' with hc | hc
        · exact .inl hc.2
        · exact .inr (by rw [hquote]; exact hc.2)
    rw [hput, pieceAfter_of_find? hf, hquote]
    rfl

theorem replaceFrom_joined (h : Fit text ws) {i : Nat} (hi : i < (pieces text).length) :
    replaceFrom (ws.map replacement) (pieceStart (pieces text) i)
        (joined ((pieces text).drop i)) =
      joined ((piecesAfter ws (pieces text)).drop i) := by
  have hi' : i < (piecesAfter ws (pieces text)).length := by simpa using hi
  rw [List.drop_eq_getElem_cons hi, List.drop_eq_getElem_cons hi',
    ← List.getD_eq_getElem _ [] hi, ← List.getD_eq_getElem _ [] hi', getD_piecesAfter ws hi]
  by_cases hlast : i + 1 = (pieces text).length
  · rw [List.drop_eq_nil_of_le (by omega), List.drop_eq_nil_of_le (by simp; omega)]
    simpa [joined] using h.replaceFrom_last hlast
  · have hne : (pieces text).drop (i + 1) ≠ [] := by
      rw [Ne, List.drop_eq_nil_iff]
      omega
    have hne' : (piecesAfter ws (pieces text)).drop (i + 1) ≠ [] := by
      rw [Ne, List.drop_eq_nil_iff, length_piecesAfter]
      omega
    rw [Text.joined_cons _ hne, Text.joined_cons _ hne', h.replaceFrom_append_quote hi,
      h.replaceFrom_joined (i := i + 1) (by omega)]
termination_by (pieces text).length - i

theorem textAfter_eq_joined (h : Fit text ws) :
    textAfter ws text = joined (piecesAfter ws (pieces text)) := by
  have := h.replaceFrom_joined (List.length_pos_iff.2 (Text.pieces_ne_nil text))
  rwa [List.drop_zero, List.drop_zero, Text.joined_pieces] at this

theorem pieces_textAfter (h : Fit text ws) :
    pieces (textAfter ws text) = piecesAfter ws (pieces text) := by
  rw [h.textAfter_eq_joined]
  refine Text.pieces_joined (fun hnil => ?_) fun p hp => ?_
  · exact Text.pieces_ne_nil text (List.mapIdx_eq_nil_iff.1 hnil)
  · obtain ⟨i, hi, rfl⟩ := List.mem_mapIdx.1 hp
    rcases pieceAfter_eq_or ws i (pieces text)[i] with ⟨he, -⟩ | ⟨w, hw, -, he⟩
    · rw [he]
      exact Text.quote_notMem_of_mem_pieces (List.getElem_mem hi)
    · rw [he]
      exact (h.isBare w hw).quote_notMem

end Fit

theorem textAfter_nil (text : Text) : textAfter [] text = text := by
  rw [(Fit.nil text).textAfter_eq_joined, piecesAfter_nil, Text.joined_pieces]

end Write
end ReleaseStamp
