import Mathlib.Data.List.GetD
import ReleaseStamp.Text.Basic
/-!
# Pieces

The quotes of a text cut it into pieces, and a quote closes each piece but the last.  A text and its
pieces decide each other (`joined_pieces`, `pieces_joined`), so a change to one piece changes
nothing else of the text.  `pieceStart` is the byte at which a piece begins.
-/
namespace ReleaseStamp.Text

/-- What stands between the quotes. -/
def pieces (t : Text) : List Text := t.splitOn '"'

/-- The text that has the pieces. -/
def joined (ps : List Text) : Text := ['"'].intercalate ps

/-- The pieces, each with the quote that closes it. -/
def closed (ps : List Text) : Text := ps.flatMap (· ++ ['"'])

def pieceStart (ps : List Text) (i : Nat) : Nat := byteLength (closed (ps.take i))

theorem joined_pieces (t : Text) : joined (pieces t) = t := List.intercalate_splitOn _

theorem pieces_joined {ps : List Text} (hne : ps ≠ []) (hq : ∀ p ∈ ps, '"' ∉ p) :
    pieces (joined ps) = ps := List.splitOn_intercalate _ hq hne

theorem pieces_ne_nil (t : Text) : pieces t ≠ [] := List.splitOn_ne_nil _ _

theorem joined_cons (p : Text) {ps : List Text} (hne : ps ≠ []) :
    joined (p :: ps) = p ++ '"' :: joined ps := by
  rw [joined, List.intercalate_cons_of_ne_nil hne]
  simp [joined]

theorem joined_append {qs : List Text} (hne : qs ≠ []) : ∀ ps : List Text,
    joined (ps ++ qs) = closed ps ++ joined qs
  | [] => rfl
  | p :: ps => by
    rw [List.cons_append, joined_cons p (by simp [hne]), joined_append hne ps]
    simp [closed]

theorem quote_notMem_of_mem_pieces : ∀ {t p : Text}, p ∈ pieces t → '"' ∉ p
  | [], p, h => by
    have hp : p = [] := by simpa [pieces] using h
    simp [hp]
  | c :: t, p, h => by
    rw [pieces, List.splitOn_cons_eq_if_modifyHead] at h
    split at h
    · rcases List.mem_cons.1 h with rfl | h
      · simp
      · exact quote_notMem_of_mem_pieces h
    · rename_i hc
      have hc : '"' ≠ c := fun e => hc (beq_iff_eq.2 e.symm)
      obtain ⟨q, qs, hqs⟩ := List.exists_cons_of_ne_nil (pieces_ne_nil t)
      have hqs' : t.splitOn '"' = q :: qs := hqs
      rw [hqs', List.modifyHead_cons] at h
      rcases List.mem_cons.1 h with rfl | h
      · have hq : '"' ∉ q := quote_notMem_of_mem_pieces (by rw [hqs]; simp)
        simpa [hc] using hq
      · exact quote_notMem_of_mem_pieces (by rw [hqs]; simp [h])

@[simp] theorem closed_append (ps qs : List Text) : closed (ps ++ qs) = closed ps ++ closed qs :=
  List.flatMap_append

@[simp] theorem closed_singleton (p : Text) : closed [p] = p ++ ['"'] := by simp [closed]

theorem count_closed : ∀ {ps : List Text}, (∀ p ∈ ps, '"' ∉ p) →
    (closed ps).count '"' = ps.length
  | [], _ => rfl
  | p :: ps, h => by
    have hp : p.count '"' = 0 := List.count_eq_zero.2 (h p (by simp))
    have ih := count_closed fun q hq => h q (List.mem_cons_of_mem p hq)
    rw [← List.singleton_append, closed_append, List.count_append, ih]
    simp [hp, Nat.add_comm]

theorem closed_dropLast_pieces (t : Text) :
    closed (pieces t).dropLast ++ (pieces t).getLast (pieces_ne_nil t) = t := by
  have hcut := List.dropLast_concat_getLast (pieces_ne_nil t)
  have hjoin := joined_append (List.cons_ne_nil ((pieces t).getLast (pieces_ne_nil t)) [])
    (pieces t).dropLast
  rw [hcut, joined_pieces] at hjoin
  simpa [joined] using hjoin.symm

theorem length_dropLast_pieces (t : Text) : (pieces t).dropLast.length = t.count '"' := by
  have hclean : ∀ p ∈ (pieces t).dropLast, '"' ∉ p := fun p hp =>
    quote_notMem_of_mem_pieces (List.dropLast_subset _ hp)
  have hlast := quote_notMem_of_mem_pieces (List.getLast_mem (pieces_ne_nil t))
  have hcount := congrArg (List.count '"') (closed_dropLast_pieces t)
  rwa [List.count_append, count_closed hclean, List.count_eq_zero.2 hlast, Nat.add_zero] at hcount

theorem pieceStart_succ {ps : List Text} {i : Nat} (h : i < ps.length) :
    pieceStart ps (i + 1) = pieceStart ps i + byteLength (ps.getD i []) + 1 := by
  have hq : ('"' : Char).utf8Size = 1 := by decide
  simp only [pieceStart, List.take_succ_eq_append_getElem h, List.getD_eq_getElem _ _ h,
    closed_append, closed_singleton, byteLength_append, byteLength_cons, byteLength_nil, hq]
  omega

theorem pieceStart_le (ps : List Text) {i j : Nat} (hi : i < ps.length) (hij : i < j) :
    pieceStart ps i + byteLength (ps.getD i []) + 1 ≤ pieceStart ps j := by
  rw [← pieceStart_succ hi]
  have htake : ps.take j = ps.take (i + 1) ++ (ps.drop (i + 1)).take (j - (i + 1)) := by
    rw [← List.take_add, Nat.add_sub_cancel' hij]
  rw [pieceStart, pieceStart, htake, closed_append, byteLength_append]
  omega

theorem pieceStart_set {ps : List Text} {j : Nat} {v : Text} : ∀ {i : Nat}, i ≤ ps.length →
    j < ps.length → (pieceStart (ps.set j v) i : Int) = pieceStart ps i +
      if j < i then (byteLength v : Int) - byteLength (ps.getD j []) else 0
  | 0, _, _ => by simp [pieceStart]
  | i + 1, hi, hj => by
    have ih := pieceStart_set (v := v) (Nat.le_of_succ_le hi) hj
    have hi' : i < (ps.set j v).length := by rw [List.length_set]; exact hi
    rw [pieceStart_succ hi', pieceStart_succ hi]
    by_cases hij : j = i
    · subst hij
      rw [if_neg (Nat.lt_irrefl j)] at ih
      rw [if_pos (Nat.lt_succ_self j), List.getD_eq_getElem _ _ (by simpa using hj),
        List.getElem_set_self]
      omega
    · have hkeep : (ps.set j v).getD i [] = ps.getD i [] := by
        rw [List.getD_eq_getElem _ _ hi', List.getD_eq_getElem _ _ hi, List.getElem_set_ne hij]
      have hlt : (j < i + 1) = (j < i) := propext ⟨by omega, by omega⟩
      simp only [hkeep, hlt]
      omega

theorem quote_notMem_getD_pieces (t : Text) (i : Nat) : '"' ∉ (pieces t).getD i [] := by
  by_cases hi : i < (pieces t).length
  · rw [List.getD_eq_getElem _ _ hi]
    exact quote_notMem_of_mem_pieces (List.getElem_mem hi)
  · rw [List.getD_eq_default _ _ (Nat.le_of_not_lt hi)]
    simp

theorem joined_set {ps : List Text} {i : Nat} (hi : i + 2 < ps.length) (v : Text) :
    joined (ps.set (i + 1) v) =
      closed (ps.take i) ++ (ps.getD i [] ++ '"' :: (v ++ '"' :: joined (ps.drop (i + 2)))) := by
  have hcut : ps.set (i + 1) v = ps.take i ++ ps.getD i [] :: v :: ps.drop (i + 2) := by
    rw [List.set_eq_take_append_cons_drop, if_pos (by omega),
      List.take_succ_eq_append_getElem (by omega), List.getD_eq_getElem _ _ (by omega),
      List.append_assoc, List.singleton_append]
  have hrest : ps.drop (i + 2) ≠ [] := by
    rw [Ne, List.drop_eq_nil_iff]
    omega
  rw [hcut, joined_append (by simp), joined_cons _ (by simp), joined_cons _ hrest]

end ReleaseStamp.Text
