import ReleaseStamp.Text.CodeSet
/-!
# Sets of characters

The operations on sets of characters do to the lists of ranges what they should do to the
characters, and leave the lists in the one form that a set has (`IsCanonical.ext`).  The surrogates
are looked over: a number counts here only if it is the code of a character.
-/
namespace ReleaseStamp.Text

/-- A range of characters that is not empty. -/
structure CodeRange.IsProper (r : CodeRange) : Prop where
  first_le_last : r.first ≤ r.last
  isValidChar_first : r.first.isValidChar
  isValidChar_last : r.last.isValidChar

namespace CodeSet

/-- The form of a set: its ranges ascend, and between any two there is a character. -/
structure IsCanonical (s : CodeSet) : Prop where
  isProper : ∀ r ∈ s, r.IsProper
  apart : s.Pairwise fun r q => succ r.last < q.first

variable {n start : Nat} {r : CodeRange} {s t : CodeSet} {rs : List CodeRange}

theorem succ_le_iff {k : Nat} (hn : n.isValidChar) : succ k ≤ n ↔ k < n := by
  unfold Nat.isValidChar at hn
  unfold succ
  split <;> omega

theorem le_pred_iff {k : Nat} (hn : n.isValidChar) (h : 0 < k) : n ≤ pred k ↔ n < k := by
  unfold Nat.isValidChar at hn
  unfold pred
  split <;> omega

theorem has_iff : has s n = true ↔ ∃ r ∈ s, r.first ≤ n ∧ n ≤ r.last := by simp [has]

theorem has_cons : has (r :: s) n = true ↔ (r.first ≤ n ∧ n ≤ r.last) ∨ has s n = true := by
  simp [has]

theorem IsCanonical.tail (h : IsCanonical (r :: s)) : IsCanonical s :=
  ⟨fun q hq => h.isProper q (List.mem_cons_of_mem r hq), (List.pairwise_cons.1 h.apart).2⟩

theorem IsCanonical.succ_last_lt (h : IsCanonical (r :: s)) (hn : has s n = true) :
    succ r.last < n := by
  obtain ⟨q, hq, hfirst, -⟩ := has_iff.1 hn
  exact Nat.lt_of_lt_of_le ((List.pairwise_cons.1 h.apart).1 q hq) hfirst

/-! ## Ranges are joined -/

theorem meet_cons (q r : CodeRange) (before : List CodeRange) :
    join.meet (q :: before) r =
      if r.first ≤ succ q.last then ⟨q.first, max q.last r.last⟩ :: before
      else r :: q :: before := rfl

theorem has_meet (hv : n.isValidChar) (h : ∀ q ∈ rs, q.first ≤ r.first) :
    has (join.meet rs r) n = true ↔ has rs n = true ∨ (r.first ≤ n ∧ n ≤ r.last) := by
  cases rs with
  | nil => simp [join.meet, has]
  | cons q before =>
    have hfirst := h q List.mem_cons_self
    rw [meet_cons]
    split
    · rename_i hle
      have hnext := succ_le_iff (k := q.last) hv
      simp only [has_cons]
      constructor
      · rintro (⟨h1, h2⟩ | hb)
        · by_cases hq : n ≤ q.last
          · exact .inl (.inl ⟨h1, hq⟩)
          · exact .inr ⟨by omega, by omega⟩
        · exact .inl (.inr hb)
      · rintro ((⟨h1, h2⟩ | hb) | ⟨h1, h2⟩)
        · exact .inl ⟨h1, by omega⟩
        · exact .inr hb
        · exact .inl ⟨by omega, by omega⟩
    · rw [has_cons, or_comm]

/-- What has been joined stays in form, the other way round, and no range begins after the last that
was joined. -/
theorem isCanonical_meet (hs : IsCanonical rs.reverse) (hr : r.IsProper)
    (h : ∀ q ∈ rs, q.first ≤ r.first) :
    IsCanonical (join.meet rs r).reverse ∧ ∀ q ∈ join.meet rs r, q.first ≤ r.first := by
  have hproper (q : CodeRange) (hq : q ∈ rs) : q.IsProper :=
    hs.isProper q (List.mem_reverse.2 hq)
  have hapart := List.pairwise_reverse.1 hs.apart
  have hcanonical {l : List CodeRange} (hl : ∀ q ∈ l, q.IsProper)
      (hl' : l.Pairwise fun q r => succ r.last < q.first) : IsCanonical l.reverse :=
    ⟨fun q hq => hl q (List.mem_reverse.1 hq), List.pairwise_reverse.2 hl'⟩
  cases rs with
  | nil => exact ⟨hcanonical (by simpa [join.meet] using hr) (by simp [join.meet]),
      by simp [join.meet]⟩
  | cons q before =>
    obtain ⟨hq, hbefore⟩ := List.forall_mem_cons.1 hproper
    obtain ⟨hfirst, hfirst'⟩ := List.forall_mem_cons.1 h
    obtain ⟨hq', hbefore'⟩ := List.pairwise_cons.1 hapart
    rw [meet_cons]
    -- the range is joined to the last one, which begins no later, or stands apart from all of them
    split
    · refine ⟨hcanonical (List.forall_mem_cons.2 ⟨⟨?_, hq.isValidChar_first, ?_⟩, hbefore⟩)
        (List.pairwise_cons.2 ⟨hq', hbefore'⟩), List.forall_mem_cons.2 ⟨hfirst, hfirst'⟩⟩
      · exact Nat.le_trans hq.first_le_last (Nat.le_max_left _ _)
      · rcases Nat.le_total q.last r.last with hle | hle
        · rw [Nat.max_eq_right hle]
          exact hr.isValidChar_last
        · rw [Nat.max_eq_left hle]
          exact hq.isValidChar_last
    · rename_i hlt
      refine ⟨hcanonical (List.forall_mem_cons.2 ⟨hr, List.forall_mem_cons.2 ⟨hq, hbefore⟩⟩)
        (List.pairwise_cons.2 ⟨List.forall_mem_cons.2 ⟨Nat.lt_of_not_le hlt, fun p hp => ?_⟩,
          hapart⟩), List.forall_mem_cons.2 ⟨Nat.le_refl _, h⟩⟩
      exact Nat.lt_of_lt_of_le (hq' p hp) hfirst

theorem foldl_meet : ∀ {rs before : List CodeRange}, IsCanonical before.reverse →
    (∀ r ∈ rs, r.IsProper) → (rs.Pairwise fun r q => r.first ≤ q.first) →
    (∀ q ∈ before, ∀ r ∈ rs, q.first ≤ r.first) →
    IsCanonical (rs.foldl join.meet before).reverse ∧ ∀ n, n.isValidChar →
      (has (rs.foldl join.meet before) n = true ↔ has before n = true ∨ has rs n = true)
  | [], before, hb, _, _, _ => ⟨hb, fun n _ => by simp [has]⟩
  | r :: rs, before, hb, hproper, hsorted, hle => by
    obtain ⟨hr, hrs⟩ := List.forall_mem_cons.1 hproper
    obtain ⟨hfirst, hsorted⟩ := List.pairwise_cons.1 hsorted
    have hbr := fun q hq => hle q hq r List.mem_cons_self
    obtain ⟨hcanonical, hmeet⟩ := isCanonical_meet hb hr hbr
    obtain ⟨h, hhas⟩ := foldl_meet hcanonical hrs hsorted
      fun q hq p hp => Nat.le_trans (hmeet q hq) (hfirst p hp)
    refine ⟨h, fun n hv => ?_⟩
    rw [List.foldl_cons, hhas n hv, has_meet hv hbr, has_cons, or_assoc]

theorem join_spec (h : ∀ r ∈ rs, r.IsProper) (hsorted : rs.Pairwise fun r q => r.first ≤ q.first) :
    IsCanonical (join rs) ∧ ∀ n, n.isValidChar → has (join rs) n = has rs n := by
  have hnil : IsCanonical ([] : CodeSet).reverse := ⟨by simp, by simp⟩
  obtain ⟨hcanonical, hhas⟩ := foldl_meet hnil h hsorted (by simp)
  refine ⟨hcanonical, fun n hv => Bool.eq_iff_iff.2 ?_⟩
  have hreverse : has (join rs) n = has (rs.foldl join.meet []) n := by
    rw [join, has, List.any_reverse, has]
  rw [hreverse, hhas n hv]
  simp [has]

theorem ofRanges_spec (h : ∀ r ∈ rs, r.IsProper) :
    IsCanonical (ofRanges rs) ∧ ∀ n, n.isValidChar → has (ofRanges rs) n = has rs n := by
  have hperm := List.mergeSort_perm rs fun a b => decide (a.first ≤ b.first)
  have hsorted : (rs.mergeSort fun a b => decide (a.first ≤ b.first)).Pairwise
      fun a b => decide (a.first ≤ b.first) = true := by
    refine List.pairwise_mergeSort (fun a b c hab hbc => ?_) (fun a b => ?_) rs
    · simp only [decide_eq_true_eq] at hab hbc ⊢
      omega
    · simp only [Bool.or_eq_true, decide_eq_true_eq]
      omega
  obtain ⟨hcanonical, hhas⟩ := join_spec (fun r hr => h r (hperm.mem_iff.1 hr))
    (hsorted.imp fun h => of_decide_eq_true h)
  refine ⟨hcanonical, fun n hv => (hhas n hv).trans ?_⟩
  exact hperm.any_eq

/-- **Ranges in any order make a set.** -/
theorem isCanonical_ofRanges (h : ∀ r ∈ rs, r.IsProper) : IsCanonical (ofRanges rs) :=
  (ofRanges_spec h).1

theorem has_ofRanges (h : ∀ r ∈ rs, r.IsProper) (hv : n.isValidChar) :
    has (ofRanges rs) n = has rs n :=
  (ofRanges_spec h).2 n hv

/-! ## What lies between -/

theorem has_gaps (hv : n.isValidChar) : ∀ {s : CodeSet} {start : Nat}, IsCanonical s →
    (∀ r ∈ s, start ≤ r.first) → (has (gaps start s) n = true ↔ start ≤ n ∧ has s n = false)
  | [], start, _, _ => by
    have hlast : n ≤ lastCode := by
      unfold Nat.isValidChar at hv
      unfold lastCode
      omega
    rw [gaps]
    split
    · simp [has, hlast]
    · rename_i hstart
      exact iff_of_false (by simp [has]) fun h => hstart (Nat.le_trans h.1 hlast)
  | r :: s, start, hs, hstart => by
    have hr := hs.isProper r List.mem_cons_self
    have hbeyond : ∀ q ∈ s, succ r.last ≤ q.first :=
      fun q hq => Nat.le_of_lt ((List.pairwise_cons.1 hs.apart).1 q hq)
    have ih := has_gaps hv hs.tail hbeyond
    have hnext := succ_le_iff (k := r.last) hv
    have hle := hr.first_le_last
    have hstart := hstart r List.mem_cons_self
    -- what is in a later range lies beyond this one
    have hlater : has s n = true → succ r.last < n := hs.succ_last_lt
    rw [← Bool.not_eq_true, has_cons, gaps]
    rw [← Bool.not_eq_true] at ih
    split
    · rename_i hlt
      have hprev := le_pred_iff (k := r.first) hv (by omega)
      rw [has_cons, ih, hprev]
      by_cases hin : has s n = true
      · have := hlater hin
        simp only [hin, not_true_eq_false, and_false, or_true, or_false, iff_false, not_and]
        omega
      · simp only [hin, Bool.false_eq_true, not_false_eq_true, and_true, or_false]
        omega
    · rw [ih]
      by_cases hin : has s n = true
      · simp [hin]
      · simp only [hin, Bool.false_eq_true, not_false_eq_true, and_true, or_false]
        omega

theorem isCanonical_gaps : ∀ {s : CodeSet} {start : Nat}, IsCanonical s →
    (∀ r ∈ s, start ≤ r.first) → (start.isValidChar ∨ lastCode < start) →
    IsCanonical (gaps start s) ∧ ∀ r ∈ gaps start s, start ≤ r.first
  | [], start, _, _, hv => by
    rw [gaps]
    split
    · rename_i hle
      have hstart : start.isValidChar := hv.resolve_right (by omega)
      have hlast : lastCode.isValidChar := by decide
      exact ⟨⟨by simpa using ⟨hle, hstart, hlast⟩, by simp⟩, by simp⟩
    · exact ⟨⟨by simp, by simp⟩, by simp⟩
  | r :: s, start, hs, hstart, hv => by
    have hr := hs.isProper r List.mem_cons_self
    have hnext : (succ r.last).isValidChar ∨ lastCode < succ r.last := by
      have := hr.isValidChar_last
      unfold Nat.isValidChar lastCode succ at *
      split <;> omega
    obtain ⟨hgaps, hfirst⟩ := isCanonical_gaps hs.tail
      (fun q hq => Nat.le_of_lt ((List.pairwise_cons.1 hs.apart).1 q hq)) hnext
    have hlt : r.last < succ r.last := by
      unfold succ
      split <;> omega
    have hle := hr.first_le_last
    have hstart := hstart r List.mem_cons_self
    rw [gaps]
    split
    · rename_i hlt'
      have hvalid := hr.isValidChar_first
      have hstart' : start.isValidChar := hv.resolve_right (by
        unfold Nat.isValidChar lastCode at *
        omega)
      have hprev : start ≤ pred r.first := (le_pred_iff hstart' (by omega)).2 hlt'
      -- a range that begins with a character has one before it, be it across the surrogates
      have hbefore : (pred r.first).isValidChar ∧ succ (pred r.first) = r.first := by
        unfold Nat.isValidChar pred succ at *
        split <;> split <;> omega
      refine ⟨⟨List.forall_mem_cons.2 ⟨⟨hprev, hstart', hbefore.1⟩, hgaps.isProper⟩,
        List.pairwise_cons.2 ⟨fun q hq => ?_, hgaps.apart⟩⟩,
        List.forall_mem_cons.2 ⟨Nat.le_refl _, fun q hq => ?_⟩⟩
      · have := hfirst q hq
        rw [hbefore.2]
        omega
      · have := hfirst q hq
        omega
    · exact ⟨hgaps, fun q hq => by have := hfirst q hq; omega⟩

/-! ## The operations -/

theorem IsCanonical.complement (hs : IsCanonical s) : IsCanonical (complement s) :=
  (isCanonical_gaps hs (fun _ _ => Nat.zero_le _) (.inl (by decide))).1

theorem has_complement (hs : IsCanonical s) (hv : n.isValidChar) :
    has (complement s) n = !has s n := by
  rw [Bool.eq_iff_iff, complement, has_gaps hv hs fun _ _ => Nat.zero_le _]
  simp

theorem IsCanonical.union (hs : IsCanonical s) (ht : IsCanonical t) : IsCanonical (union s t) :=
  isCanonical_ofRanges (List.forall_mem_append.2 ⟨hs.isProper, ht.isProper⟩)

theorem has_union (hs : IsCanonical s) (ht : IsCanonical t) (hv : n.isValidChar) :
    has (union s t) n = (has s n || has t n) := by
  rw [union, has_ofRanges (List.forall_mem_append.2 ⟨hs.isProper, ht.isProper⟩) hv]
  exact List.any_append

theorem IsCanonical.inter (hs : IsCanonical s) (ht : IsCanonical t) : IsCanonical (inter s t) :=
  (hs.complement.union ht.complement).complement

theorem has_inter (hs : IsCanonical s) (ht : IsCanonical t) (hv : n.isValidChar) :
    has (inter s t) n = (has s n && has t n) := by
  rw [inter, has_complement (hs.complement.union ht.complement) hv,
    has_union hs.complement ht.complement hv, has_complement hs hv, has_complement ht hv,
    Bool.not_or, Bool.not_not, Bool.not_not]

theorem IsCanonical.diff (hs : IsCanonical s) (ht : IsCanonical t) : IsCanonical (diff s t) :=
  hs.inter ht.complement

theorem has_diff (hs : IsCanonical s) (ht : IsCanonical t) (hv : n.isValidChar) :
    has (diff s t) n = (has s n && !has t n) := by
  rw [diff, has_inter hs ht.complement hv, has_complement ht hv]

theorem IsCanonical.symmDiff (hs : IsCanonical s) (ht : IsCanonical t) :
    IsCanonical (symmDiff s t) :=
  (hs.diff ht).union (ht.diff hs)

theorem has_symmDiff (hs : IsCanonical s) (ht : IsCanonical t) (hv : n.isValidChar) :
    has (symmDiff s t) n = (has s n != has t n) := by
  rw [symmDiff, has_union (hs.diff ht) (ht.diff hs) hv, has_diff hs ht hv, has_diff ht hs hv]
  cases has s n <;> cases has t n <;> rfl

/-! ## One form -/

theorem IsCanonical.has_first (h : IsCanonical (r :: s)) : has (r :: s) r.first = true :=
  has_cons.2 (.inl ⟨Nat.le_refl _, (h.isProper r List.mem_cons_self).first_le_last⟩)

theorem IsCanonical.has_tail_iff (h : IsCanonical (r :: s)) (hv : n.isValidChar) :
    has s n = true ↔ has (r :: s) n = true ∧ r.last < n := by
  rw [has_cons]
  constructor
  · intro hn
    exact ⟨.inr hn, (succ_le_iff hv).1 (Nat.le_of_lt (h.succ_last_lt hn))⟩
  · rintro ⟨⟨-, hle⟩ | hn, hlt⟩
    · omega
    · exact hn

section Forms

variable {q : CodeRange} (hs : IsCanonical (r :: s)) (ht : IsCanonical (q :: t))
  (h : ∀ n, n.isValidChar → has (r :: s) n = true → has (q :: t) n = true)
include hs ht h

theorem first_le_of_has : q.first ≤ r.first := by
  have hr := (hs.isProper r List.mem_cons_self).isValidChar_first
  have hq := (ht.isProper q List.mem_cons_self).first_le_last
  rcases has_cons.1 (h r.first hr hs.has_first) with hin | hin
  · exact hin.1
  · have := ((ht.has_tail_iff hr).1 hin).2
    omega

/-- If both begin at one place, its first range does not end before that of the other. -/
theorem last_le_of_has (hfirst : r.first = q.first) : r.last ≤ q.last := by
  have hr := (hs.isProper r List.mem_cons_self).isValidChar_last
  have hq := ht.isProper q List.mem_cons_self
  refine Nat.le_of_not_lt fun hlt => ?_
  -- the character after the shorter range is in the longer one and in no later one
  have hv : (succ q.last).isValidChar := by
    have := hq.isValidChar_last
    unfold Nat.isValidChar succ at *
    split <;> omega
  have hbeyond : q.last < succ q.last := (succ_le_iff hv).1 (Nat.le_refl _)
  have hle := (succ_le_iff hr).2 hlt
  have hqle := hq.first_le_last
  have hin := h (succ q.last) hv (has_cons.2 (.inl ⟨by omega, hle⟩))
  exact Nat.lt_irrefl _ (ht.succ_last_lt ((ht.has_tail_iff hv).2 ⟨hin, hbeyond⟩))

end Forms

/-- **A set has one list.** -/
theorem IsCanonical.ext : ∀ {s t : CodeSet}, IsCanonical s → IsCanonical t →
    (∀ n, n.isValidChar → has s n = has t n) → s = t
  | [], [], _, _, _ => rfl
  | [], q :: t, _, ht, h => by
    have := h q.first (ht.isProper q List.mem_cons_self).isValidChar_first
    rw [ht.has_first] at this
    cases this
  | r :: s, [], hs, _, h => by
    have := h r.first (hs.isProper r List.mem_cons_self).isValidChar_first
    rw [hs.has_first] at this
    cases this
  | r :: s, q :: t, hs, ht, h => by
    have hst (n : Nat) (hv : n.isValidChar) : has (r :: s) n = true → has (q :: t) n = true :=
      fun hn => (h n hv).symm.trans hn
    have hts (n : Nat) (hv : n.isValidChar) : has (q :: t) n = true → has (r :: s) n = true :=
      fun hn => (h n hv).trans hn
    have hfirst : r.first = q.first :=
      Nat.le_antisymm (first_le_of_has ht hs hts) (first_le_of_has hs ht hst)
    have hlast : r.last = q.last :=
      Nat.le_antisymm (last_le_of_has hs ht hst hfirst) (last_le_of_has ht hs hts hfirst.symm)
    have htail : s = t := IsCanonical.ext hs.tail ht.tail fun n hv => by
      rw [Bool.eq_iff_iff, hs.has_tail_iff hv, ht.has_tail_iff hv, h n hv, hlast]
    cases r
    cases q
    cases hfirst
    cases hlast
    rw [htail]

end CodeSet
end ReleaseStamp.Text
