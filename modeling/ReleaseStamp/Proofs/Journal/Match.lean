import ReleaseStamp.Journal.Pattern.Match
/-!
# What patterns match

What a pattern matches is told by recursion on its meaning, from place to place, along with what its
groups keep (`Meaning.Leads`).  The places that the search reaches are just the places so told
(`Meaning.mem_reach_iff`): where a part is repeated, rounds that pass nothing may be left out, and
then there are no more rounds than characters.  So a pattern is found in a text exactly when it
matches a part of it (`Meaning.isIn_iff`).
-/
namespace ReleaseStamp.Journal.Pattern

structure Place.Between (p : Place) (t : Text) (q : Place) : Prop where
  rest_eq : p.rest = t ++ q.rest
  seen_eq : q.seen = t.reverse ++ p.seen

/-- What leads from a place to another, with what is kept on the way: texts, each under the number
of a group. -/
abbrev Way := Place → List (Nat × Text) → Place → Prop

namespace Way

def stay : Way := fun p kept q => kept = [] ∧ q = p

def andThen (R S : Way) : Way := fun p kept q =>
  ∃ r k l, R p k r ∧ S r l q ∧ kept = k ++ l

def times (R : Way) : Nat → Way
  | 0 => stay
  | n + 1 => R.andThen (times R n)

end Way

/-- Whether something may be repeated so often. -/
structure Count.Allows (c : Count) (n : Nat) : Prop where
  least_le : c.least ≤ n
  le_most : ∀ most, c.most? = some most → n ≤ most

namespace Meaning

mutual

/-- **What a pattern matches**, and what its groups keep of it. -/
def Leads : Meaning → Way
  | .empty => Way.stay
  | .literal t => fun p kept q => kept = [] ∧ p.Between t q
  | .anyOf s => fun p kept q => kept = [] ∧ ∃ c, s.has c.toNat = true ∧ p.Between [c] q
  | .look l => fun p kept q => Way.stay p kept q ∧ l.holds p = true
  | .repetition c m => fun p kept q => ∃ n, c.Allows n ∧ Way.times m.Leads n p kept q
  | .capture i _ m => fun p kept q =>
    ∃ k t, m.Leads p k q ∧ p.Between t q ∧ kept = k ++ [(i, t)]
  | .concat ms => LeadsRow ms
  | .alternation ms => LeadsAny ms

def LeadsRow : List Meaning → Way
  | [] => Way.stay
  | m :: ms => Way.andThen m.Leads (LeadsRow ms)

def LeadsAny : List Meaning → Way
  | [] => fun _ _ _ => False
  | m :: ms => fun p kept q => m.Leads p kept q ∨ LeadsAny ms p kept q

end

end Meaning

/-! ## Places and ways -/

namespace Place.Between

variable {p q r : Place} {s t : Text}

theorem refl (p : Place) : p.Between [] p := ⟨rfl, rfl⟩

theorem trans (h : p.Between s q) (h' : q.Between t r) : p.Between (s ++ t) r where
  rest_eq := by rw [h.rest_eq, h'.rest_eq, List.append_assoc]
  seen_eq := by rw [h'.seen_eq, h.seen_eq, List.reverse_append, List.append_assoc]

theorem length_eq (h : p.Between t q) : p.rest.length = t.length + q.rest.length := by
  rw [h.rest_eq, List.length_append]

theorem eq_of_nil (h : p.Between [] q) : q = p := by
  obtain ⟨hrest, hseen⟩ := h
  cases p
  cases q
  cases hrest
  cases hseen
  rfl

theorem unique (h : p.Between s q) (h' : p.Between t q) : s = t :=
  List.append_cancel_right (h.rest_eq.symm.trans h'.rest_eq)

theorem exists_of_append (h : p.Between (s ++ t) q) : ∃ r, p.Between s r ∧ r.Between t q := by
  obtain ⟨hrest, hseen⟩ := h
  refine ⟨⟨s.reverse ++ p.seen, t ++ q.rest⟩, ⟨?_, rfl⟩, rfl, ?_⟩
  · rw [hrest, List.append_assoc]
  · rw [hseen, List.reverse_append, List.append_assoc]

end Place.Between

namespace Way

variable {R S T : Way} {p q : Place} {kept : List (Nat × Text)}

/-- Whether what is led to lies behind what leads to it. -/
def GoesOn (R : Way) : Prop := ∀ p kept q, R p kept q → ∃ t, p.Between t q

theorem goesOn_stay : stay.GoesOn := by
  rintro p kept q ⟨-, rfl⟩
  exact ⟨[], .refl _⟩

theorem GoesOn.andThen (hR : R.GoesOn) (hS : S.GoesOn) : (R.andThen S).GoesOn := by
  rintro p kept q ⟨r, k, l, h, h', -⟩
  obtain ⟨s, hs⟩ := hR p k r h
  obtain ⟨t, ht⟩ := hS r l q h'
  exact ⟨s ++ t, hs.trans ht⟩

theorem GoesOn.times (hR : R.GoesOn) : ∀ n, (R.times n).GoesOn
  | 0 => goesOn_stay
  | n + 1 => hR.andThen (hR.times n)

theorem stay_andThen (S : Way) : stay.andThen S = S := by
  funext p kept q
  refine propext ⟨?_, fun h => ⟨p, [], kept, ⟨rfl, rfl⟩, h, rfl⟩⟩
  rintro ⟨_, _, l, ⟨rfl, rfl⟩, h, rfl⟩
  exact h

theorem andThen_stay (R : Way) : R.andThen stay = R := by
  funext p kept q
  refine propext ⟨?_, fun h => ⟨q, kept, [], h, ⟨rfl, rfl⟩, (List.append_nil _).symm⟩⟩
  rintro ⟨_, k, _, h, ⟨rfl, rfl⟩, rfl⟩
  rwa [List.append_nil]

theorem andThen_assoc (R S T : Way) : (R.andThen S).andThen T = R.andThen (S.andThen T) := by
  funext p kept q
  refine propext ⟨?_, ?_⟩
  · rintro ⟨r, _, l, ⟨s, j, k, hR, hS, rfl⟩, hT, rfl⟩
    exact ⟨s, j, k ++ l, hR, ⟨r, k, l, hS, hT, rfl⟩, List.append_assoc j k l⟩
  · rintro ⟨s, j, _, hR, ⟨r, k, l, hS, hT, rfl⟩, rfl⟩
    exact ⟨r, j ++ k, l, ⟨s, j, k, hR, hS, rfl⟩, hT, (List.append_assoc j k l).symm⟩

theorem times_add (R : Way) (m : Nat) : ∀ n, R.times (n + m) = (R.times n).andThen (R.times m)
  | 0 => by rw [Nat.zero_add, times, stay_andThen]
  | n + 1 => by
    rw [Nat.add_right_comm, times, times_add R m n, times, andThen_assoc]

/-- Rounds that pass nothing may be left out. -/
theorem exists_times_le (hR : R.GoesOn) : ∀ {n : Nat} {p : Place} {kept : List (Nat × Text)},
    R.times n p kept q → ∃ m k, m ≤ n ∧ m ≤ p.rest.length ∧ R.times m p k q
  | 0, p, kept, h => ⟨0, kept, Nat.le_refl 0, Nat.zero_le _, h⟩
  | n + 1, p, kept, h => by
    obtain ⟨r, k, l, hfirst, hrest, -⟩ := h
    -- a round that passes nothing may have kept something, so what is kept need not be the same
    obtain ⟨m, l', hmn, hm, hl'⟩ := exists_times_le hR hrest
    obtain ⟨t, ht⟩ := hR p k r hfirst
    cases t with
    | nil =>
      obtain rfl := ht.eq_of_nil
      exact ⟨m, l', by omega, hm, hl'⟩
    | cons c t =>
      have hlen := ht.length_eq
      rw [List.length_cons] at hlen
      exact ⟨m + 1, k ++ l', by omega, by omega, r, k, l', hfirst, hl', rfl⟩

end Way

/-! ## The search -/

/-- The search goes from places just to those that the way leads to. -/
def Follows (go : List Place → List Place) (R : Way) : Prop :=
  ∀ ps q, q ∈ go ps ↔ ∃ p ∈ ps, ∃ kept, R p kept q

namespace Follows

variable {go go' : List Place → List Place} {R S : Way}

theorem stay : Follows id Way.stay := by
  intro ps q
  constructor
  · intro h
    exact ⟨q, h, [], rfl, rfl⟩
  · rintro ⟨p, hp, kept, -, rfl⟩
    exact hp

theorem andThen (h : Follows go R) (h' : Follows go' S) : Follows (go' ∘ go) (R.andThen S) := by
  intro ps q
  rw [Function.comp_apply, h']
  constructor
  · rintro ⟨r, hr, l, hS⟩
    obtain ⟨p, hp, k, hR⟩ := (h ps r).1 hr
    exact ⟨p, hp, k ++ l, r, k, l, hR, hS, rfl⟩
  · rintro ⟨p, hp, -, r, k, l, hR, hS, -⟩
    exact ⟨r, (h ps r).2 ⟨p, hp, k, hR⟩, l, hS⟩

theorem repeatedly (h : Follows go R) : ∀ n, Follows (Count.repeatedly go n) (R.times n)
  | 0 => stay
  | n + 1 => h.andThen (h.repeatedly n)

theorem atMost (h : Follows go R) : ∀ n,
    Follows (Count.atMost go n) fun p kept q => ∃ m ≤ n, R.times m p kept q
  | 0 => by
    intro ps q
    refine (stay ps q).trans ⟨?_, ?_⟩
    · rintro ⟨p, hp, kept, h⟩
      exact ⟨p, hp, kept, 0, Nat.le_refl 0, h⟩
    · rintro ⟨p, hp, kept, m, hm, h⟩
      obtain rfl := Nat.le_zero.1 hm
      exact ⟨p, hp, kept, h⟩
  | n + 1 => by
    intro ps q
    rw [Count.atMost, h.atMost n]
    simp only [List.mem_eraseDups, List.mem_append]
    constructor
    · rintro ⟨p, hp | hp, kept, m, hm, htimes⟩
      · exact ⟨p, hp, kept, m, by omega, htimes⟩
      · obtain ⟨p', hp', k, hR⟩ := (h ps p).1 hp
        exact ⟨p', hp', k ++ kept, m + 1, by omega, p, k, kept, hR, htimes, rfl⟩
    · rintro ⟨p, hp, kept, m, hm, htimes⟩
      cases m with
      | zero => exact ⟨p, .inl hp, kept, 0, Nat.zero_le n, htimes⟩
      | succ m =>
        obtain ⟨r, k, l, hR, hl, -⟩ := htimes
        exact ⟨r, .inr ((h ps r).2 ⟨p, hp, k, hR⟩), l, m, by omega, hl⟩

theorem length_le_longest {ps : List Place} {p : Place} (h : p ∈ ps) :
    p.rest.length ≤ Count.longest ps := by
  have hmem := List.mem_map_of_mem (f := fun p : Place => p.rest.length) h
  unfold Count.longest
  rw [List.foldl_max]
  exact Nat.le_trans (List.le_max?_getD_of_mem hmem) (Nat.le_max_right _ _)

theorem exists_allowed_iff (h : Follows go R) (c : Count) (ps : List Place) (q : Place) :
    (∃ p ∈ ps, ∃ kept n, c.Allows n ∧ R.times n p kept q) ↔
      ∃ r ∈ Count.repeatedly go c.least ps, ∃ kept m, c.Allows (c.least + m) ∧
        R.times m r kept q := by
  have hleast := h.repeatedly c.least ps
  constructor
  · rintro ⟨p, hp, kept, n, hn, htimes⟩
    obtain ⟨m, rfl⟩ := Nat.exists_eq_add_of_le hn.least_le
    rw [Way.times_add] at htimes
    obtain ⟨r, k, l, hk, hl, -⟩ := htimes
    exact ⟨r, (hleast r).2 ⟨p, hp, k, hk⟩, l, m, hn, hl⟩
  · rintro ⟨r, hr, l, m, hm, hl⟩
    obtain ⟨p, hp, k, hk⟩ := (hleast r).1 hr
    refine ⟨p, hp, k ++ l, c.least + m, hm, ?_⟩
    rw [Way.times_add]
    exact ⟨r, k, l, hk, hl, rfl⟩

theorem reach (h : Follows go R) (hR : R.GoesOn) (c : Count) :
    Follows (c.reach go) fun p kept q => ∃ n, c.Allows n ∧ R.times n p kept q := by
  intro ps q
  rw [h.exists_allowed_iff, Count.reach]
  generalize Count.repeatedly go c.least ps = ps
  -- no more rounds are needed after the least than the longest of the places has characters left
  cases hmost : c.most? with
  | none =>
    rw [h.atMost]
    constructor
    · rintro ⟨p, hp, kept, m, -, htimes⟩
      exact ⟨p, hp, kept, m, ⟨Nat.le_add_right _ _, by simp [hmost]⟩, htimes⟩
    · rintro ⟨p, hp, kept, m, -, htimes⟩
      obtain ⟨m, k, -, hm, hk⟩ := Way.exists_times_le hR htimes
      exact ⟨p, hp, k, m, Nat.le_trans hm (length_le_longest hp), hk⟩
  | some most =>
    by_cases hlt : most < c.least
    · simp only [if_pos hlt, List.not_mem_nil, false_iff]
      rintro ⟨p, -, kept, m, hm, -⟩
      have := hm.le_most most hmost
      omega
    · simp only [if_neg hlt]
      rw [h.atMost]
      constructor
      · rintro ⟨p, hp, kept, m, hm, htimes⟩
        refine ⟨p, hp, kept, m, ⟨Nat.le_add_right _ _, fun most' h' => ?_⟩, htimes⟩
        obtain rfl : most = most' := Option.some.inj (hmost.symm.trans h')
        omega
      · rintro ⟨p, hp, kept, m, hm, htimes⟩
        obtain ⟨m', k, hmm, hm', hk⟩ := Way.exists_times_le hR htimes
        have hall := hm.le_most most hmost
        have hlong := length_le_longest hp
        exact ⟨p, hp, k, m', by omega, hk⟩

theorem filterMap {f : Place → Option Place} (h : ∀ p q, f p = some q ↔ ∃ kept, R p kept q) :
    Follows (List.filterMap f) R := by
  intro ps q
  simp only [List.mem_filterMap, h]

end Follows

namespace Place

theorem pass?_eq_some_iff {t : Text} {p q : Place} : p.pass? t = some q ↔ p.Between t q := by
  simp only [pass?, Option.map_eq_some_iff, Text.after?_eq_some_iff]
  constructor
  · rintro ⟨rest, hrest, rfl⟩
    exact ⟨hrest, rfl⟩
  · rintro ⟨hrest, hseen⟩
    exact ⟨q.rest, hrest, by rw [← hseen]⟩

theorem passOne?_eq_some_iff {s : Text.CodeSet} {p q : Place} :
    p.passOne? s = some q ↔ ∃ c, s.has c.toNat = true ∧ p.Between [c] q := by
  obtain ⟨seen, rest⟩ := p
  obtain ⟨seen', rest'⟩ := q
  cases rest with
  | nil =>
    constructor
    · intro h
      cases h
    · rintro ⟨c, -, hrest, -⟩
      cases hrest
  | cons c rest =>
    simp only [passOne?, Option.ite_none_right_eq_some, Option.some.injEq]
    constructor
    · rintro ⟨hc, h⟩
      cases h
      exact ⟨c, hc, rfl, rfl⟩
    · rintro ⟨d, hd, hrest, hseen⟩
      obtain ⟨rfl, rfl⟩ : c = d ∧ rest = rest' := List.cons.inj hrest
      obtain rfl : seen' = c :: seen := hseen
      exact ⟨hd, rfl⟩

end Place

namespace Meaning

mutual

theorem goesOn_leads : ∀ m : Meaning, m.Leads.GoesOn
  | .empty => Way.goesOn_stay
  | .literal t => fun p kept q h => ⟨t, h.2⟩
  | .anyOf s => fun p kept q h => h.2.elim fun c hc => ⟨[c], hc.2⟩
  | .look l => fun p kept q h => Way.goesOn_stay p kept q h.1
  | .repetition c m => fun p kept q h => h.elim fun n hn => (goesOn_leads m).times n p kept q hn.2
  | .capture i _ m => fun p kept q h => by
    obtain ⟨k, t, -, ht, -⟩ := h
    exact ⟨t, ht⟩
  | .concat ms => goesOn_leadsRow ms
  | .alternation ms => goesOn_leadsAny ms

theorem goesOn_leadsRow : ∀ ms : List Meaning, (LeadsRow ms).GoesOn
  | [] => Way.goesOn_stay
  | m :: ms => (goesOn_leads m).andThen (goesOn_leadsRow ms)

theorem goesOn_leadsAny : ∀ ms : List Meaning, (LeadsAny ms).GoesOn
  | [] => fun _ _ _ h => h.elim
  | m :: ms => fun p kept q h => h.elim (goesOn_leads m p kept q) (goesOn_leadsAny ms p kept q)

end

mutual

theorem follows_reach : ∀ m : Meaning, Follows m.reach m.Leads
  | .empty => Follows.stay
  | .literal t => Follows.filterMap fun p q => by simp [Leads, Place.pass?_eq_some_iff]
  | .anyOf s => Follows.filterMap fun p q => by simp [Leads, Place.passOne?_eq_some_iff]
  | .look l => fun ps q => by
    simp only [reach, List.mem_filter, Leads, Way.stay]
    constructor
    · rintro ⟨hq, hl⟩
      exact ⟨q, hq, [], ⟨rfl, rfl⟩, hl⟩
    · rintro ⟨p, hp, kept, ⟨-, rfl⟩, hl⟩
      exact ⟨hp, hl⟩
  | .repetition c m => (follows_reach m).reach (goesOn_leads m) c
  | .capture i _ m => fun ps q => by
    rw [reach, follows_reach m]
    constructor
    · rintro ⟨p, hp, k, hk⟩
      obtain ⟨t, ht⟩ := goesOn_leads m p k q hk
      exact ⟨p, hp, k ++ [(i, t)], k, t, hk, ht, rfl⟩
    · rintro ⟨p, hp, -, k, t, hk, -, -⟩
      exact ⟨p, hp, k, hk⟩
  | .concat ms => follows_reachRow ms
  | .alternation ms => follows_reachAny ms

theorem follows_reachRow : ∀ ms : List Meaning, Follows (reachRow ms) (LeadsRow ms)
  | [] => Follows.stay
  | m :: ms => (follows_reach m).andThen (follows_reachRow ms)

theorem follows_reachAny : ∀ ms : List Meaning, Follows (reachAny ms) (LeadsAny ms)
  | [] => fun ps q => by simp [reachAny, LeadsAny]
  | m :: ms => fun ps q => by
    rw [reachAny, List.mem_append, follows_reach m, follows_reachAny ms]
    constructor
    · rintro (⟨p, hp, kept, h⟩ | ⟨p, hp, kept, h⟩)
      · exact ⟨p, hp, kept, .inl h⟩
      · exact ⟨p, hp, kept, .inr h⟩
    · rintro ⟨p, hp, kept, h | h⟩
      · exact .inl ⟨p, hp, kept, h⟩
      · exact .inr ⟨p, hp, kept, h⟩

end

/-- **The search reaches what a pattern matches**, and nothing else. -/
theorem mem_reach_iff (m : Meaning) (ps : List Place) (q : Place) :
    q ∈ m.reach ps ↔ ∃ p ∈ ps, ∃ kept, m.Leads p kept q :=
  follows_reach m ps q

end Meaning

theorem Place.mem_onwards_iff {p : Place} : ∀ {seen t : Text},
    p ∈ Place.onwards seen t ↔ ∃ front, t = front ++ p.rest ∧ p.seen = front.reverse ++ seen
  | seen, [] => by
    rw [onwards, List.mem_singleton]
    constructor
    · rintro rfl
      exact ⟨[], rfl, rfl⟩
    · rintro ⟨front, hrest, hseen⟩
      obtain ⟨rfl, hnil⟩ := List.append_eq_nil_iff.1 hrest.symm
      cases p
      cases hnil
      cases hseen
      rfl
  | seen, c :: t => by
    rw [onwards, List.mem_cons, mem_onwards_iff]
    constructor
    · rintro (rfl | ⟨front, rfl, hseen⟩)
      · exact ⟨[], rfl, rfl⟩
      · exact ⟨c :: front, rfl, by simp [hseen]⟩
    · rintro ⟨front, hrest, hseen⟩
      cases front with
      | nil =>
        cases p
        cases hrest
        cases hseen
        exact .inl rfl
      | cons d front =>
        obtain ⟨rfl, rfl⟩ := List.cons.inj hrest
        exact .inr ⟨front, rfl, by simp [hseen]⟩

/-! ## Rows and runs -/

namespace Way

variable {P Q : Text → Prop}

/-- Passes a text of a kind and keeps nothing. -/
def passing (P : Text → Prop) : Way := fun p kept q => kept = [] ∧ ∃ t, P t ∧ p.Between t q

theorem passing_congr (h : ∀ t, P t ↔ Q t) : passing P = passing Q := by
  rw [show P = Q from funext fun t => propext (h t)]

theorem stay_eq_passing : stay = passing (· = []) := by
  funext p kept q
  refine propext (and_congr_right fun _ => ⟨?_, ?_⟩)
  · rintro rfl
    exact ⟨[], rfl, .refl _⟩
  · rintro ⟨_, rfl, h⟩
    exact h.eq_of_nil

theorem passing_andThen_passing :
    (passing P).andThen (passing Q) = passing fun t => ∃ a b, P a ∧ Q b ∧ t = a ++ b := by
  funext p kept q
  refine propext ⟨?_, ?_⟩
  · rintro ⟨r, _, _, ⟨rfl, a, ha, hpr⟩, ⟨rfl, b, hb, hrq⟩, rfl⟩
    exact ⟨rfl, a ++ b, ⟨a, b, ha, hb, rfl⟩, hpr.trans hrq⟩
  · rintro ⟨rfl, _, ⟨a, b, ha, hb, rfl⟩, h⟩
    obtain ⟨r, hpr, hrq⟩ := h.exists_of_append
    exact ⟨r, [], [], ⟨rfl, a, ha, hpr⟩, ⟨rfl, b, hb, hrq⟩, rfl⟩

theorem times_passing (s : Text.CodeSet) : ∀ n,
    (passing fun t => ∃ c : Char, s.has c.toNat = true ∧ t = [c]).times n =
      passing fun t => t.length = n ∧ ∀ c ∈ t, s.has c.toNat = true
  | 0 => by
    rw [times, stay_eq_passing]
    refine passing_congr fun t => ⟨?_, fun h => List.eq_nil_of_length_eq_zero h.1⟩
    rintro rfl
    exact ⟨rfl, by simp⟩
  | n + 1 => by
    rw [times, times_passing s n, passing_andThen_passing]
    refine passing_congr fun t => ⟨?_, ?_⟩
    · rintro ⟨_, b, ⟨c, hc, rfl⟩, ⟨rfl, hb⟩, rfl⟩
      exact ⟨rfl, by simpa [hc] using hb⟩
    · rintro ⟨hlen, ht⟩
      cases t with
      | nil => cases hlen
      | cons c t =>
        exact ⟨[c], t, ⟨c, ht c (by simp), rfl⟩,
          ⟨Nat.succ.inj hlen, fun d hd => ht d (by simp [hd])⟩, rfl⟩

end Way

namespace Meaning

theorem leads_literal (t : Text) : (literal t).Leads = Way.passing (· = t) := by
  funext p kept q
  refine propext (and_congr_right fun _ => ⟨fun h => ⟨t, rfl, h⟩, ?_⟩)
  rintro ⟨_, rfl, h⟩
  exact h

theorem leads_anyOf (s : Text.CodeSet) :
    (anyOf s).Leads = Way.passing fun t => ∃ c : Char, s.has c.toNat = true ∧ t = [c] := by
  funext p kept q
  refine propext (and_congr_right fun _ => ⟨?_, ?_⟩)
  · rintro ⟨c, hc, h⟩
    exact ⟨[c], ⟨c, hc, rfl⟩, h⟩
  · rintro ⟨_, ⟨c, hc, rfl⟩, h⟩
    exact ⟨c, hc, h⟩

theorem leads_repetition_anyOf (c : Count) (s : Text.CodeSet) :
    (repetition c (anyOf s)).Leads =
      Way.passing fun t => c.Allows t.length ∧ ∀ x ∈ t, s.has x.toNat = true := by
  funext p kept q
  rw [Leads, leads_anyOf]
  simp only [Way.times_passing]
  refine propext ⟨?_, ?_⟩
  · rintro ⟨_, hn, rfl, t, ⟨rfl, ht⟩, h⟩
    exact ⟨rfl, t, ⟨hn, ht⟩, h⟩
  · rintro ⟨rfl, t, ⟨hn, ht⟩, h⟩
    exact ⟨t.length, hn, rfl, t, ⟨rfl, ht⟩, h⟩

theorem leadsRow_append (ms ns : List Meaning) :
    LeadsRow (ms ++ ns) = (LeadsRow ms).andThen (LeadsRow ns) := by
  induction ms with
  | nil => exact (Way.stay_andThen _).symm
  | cons m ms ih => rw [List.cons_append, LeadsRow, ih, LeadsRow, Way.andThen_assoc]

theorem leadsRow_singleton (m : Meaning) : LeadsRow [m] = m.Leads := Way.andThen_stay _

theorem leadsRow_before (m : Meaning) (row : List Meaning) :
    LeadsRow (before m row) = m.Leads.andThen (LeadsRow row) := by
  unfold before
  split
  · exact (Way.stay_andThen _).symm
  · rename_i s t row
    rw [LeadsRow, LeadsRow, ← Way.andThen_assoc, leads_literal, leads_literal, leads_literal,
      Way.passing_andThen_passing]
    exact congrArg (Way.andThen · _) (Way.passing_congr fun u => by simp)
  · rfl

theorem leadsRow_parts (m : Meaning) : LeadsRow m.parts = m.Leads := by
  unfold parts
  split
  · rfl
  · exact leadsRow_singleton _

/-- **To put a row in its simplest form changes nothing.** -/
theorem leads_row (ms : List Meaning) : (row ms).Leads = LeadsRow ms := by
  have hof (ns : List Meaning) : (ofRow ns).Leads = LeadsRow ns := by
    unfold ofRow
    split
    · rfl
    · exact (leadsRow_singleton _).symm
    · rfl
  have hfold (ns : List Meaning) : LeadsRow (ns.foldr before []) = LeadsRow ns := by
    induction ns with
    | nil => rfl
    | cons n ns ih => rw [List.foldr_cons, leadsRow_before, ih, LeadsRow]
  rw [row, hof, hfold]
  induction ms with
  | nil => rfl
  | cons m ms ih => rw [List.flatMap_cons, leadsRow_append, leadsRow_parts, ih, LeadsRow]

end Meaning

/-- **A pattern is found in a text** exactly when it matches a part of it. -/
theorem Meaning.isIn_iff (m : Meaning) (t : Text) :
    m.isIn t = true ↔ ∃ front rest kept q, t = front ++ rest ∧
      m.Leads ⟨front.reverse, rest⟩ kept q := by
  have hsome : m.isIn t = true ↔ ∃ q, q ∈ m.reach (Place.onwards [] t) := by
    rw [isIn, Bool.not_eq_true', List.isEmpty_eq_false_iff_exists_mem]
  simp only [hsome, mem_reach_iff, Place.mem_onwards_iff, List.append_nil]
  constructor
  · rintro ⟨q, ⟨seen, rest⟩, ⟨front, rfl, rfl⟩, kept, h⟩
    exact ⟨front, rest, kept, q, rfl, h⟩
  · rintro ⟨front, rest, kept, q, rfl, h⟩
    exact ⟨q, ⟨front.reverse, rest⟩, ⟨front, rfl, rfl⟩, kept, h⟩

end ReleaseStamp.Journal.Pattern
