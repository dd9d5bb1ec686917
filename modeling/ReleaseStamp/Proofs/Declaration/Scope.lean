import ReleaseStamp.Proofs.Declaration.Match
import ReleaseStamp.Proofs.Declaration.Opening
/-!
# Names and their values

Read from its opening quote back a value has one declaration at most: the blanks around the `=` and
the one run of other characters before them leave no choice of the name (`IsAt.eq_of_start_eq`).  So
no two names share a value, whatever else they have in common (`span_ne_of_name_ne`).  That takes
names without blanks: of an empty name or one with blanks the run before the `=` may be a part only.
-/
namespace ReleaseStamp.Declaration

section

variable {name name' : Text} {s s' : Site}

/-- All that stands before a value ends with the head of its declaration. -/
theorem IsAt.opens_front (h : IsAt name s) :
    Opens name (s.front ++ s.head).dropLast s.front s.head where
  append_quote := by
    obtain ⟨gap, pad, lead, -, -, hhead⟩ := h.isHead
    rw [hhead]
    simp only [← List.append_assoc, ← List.cons_append, List.dropLast_concat]
  isHead := h.isHead
  wordMayBegin_inner := h.wordMayBegin_front

theorem IsAt.eq_of_start_eq (hn : IsUnbroken name) (hn' : IsUnbroken name') (h : IsAt name s)
    (h' : IsAt name' s') (ht : s.text = s'.text) (hstart : s.start = s'.start) :
    name = name' ∧ s = s' := by
  have hcut : (s.front ++ s.head) ++ (s.value ++ s.rest) =
      (s'.front ++ s'.head) ++ (s'.value ++ s'.rest) := by
    simpa [Site.text] using ht
  have hle := (Text.byteLength_le_iff_of_append_eq hcut).1 (Nat.le_of_eq hstart)
  have hge := (Text.byteLength_le_iff_of_append_eq hcut.symm).1 (Nat.le_of_eq hstart.symm)
  obtain ⟨hbefore, -⟩ := List.append_inj hcut (Nat.le_antisymm hle hge)
  have hopens := h.opens_front
  rw [hbefore] at hopens
  obtain ⟨rfl, hfront, -⟩ := hopens.unique hn hn' h'.opens_front
  exact ⟨rfl, h.unique h' hfront ht⟩

variable (hn : IsUnbroken name) (hn' : IsUnbroken name') (hne : name ≠ name')
include hn hn' hne

theorem IsMatch.start_ne {text : Text} {place start stop place' start' stop' : Nat}
    (h : IsMatch name text place start stop) (h' : IsMatch name' text place' start' stop') :
    start ≠ start' := by
  obtain ⟨s, ht, hs, -, hspan⟩ := (isMatch_iff _ _ _ _ _).1 h
  obtain ⟨s', ht', hs', -, hspan'⟩ := (isMatch_iff _ _ _ _ _).1 h'
  intro he
  have hstart : s.start = s'.start :=
    (congrArg Prod.fst hspan).trans (he.trans (congrArg Prod.fst hspan').symm)
  exact hne (hs.eq_of_start_eq hn hn' hs' (ht.trans ht'.symm) hstart).1

/-- **No two names share a value**: not by any of their matches, and so not by the first ones. -/
theorem span_ne_of_name_ne (text : Text) :
    (∀ place start stop place' start' stop', IsMatch name text place start stop →
      IsMatch name' text place' start' stop' → (start, stop) ≠ (start', stop')) ∧
    ∀ span, (find name text).map Site.span = some span →
      (find name' text).map Site.span ≠ some span := by
  have hmatch : ∀ place start stop place' start' stop', IsMatch name text place start stop →
      IsMatch name' text place' start' stop' → (start, stop) ≠ (start', stop') := by
    intro place start stop place' start' stop' h h' he
    exact h.start_ne hn hn' hne h' (Prod.mk.inj he).1
  refine ⟨hmatch, fun span h h' => ?_⟩
  obtain ⟨place, hm, -⟩ := find_eq_some_iff_isMatch.1 h
  obtain ⟨place', hm', -⟩ := find_eq_some_iff_isMatch.1 h'
  exact hmatch place span.1 span.2 place' span.1 span.2 hm hm' rfl

end

/-- One name ends with the other, and both end with what also ends a name. -/
theorem span_ne_of_name_ne_signs :
    let text := "let \"v== \"1\" let v== \"2\"".toList
    IsUnbroken "v=".toList ∧ IsUnbroken "\"v=".toList ∧ "v=".toList ≠ "\"v=".toList ∧
      (find "v=".toList text).map Site.span = some (22, 23) ∧
      (find "\"v=".toList text).map Site.span ≠ some (22, 23) := by
  intro text
  have hn : IsUnbroken "v=".toList := by decide
  have hn' : IsUnbroken "\"v=".toList := by decide
  have hne : "v=".toList ≠ "\"v=".toList := by decide
  have hfind : (find "v=".toList text).map Site.span = some (22, 23) := by decide
  exact ⟨hn, hn', hne, hfind, (span_ne_of_name_ne hn hn' hne text).2 _ hfind⟩

/-- An empty name shares the value of the name that the keyword is taken for. -/
example : let text := "let let = \"v1\"".toList
    (find [] text).map Site.span = (find keyword text).map Site.span := by
  decide

end ReleaseStamp.Declaration
