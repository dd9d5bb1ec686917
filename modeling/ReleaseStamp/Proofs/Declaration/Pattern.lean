import ReleaseStamp.Declaration.Compile
import ReleaseStamp.Declaration.Lemmas
import ReleaseStamp.Proofs.Declaration.Reading
import ReleaseStamp.Proofs.Journal.Match
import ReleaseStamp.Proofs.Text.CodeSet
/-!
# The pattern of a name and its declarations

The journal tells what is searched for as a pattern, and the search itself does not run it.  They
agree: read as an expression, the pattern of a name matches where a declaration of the name stands,
up to the closing quote, and keeps its value (`leads_meaning_iff`).  So the search finds the first
match of the pattern (`find_eq_some_iff_matchesAt`), it finds none exactly when the pattern is
nowhere in the text (`find_eq_none_iff_isIn`), and no name is refused (`search_eq`).
-/
namespace ReleaseStamp.Declaration

open Journal.Pattern
open Text (isBlank isWord)

theorem has_unquoted (c : Char) :
    (Text.CodeSet.complement [⟨34, 34⟩]).has c.toNat = true ↔ c ≠ '"' := by
  have hcanonical : Text.CodeSet.IsCanonical [⟨34, 34⟩] :=
    ⟨by simpa using ⟨Nat.le_refl 34, by decide, by decide⟩, by simp⟩
  have hvalid : c.toNat.isValidChar := c.valid
  have hquote : c = '"' ↔ c.toNat = 34 := Char.toNat_inj.symm
  rw [Text.CodeSet.has_complement hcanonical hvalid, ne_eq, hquote]
  simp only [Bool.not_eq_true', Text.CodeSet.has, List.any_cons, List.any_nil, Bool.or_false,
    Bool.and_eq_false_iff, decide_eq_false_iff_not]
  omega

theorem leadsRow_literals (t : Text) :
    Meaning.LeadsRow (literals t) = Way.passing (· = t) := by
  induction t with
  | nil => exact Way.stay_eq_passing
  | cons c t ih =>
    rw [literals, List.map_cons, Meaning.LeadsRow, ← literals, ih, Meaning.leads_literal,
      Way.passing_andThen_passing]
    exact Way.passing_congr fun u => by simp

theorem leads_anyBlanks (least : Nat) :
    (anyBlanks least).Leads =
      Way.passing fun t => least ≤ t.length ∧ ∀ c ∈ t, isBlank c = true := by
  rw [anyBlanks, Meaning.leads_repetition_anyOf]
  refine Way.passing_congr fun t => and_congr_left fun _ => ⟨fun h => h.least_le, fun h => ⟨h, ?_⟩⟩
  intro most hmost
  cases hmost

theorem leadsRow_headParts (name : Text) :
    Meaning.LeadsRow (headParts name) = Way.passing (IsHead name) := by
  simp only [headParts, Meaning.leadsRow_append, Meaning.LeadsRow, leadsRow_literals,
    leads_anyBlanks, Meaning.leads_literal, Way.andThen_stay, Way.passing_andThen_passing]
  refine Way.passing_congr fun t => ⟨?_, ?_⟩
  · rintro ⟨_, _, ⟨_, _, ⟨_, gap, rfl, ⟨hlen, hgap⟩, rfl⟩, rfl, rfl⟩,
      ⟨pad, _, ⟨-, hpad⟩, ⟨_, _, rfl, ⟨lead, _, ⟨-, hlead⟩, rfl, rfl⟩, rfl⟩, rfl⟩, rfl⟩
    refine ⟨gap, pad, lead, List.ne_nil_of_length_pos hlen, ?_, by simp⟩
    simp only [List.mem_append]
    rintro c ((hc | hc) | hc)
    exacts [hgap c hc, hpad c hc, hlead c hc]
  · rintro ⟨gap, pad, lead, hne, hb, rfl⟩
    simp only [List.mem_append] at hb
    have hgap : 1 ≤ gap.length ∧ ∀ c ∈ gap, isBlank c = true :=
      ⟨List.length_pos_iff.2 hne, fun c hc => hb c (.inl (.inl hc))⟩
    have hpad : 0 ≤ pad.length ∧ ∀ c ∈ pad, isBlank c = true :=
      ⟨Nat.zero_le _, fun c hc => hb c (.inl (.inr hc))⟩
    have hlead : 0 ≤ lead.length ∧ ∀ c ∈ lead, isBlank c = true :=
      ⟨Nat.zero_le _, fun c hc => hb c (.inr hc)⟩
    exact ⟨_, _, ⟨_, _, ⟨_, gap, rfl, hgap, rfl⟩, rfl, rfl⟩,
      ⟨pad, _, hpad, ⟨_, _, rfl, ⟨lead, _, hlead, rfl, rfl⟩, rfl⟩, rfl⟩, by simp⟩

theorem leads_keptValue {p q : Place} {kept : List (Nat × Text)} :
    keptValue.Leads p kept q ↔
      ∃ value : Text, '"' ∉ value ∧ kept = [(1, value)] ∧ p.Between value q := by
  have hunquoted : (Meaning.repetition ⟨0, none, true⟩
      (.anyOf (Text.CodeSet.complement [⟨34, 34⟩]))).Leads = Way.passing fun t => '"' ∉ t := by
    rw [Meaning.leads_repetition_anyOf]
    refine Way.passing_congr fun t => ⟨?_, ?_⟩
    · rintro ⟨-, h⟩ hquote
      exact (has_unquoted '"').1 (h _ hquote) rfl
    · intro hquote
      refine ⟨⟨Nat.zero_le _, fun most h => by cases h⟩, fun c hc => (has_unquoted c).2 ?_⟩
      rintro rfl
      exact hquote hc
  rw [keptValue, Meaning.Leads, hunquoted]
  constructor
  · rintro ⟨_, value, ⟨rfl, value', hvalue, h'⟩, h, rfl⟩
    obtain rfl := h.unique h'
    exact ⟨value, hvalue, rfl, h⟩
  · rintro ⟨value, hvalue, rfl, h⟩
    exact ⟨[], value, ⟨rfl, value, hvalue, h⟩, h, rfl⟩

theorem holds_boundary {name head rest : Text} (h : IsHead name head) (seen : Text) :
    (Look.boundary .either true).holds ⟨seen, head ++ rest⟩ = wordMayBegin seen := by
  have hl : isWord 'l' = true := by decide
  obtain ⟨gap, pad, lead, -, -, rfl⟩ := h
  cases seen with
  | nil => simp [Look.holds, Boundary.holds, Place.words, wordMayBegin, keyword, hl]
  | cons c seen => simp [Look.holds, Boundary.holds, Place.words, wordMayBegin, keyword, hl]

/-- **The pattern of a name matches its declarations**, up to the closing quote, and keeps the
value. -/
theorem leads_meaning_iff {name front t : Text} {q : Place} {kept : List (Nat × Text)} :
    (meaning name).Leads ⟨front.reverse, t⟩ kept q ↔
      ∃ s : Site, IsAt name s ∧ s.front = front ∧ s.head ++ s.value ++ s.rest = t ∧
        kept = [(1, s.value)] ∧
        Place.Between ⟨front.reverse, t⟩ (s.head ++ s.value ++ ['"']) q := by
  rw [meaning, Meaning.leads_row, Meaning.LeadsRow, Meaning.leadsRow_append, leadsRow_headParts,
    Meaning.LeadsRow, Meaning.leadsRow_singleton]
  constructor
  · rintro ⟨_, _, _, ⟨⟨rfl, rfl⟩, hlook⟩, ⟨r, _, _, ⟨rfl, head, hhead, hpr⟩,
      ⟨s, _, _, hvalue, ⟨rfl, hsq⟩, rfl⟩, rfl⟩, rfl⟩
    obtain ⟨value, hquote, rfl, hrs⟩ := leads_keptValue.1 hvalue
    have hall := (hpr.trans hrs).trans hsq
    have ht : head ++ value ++ '"' :: q.rest = t := by simpa using hall.rest_eq.symm
    rw [← ht, List.append_assoc, holds_boundary hhead] at hlook
    exact ⟨⟨front, head, value, '"' :: q.rest⟩, ⟨hlook, hhead, hquote, rfl⟩, rfl, ht, rfl, hall⟩
  · rintro ⟨⟨front, head, value, rest⟩, ⟨hword, hhead, hquote, -⟩, rfl, rfl, rfl, h⟩
    obtain ⟨s, hps, hsq⟩ := h.exists_of_append
    obtain ⟨r, hpr, hrs⟩ := hps.exists_of_append
    have hlook : (Look.boundary .either true).holds
        ⟨front.reverse, head ++ value ++ rest⟩ = true := by
      rwa [List.append_assoc, holds_boundary hhead]
    exact ⟨_, [], [(1, value)], ⟨⟨rfl, rfl⟩, hlook⟩, ⟨r, [], [(1, value)], ⟨rfl, head, hhead, hpr⟩,
      ⟨s, [(1, value)], [], leads_keptValue.2 ⟨value, hquote, rfl, hrs⟩, ⟨rfl, hsq⟩, rfl⟩, rfl⟩,
      rfl⟩

/-- A pattern matches at a site, from the keyword to the closing quote, and keeps the value as its
first group. -/
def MatchesAt (m : Meaning) (s : Site) : Prop :=
  ∃ q, m.Leads ⟨s.front.reverse, s.head ++ s.value ++ s.rest⟩ [(1, s.value)] q ∧
    Place.Between ⟨s.front.reverse, s.head ++ s.value ++ s.rest⟩ (s.head ++ s.value ++ ['"']) q

theorem matchesAt_meaning_iff {name : Text} {s : Site} :
    MatchesAt (meaning name) s ↔ IsAt name s := by
  constructor
  · rintro ⟨q, h, hq⟩
    -- the match is of some site, which is this one since the value and the end are the same
    obtain ⟨s', hat, hfront, ht, hkept, hq'⟩ := leads_meaning_iff.1 h
    have hvalue : s.value = s'.value := by simpa using hkept
    have hhead : s.head = s'.head := by
      have := hq.unique hq'
      rw [hvalue] at this
      exact List.append_cancel_right (List.append_cancel_right this)
    have hrest : s.rest = s'.rest := by
      rw [hvalue, hhead] at ht
      exact (List.append_cancel_left ht).symm
    obtain ⟨front, head, value, rest⟩ := s
    obtain ⟨front', head', value', rest'⟩ := s'
    cases hfront
    cases hvalue
    cases hhead
    cases hrest
    exact hat
  · intro h
    obtain ⟨front, head, value, rest⟩ := s
    obtain ⟨rest, rfl⟩ : ∃ r, rest = '"' :: r := by
      cases rest with
      | nil => cases h.head?_rest
      | cons c r => cases h.head?_rest; exact ⟨r, rfl⟩
    have hbetween : Place.Between ⟨front.reverse, head ++ value ++ '"' :: rest⟩
        (head ++ value ++ ['"']) ⟨(head ++ value ++ ['"']).reverse ++ front.reverse, rest⟩ :=
      ⟨by simp, rfl⟩
    exact ⟨_, leads_meaning_iff.2 ⟨_, h, rfl, rfl, rfl, hbetween⟩, hbetween⟩

/-- **The search finds the first match of the pattern.** -/
theorem find_eq_some_iff_matchesAt (name text : Text) (s : Site) :
    find name text = some s ↔ s.text = text ∧ MatchesAt (meaning name) s ∧
      ∀ front rest kept q, text = front ++ rest →
        (meaning name).Leads ⟨front.reverse, rest⟩ kept q → s.front.length ≤ front.length := by
  rw [find_eq_some_iff, matchesAt_meaning_iff]
  refine and_congr_right fun _ => and_congr_right fun _ => ⟨?_, ?_⟩
  · rintro hfirst front rest kept q rfl h
    obtain ⟨s', hat, rfl, rfl, -, -⟩ := leads_meaning_iff.1 h
    exact hfirst s' (by simp [Site.text]) hat
  · intro hfirst s' ht hat
    obtain ⟨q, h, -⟩ := matchesAt_meaning_iff.2 hat
    exact hfirst s'.front _ _ q (by simp [← ht, Site.text]) h

/-- **The search finds nothing** just where the pattern is nowhere in the text. -/
theorem find_eq_none_iff_isIn (name text : Text) :
    find name text = none ↔ (meaning name).isIn text = false := by
  rw [find_eq_none_iff, ← Bool.not_eq_true, Meaning.isIn_iff]
  constructor
  · rintro hnone ⟨front, rest, kept, q, rfl, h⟩
    obtain ⟨s, hat, rfl, rfl, -, -⟩ := leads_meaning_iff.1 h
    exact hnone s (by simp [Site.text]) hat
  · intro hnone s ht hat
    obtain ⟨q, h, -⟩ := matchesAt_meaning_iff.2 hat
    exact hnone ⟨s.front, _, _, q, by simp [← ht, Site.text], h⟩

/-- **Only for want of room** can a name not be searched for. -/
theorem search_eq (name : Text) :
    search name = if (meaning name).fits then .ok (find name) else .error .noRoom := by
  rw [search, compile, meaningOf_pattern]
  cases h : (meaning name).fits with
  | false => simp only [h]; rfl
  | true => simp only [h]; rfl

end ReleaseStamp.Declaration
