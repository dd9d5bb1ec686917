import ReleaseStamp.Proofs.Declaration.All
import ReleaseStamp.Proofs.Text.Piece
/-!
# Where declarations stand

A head ends with its only quote, so it ends a piece of the text, and the value is the piece after
that.  What stands in the pieces are therefore all declarations (`IsAt.opens`, `isAt_siteAt`).  Read
from its end a piece has at most one head, and of at most one name (`Opens.unique`); a piece without
blanks has none (`not_opens_of_isBare`).
-/
namespace ReleaseStamp

open Text (isBlank isWord byteLength pieces joined closed pieceStart)

/-- No quote is in the text and no blank. -/
structure Text.IsBare (t : Text) : Prop where
  quote_notMem : '"' ∉ t
  isBlank_eq_false : ∀ c ∈ t, isBlank c = false

theorem Text.isBare_iff (t : Text) :
    t.IsBare ↔ t.all (fun c => c != '"' && !isBlank c) = true := by
  rw [List.all_eq_true]
  constructor
  · intro h c hc
    have hne : c ≠ '"' := fun he => h.quote_notMem (he ▸ hc)
    simp [hne, h.isBlank_eq_false c hc]
  · intro h
    have hboth : ∀ c ∈ t, c ≠ '"' ∧ isBlank c = false := fun c hc => by simpa using h c hc
    exact ⟨fun hq => (hboth _ hq).1 rfl, fun c hc => (hboth c hc).2⟩

instance (t : Text) : Decidable t.IsBare := decidable_of_iff _ t.isBare_iff.symm

namespace Site

/-- The number of quotes before the keyword. -/
def index (s : Site) : Nat := s.front.count '"'

/-- What stands between the last of these quotes and the keyword. -/
def inner (s : Site) : Text := (pieces s.front).getLast (Text.pieces_ne_nil s.front)

end Site

namespace Declaration

/-- A name that is not empty, has no quote and no blank. -/
structure IsName (name : Text) : Prop extends Text.IsBare name where
  ne_nil : name ≠ []

theorem isName_iff (name : Text) : IsName name ↔ name.IsBare ∧ name ≠ [] :=
  ⟨fun h => ⟨h.toIsBare, h.ne_nil⟩, fun h => ⟨h.1, h.2⟩⟩

instance (name : Text) : Decidable (IsName name) := decidable_of_iff _ (isName_iff name).symm

/-- A name that is not empty and has no blank; it may have quotes. -/
structure IsUnbroken (name : Text) : Prop where
  ne_nil : name ≠ []
  isBlank_eq_false : ∀ c ∈ name, isBlank c = false

theorem isUnbroken_iff (name : Text) :
    IsUnbroken name ↔ name ≠ [] ∧ name.all (!isBlank ·) = true := by
  rw [List.all_eq_true]
  simp only [Bool.not_eq_true']
  exact ⟨fun h => ⟨h.ne_nil, h.isBlank_eq_false⟩, fun h => ⟨h.1, h.2⟩⟩

instance (name : Text) : Decidable (IsUnbroken name) :=
  decidable_of_iff _ (isUnbroken_iff name).symm

theorem IsName.isUnbroken {name : Text} (h : IsName name) : IsUnbroken name :=
  ⟨h.ne_nil, h.isBlank_eq_false⟩

/-- A piece of a text ends, together with the quote after it, with a head of the name. -/
structure Opens (name piece inner head : Text) : Prop where
  append_quote : piece ++ ['"'] = inner ++ head
  isHead : IsHead name head
  wordMayBegin_inner : wordMayBegin inner.reverse = true

/-- The site of a head that ends the piece of number `i` after `inner`. -/
def siteAt (ps : List Text) (i : Nat) (inner head : Text) : Site where
  front := closed (ps.take i) ++ inner
  head := head
  value := ps.getD (i + 1) []
  rest := '"' :: joined (ps.drop (i + 2))

theorem quote_notMem_of_isBlank {t : Text} (h : ∀ c ∈ t, isBlank c = true) : '"' ∉ t := fun hq => by
  have := h _ hq
  exact absurd this (by decide)

theorem IsHead.exists_append_quote {name head : Text} (h : IsHead name head) (hq : '"' ∉ name) :
    ∃ body, head = body ++ ['"'] ∧ '"' ∉ body ∧ byteLength keyword ≤ byteLength body := by
  obtain ⟨gap, pad, lead, -, hb, rfl⟩ := h
  have hqb := quote_notMem_of_isBlank hb
  simp only [List.mem_append, not_or] at hqb
  have hk : '"' ∉ keyword := by decide
  refine ⟨keyword ++ gap ++ name ++ pad ++ '=' :: lead, by simp, ?_, ?_⟩
  · simp [hk, hq, hqb]
  · simp only [Text.byteLength_append]
    omega

theorem wordMayBegin_of_append : ∀ {s t : Text},
    wordMayBegin (s ++ t) = true → wordMayBegin s = true
  | [], _, _ => rfl
  | _ :: _, _, h => h

theorem wordMayBegin_append {s t : Text} (hs : wordMayBegin s = true) (ht : wordMayBegin t = true) :
    wordMayBegin (s ++ t) = true := by
  cases s with
  | nil => exact ht
  | cons c s => exact hs

theorem wordMayBegin_closed (ps : List Text) : wordMayBegin (closed ps).reverse = true := by
  have hq : isWord '"' = false := by decide
  rcases List.eq_nil_or_concat ps with rfl | ⟨qs, q, rfl⟩
  · rfl
  · simp [wordMayBegin, hq]

theorem Opens.byteLength_inner_le {name piece inner head : Text} (h : Opens name piece inner head)
    (hq : '"' ∉ name) : byteLength inner + byteLength keyword ≤ byteLength piece := by
  obtain ⟨body, hbody, -, hk⟩ := h.isHead.exists_append_quote hq
  have heq := congrArg byteLength h.append_quote
  rw [hbody] at heq
  simp only [Text.byteLength_append] at heq
  omega

/-- The quotes of a declaration cut the text around its value. -/
theorem IsAt.pieces_text {name : Text} {s : Site} (h : IsAt name s) (hq : '"' ∉ name) :
    ∃ body rest, s.head = body ++ ['"'] ∧ s.rest = '"' :: rest ∧
      pieces s.text = (pieces s.front).dropLast ++ (s.inner ++ body) :: s.value :: pieces rest := by
  obtain ⟨body, hhead, hbody, -⟩ := h.isHead.exists_append_quote hq
  obtain ⟨rest, hrest⟩ : ∃ rest, s.rest = '"' :: rest := List.head?_eq_some_iff.1 h.head?_rest
  refine ⟨body, rest, hhead, hrest, ?_⟩
  have hjoin : joined ((pieces s.front).dropLast ++ (s.inner ++ body) :: s.value :: pieces rest) =
      s.text := by
    rw [Text.joined_append (by simp), Text.joined_cons _ (by simp),
      Text.joined_cons _ (Text.pieces_ne_nil rest), Text.joined_pieces, Site.text, hhead, hrest]
    conv => rhs; rw [← Text.closed_dropLast_pieces s.front]
    simp [Site.inner]
  rw [← hjoin]
  refine Text.pieces_joined (by simp) fun p hp => ?_
  rw [List.mem_append, List.mem_cons, List.mem_cons] at hp
  rcases hp with hp | rfl | rfl | hp
  · exact Text.quote_notMem_of_mem_pieces (List.dropLast_subset _ hp)
  · have hinner := Text.quote_notMem_of_mem_pieces (List.getLast_mem (Text.pieces_ne_nil s.front))
    simp [Site.inner, hinner, hbody]
  · exact h.quote_notMem_value
  · exact Text.quote_notMem_of_mem_pieces hp

theorem IsAt.opens {name : Text} {s : Site} (h : IsAt name s) (hq : '"' ∉ name) :
    s.index + 2 < (pieces s.text).length ∧
      Opens name ((pieces s.text).getD s.index []) s.inner s.head ∧
        s = siteAt (pieces s.text) s.index s.inner s.head := by
  obtain ⟨body, rest, hhead, hrest, hps⟩ := h.pieces_text hq
  have hindex : s.index = (pieces s.front).dropLast.length :=
    (Text.length_dropLast_pieces s.front).symm
  have hfront : closed (pieces s.front).dropLast ++ s.inner = s.front :=
    Text.closed_dropLast_pieces s.front
  have hw : wordMayBegin s.inner.reverse = true := by
    have := h.wordMayBegin_front
    rw [← hfront, List.reverse_append] at this
    exact wordMayBegin_of_append this
  rw [hps, hindex]
  generalize (pieces s.front).dropLast = pre at hfront
  refine ⟨?_, ⟨by simp [hhead], h.isHead, hw⟩, ?_⟩
  · have := List.length_pos_iff.2 (Text.pieces_ne_nil rest)
    simp only [List.length_append, List.length_cons]
    omega
  · simp [siteAt, hfront, Text.joined_pieces, ← hrest]

theorem text_withValue_siteAt {name inner head : Text} {ps : List Text} {i : Nat}
    (hi : i + 2 < ps.length) (h : Opens name (ps.getD i []) inner head) (v : Text) :
    ((siteAt ps i inner head).withValue v).text = joined (ps.set (i + 1) v) := by
  rw [Text.joined_set hi, ← List.singleton_append, ← List.append_assoc (ps.getD i []),
    h.append_quote]
  simp [siteAt, Site.withValue, Site.text]

/-- A head that ends a piece before the last two makes a declaration. -/
theorem isAt_siteAt {name t inner head : Text} {i : Nat} (hi : i + 2 < (pieces t).length)
    (h : Opens name ((pieces t).getD i []) inner head) :
    (siteAt (pieces t) i inner head).text = t ∧ IsAt name (siteAt (pieces t) i inner head) := by
  refine ⟨?_, ?_, h.isHead, Text.quote_notMem_getD_pieces t (i + 1), rfl⟩
  · have hset : (pieces t).set (i + 1) ((pieces t).getD (i + 1) []) = pieces t := by
      rw [List.getD_eq_getElem _ _ (by omega), List.set_getElem_self]
    have := text_withValue_siteAt hi h ((pieces t).getD (i + 1) [])
    rwa [hset, Text.joined_pieces] at this
  · rw [siteAt, List.reverse_append]
    exact wordMayBegin_append h.wordMayBegin_inner (wordMayBegin_closed _)

theorem index_siteAt {name t inner head : Text} {i : Nat} (hq : '"' ∉ name)
    (hi : i + 2 < (pieces t).length) (h : Opens name ((pieces t).getD i []) inner head) :
    (siteAt (pieces t) i inner head).index = i := by
  have hclean : ∀ p ∈ (pieces t).take i, '"' ∉ p := fun p hp =>
    Text.quote_notMem_of_mem_pieces (List.mem_of_mem_take hp)
  obtain ⟨body, hbody, -, -⟩ := h.isHead.exists_append_quote hq
  have hinner : '"' ∉ inner := fun hm => by
    have heq := h.append_quote
    rw [hbody, ← List.append_assoc, List.append_cancel_right_eq] at heq
    exact Text.quote_notMem_getD_pieces t i (heq ▸ List.mem_append_left body hm)
  rw [Site.index, siteAt, List.count_append, Text.count_closed hclean,
    List.count_eq_zero.2 hinner]
  simp only [List.length_take]
  omega

/-! ## A piece read from its end -/

theorem Opens.exists_reverse {name piece inner head : Text} (h : Opens name piece inner head) :
    ∃ gap pad lead : Text, gap ≠ [] ∧ (∀ c ∈ gap ++ pad ++ lead, isBlank c = true) ∧
      head = keyword ++ gap ++ name ++ pad ++ '=' :: (lead ++ ['"']) ∧
      piece.reverse = lead.reverse ++ '=' :: (pad.reverse ++ (name.reverse ++
        (gap.reverse ++ (keyword.reverse ++ inner.reverse)))) := by
  obtain ⟨heq, ⟨gap, pad, lead, hne, hb, rfl⟩, -⟩ := h
  refine ⟨gap, pad, lead, hne, hb, rfl, ?_⟩
  have := congrArg List.reverse heq
  simpa using this

theorem Opens.unique {name name' piece inner inner' head head' : Text} (hn : IsUnbroken name)
    (hn' : IsUnbroken name') (h : Opens name piece inner head)
    (h' : Opens name' piece inner' head') : name = name' ∧ inner = inner' ∧ head = head' := by
  obtain ⟨gap, pad, lead, hne, hb, hhead, hr⟩ := h.exists_reverse
  obtain ⟨gap', pad', lead', hne', hb', hhead', hr'⟩ := h'.exists_reverse
  have he : isBlank '=' = false := by decide
  have ht : isBlank 't' = false := by decide
  have hk : keyword.reverse = ['t', 'e', 'l'] := by decide
  -- seen from its end a name is a run of characters that are no blanks, between two runs of blanks
  have last : ∀ {t u : Text}, IsUnbroken t → (t.reverse ++ u).head?.all (!isBlank ·) = true := by
    intro t u ht
    obtain ⟨c, cs, hc⟩ := List.exists_cons_of_ne_nil (List.reverse_ne_nil_iff.2 ht.ne_nil)
    have := ht.isBlank_eq_false c (List.mem_reverse.1 (by rw [hc]; simp))
    simp [hc, this]
  have blank : ∀ {t u : Text}, t ≠ [] → (∀ c ∈ t, isBlank c = true) →
      (t.reverse ++ u).head?.all (!!isBlank ·) = true := by
    intro t u hne hb
    obtain ⟨c, cs, hc⟩ := List.exists_cons_of_ne_nil (List.reverse_ne_nil_iff.2 hne)
    have := hb c (List.mem_reverse.1 (by rw [hc]; simp))
    simp [hc, this]
  simp only [List.mem_append] at hb hb'
  obtain ⟨hlead, h1⟩ := Text.run_unique (p := isBlank) (by simpa using fun c hc => hb c (.inr hc))
    (by simpa using fun c hc => hb' c (.inr hc)) (by simp [he]) (by simp [he]) (hr.symm.trans hr')
  obtain ⟨hpad, h2⟩ := Text.run_unique (p := isBlank)
    (by simpa using fun c hc => hb c (.inl (.inr hc)))
    (by simpa using fun c hc => hb' c (.inl (.inr hc))) (last hn) (last hn') (List.cons.inj h1).2
  obtain ⟨hname, h3⟩ := Text.run_unique (p := (!isBlank ·))
    (by simpa using hn.isBlank_eq_false) (by simpa using hn'.isBlank_eq_false)
    (blank hne fun c hc => hb c (.inl (.inl hc))) (blank hne' fun c hc => hb' c (.inl (.inl hc))) h2
  obtain ⟨hgap, h4⟩ := Text.run_unique (p := isBlank)
    (by simpa using fun c hc => hb c (.inl (.inl hc)))
    (by simpa using fun c hc => hb' c (.inl (.inl hc))) (by simp [hk, ht]) (by simp [hk, ht]) h3
  have hinner := List.append_cancel_left h4
  simp only [List.reverse_inj] at hlead hpad hname hgap hinner
  exact ⟨hname, hinner, by rw [hhead, hhead', hlead, hpad, hname, hgap]⟩

theorem not_opens_of_isBare {name piece inner head : Text} (hp : piece.IsBare) :
    ¬ Opens name piece inner head := by
  intro h
  obtain ⟨gap, pad, lead, hne, hb, -, hr⟩ := h.exists_reverse
  obtain ⟨c, cs, rfl⟩ := List.exists_cons_of_ne_nil hne
  have hmem : c ∈ piece := List.mem_reverse.1 (by rw [hr]; simp)
  have hc : isBlank c = true := hb c (by simp)
  rw [hp.isBlank_eq_false c hmem] at hc
  cases hc

end Declaration
end ReleaseStamp
