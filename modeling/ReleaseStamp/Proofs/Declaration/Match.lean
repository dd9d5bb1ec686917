import ReleaseStamp.Proofs.Declaration.All
/-!
# Matches in bytes

`IsMatch` spells a declaration out from the keyword to the closing quote and tells its places in
bytes of the text.  The search finds a match if there is one and of several the leftmost.  However
the blanks in it are shared out, where a match begins decides where its value is; and the value
begins and ends between characters, so it can be cut out of the text (`span_find`).
-/
namespace ReleaseStamp

open Text (isBlank isWord byteLength)

namespace Text

theorem byteLength_eq (t : Text) : byteLength t = (String.ofList t).utf8ByteSize := by
  rw [← size_encode, encode, String.toUTF8_eq_toByteArray, String.size_toByteArray]

theorem isValid_byteLength (t u : Text) :
    String.Pos.Raw.IsValid (String.ofList (t ++ u)) ⟨byteLength t⟩ := by
  refine String.Pos.Raw.isValid_ofList.2 ⟨t.length, ?_⟩
  rw [List.take_left, ← byteLength_eq]

theorem length_le_byteLength : ∀ t : Text, t.length ≤ byteLength t
  | [] => Nat.le_refl 0
  | c :: t => by
    have hc := c.utf8Size_pos
    have ih := length_le_byteLength t
    rw [List.length_cons, byteLength_cons]
    omega

theorem byteLength_le_iff_of_append_eq {t u t' u' : Text} (h : t ++ u = t' ++ u') :
    byteLength t ≤ byteLength t' ↔ t.length ≤ t'.length := by
  rcases List.append_eq_append_iff.1 h with ⟨v, rfl, -⟩ | ⟨v, rfl, -⟩
  · rw [byteLength_append, List.length_append]
    omega
  · have hv := length_le_byteLength v
    rw [byteLength_append, List.length_append]
    constructor
    · intro hle
      omega
    · intro hle
      have hnil : v = [] := List.eq_nil_of_length_eq_zero (by omega)
      rw [hnil, byteLength_nil]
      omega

end Text

namespace Site

/-- The bytes of the value: from the one to before the other. -/
def span (s : Site) : Nat × Nat := (s.start, s.stop)

theorem text_eq_front_append (s : Site) : s.text = s.front ++ (s.head ++ s.value ++ s.rest) := by
  simp [text]

theorem place_le_place_iff {s s' : Site} (ht : s.text = s'.text) :
    s.place ≤ s'.place ↔ s.front.length ≤ s'.front.length := by
  rw [text_eq_front_append, text_eq_front_append] at ht
  exact Text.byteLength_le_iff_of_append_eq ht

theorem isValid_start (s : Site) : String.Pos.Raw.IsValid (String.ofList s.text) ⟨s.start⟩ := by
  rw [text, List.append_assoc]
  exact Text.isValid_byteLength (s.front ++ s.head) (s.value ++ s.rest)

theorem isValid_stop (s : Site) : String.Pos.Raw.IsValid (String.ofList s.text) ⟨s.stop⟩ := by
  rw [stop, start, ← Text.byteLength_append]
  exact Text.isValid_byteLength (s.front ++ s.head ++ s.value) s.rest

end Site

namespace Declaration

/-- From byte `place` on the text reads like a declaration of the name, and its value fills the
bytes from `start` to before `stop`. -/
def IsMatch (name text : Text) (place start stop : Nat) : Prop :=
  ∃ front gap pad lead value rest : Text,
    text = front ++ (keyword ++ gap ++ name ++ pad ++ '=' :: (lead ++ ['"'])) ++ value ++
      '"' :: rest ∧
    (∀ c ∈ front.getLast?, isWord c = false) ∧
    gap ≠ [] ∧ (∀ c ∈ gap ++ pad ++ lead, isBlank c = true) ∧ '"' ∉ value ∧
    place = byteLength front ∧
    start = byteLength (front ++ (keyword ++ gap ++ name ++ pad ++ '=' :: (lead ++ ['"']))) ∧
    stop = start + byteLength value

theorem wordMayBegin_reverse_iff (front : Text) :
    wordMayBegin front.reverse = true ↔ ∀ c ∈ front.getLast?, isWord c = false := by
  rw [← List.head?_reverse]
  cases front.reverse with
  | nil => simp [wordMayBegin]
  | cons c t => simp [wordMayBegin]

theorem isMatch_iff (name text : Text) (place start stop : Nat) :
    IsMatch name text place start stop ↔
      ∃ s : Site, s.text = text ∧ IsAt name s ∧ s.place = place ∧ s.span = (start, stop) := by
  constructor
  · rintro ⟨front, gap, pad, lead, value, rest, rfl, hw, hne, hb, hq, rfl, rfl, rfl⟩
    refine ⟨⟨front, _, value, '"' :: rest⟩, rfl, ?_, rfl, rfl⟩
    exact ⟨(wordMayBegin_reverse_iff front).2 hw, ⟨gap, pad, lead, hne, hb, rfl⟩, hq, rfl⟩
  · rintro ⟨⟨front, head, value, rest⟩, rfl, ⟨hw, hhead, hq, hrest⟩, rfl, hspan⟩
    obtain ⟨gap, pad, lead, hne, hb, rfl⟩ := hhead
    obtain ⟨rest, rfl⟩ := List.head?_eq_some_iff.1 hrest
    cases hspan
    exact ⟨front, gap, pad, lead, value, rest, rfl, (wordMayBegin_reverse_iff front).1 hw, hne, hb,
      hq, rfl, rfl, rfl⟩

section

variable {name text : Text} {place start stop : Nat}

/-- However the blanks are shared out, the value is the same. -/
theorem IsMatch.unique {start' stop' : Nat} (h : IsMatch name text place start stop)
    (h' : IsMatch name text place start' stop') : start = start' ∧ stop = stop' := by
  obtain ⟨s, ht, hs, hp, hspan⟩ := (isMatch_iff _ _ _ _ _).1 h
  obtain ⟨s', ht', hs', hp', hspan'⟩ := (isMatch_iff _ _ _ _ _).1 h'
  have htext : s.text = s'.text := ht.trans ht'.symm
  have hlen : s.front.length = s'.front.length := by
    have hle := (Site.place_le_place_iff htext).1 (by omega)
    have hge := (Site.place_le_place_iff htext.symm).1 (by omega)
    omega
  have hfront : s.front = s'.front := by
    have hcut := htext
    rw [s.text_eq_front_append, s'.text_eq_front_append] at hcut
    exact (List.append_inj hcut hlen).1
  rw [hs.unique hs' hfront htext, hspan'] at hspan
  injection hspan with h1 h2
  exact ⟨h1.symm, h2.symm⟩

theorem IsMatch.isValid (h : IsMatch name text place start stop) :
    start ≤ stop ∧ String.Pos.Raw.IsValid (String.ofList text) ⟨start⟩ ∧
      String.Pos.Raw.IsValid (String.ofList text) ⟨stop⟩ := by
  obtain ⟨s, rfl, -, -, hspan⟩ := (isMatch_iff _ _ _ _ _).1 h
  cases hspan
  exact ⟨Nat.le_add_right _ _, s.isValid_start, s.isValid_stop⟩

theorem find_eq_none_iff_isMatch :
    find name text = none ↔ ∀ place start stop, ¬ IsMatch name text place start stop := by
  rw [find_eq_none_iff]
  constructor
  · intro h place start stop hm
    obtain ⟨s, ht, hs, -⟩ := (isMatch_iff _ _ _ _ _).1 hm
    exact h s ht hs
  · intro h s ht hs
    exact h s.place s.start s.stop ((isMatch_iff _ _ _ _ _).2 ⟨s, ht, hs, rfl, rfl⟩)

theorem find_eq_some_iff_isMatch :
    (find name text).map Site.span = some (start, stop) ↔
      ∃ place, IsMatch name text place start stop ∧
        ∀ place' start' stop', IsMatch name text place' start' stop' → place ≤ place' := by
  rw [Option.map_eq_some_iff]
  constructor
  · rintro ⟨s, hfind, hspan⟩
    obtain ⟨ht, hs, hmin⟩ := (find_eq_some_iff name text s).1 hfind
    refine ⟨s.place, (isMatch_iff _ _ _ _ _).2 ⟨s, ht, hs, rfl, hspan⟩, ?_⟩
    intro place' start' stop' hm
    obtain ⟨s', ht', hs', rfl, -⟩ := (isMatch_iff _ _ _ _ _).1 hm
    exact (Site.place_le_place_iff (ht.trans ht'.symm)).2 (hmin s' ht' hs')
  · rintro ⟨place, hm, hmin⟩
    obtain ⟨s, ht, hs, rfl, hspan⟩ := (isMatch_iff _ _ _ _ _).1 hm
    refine ⟨s, (find_eq_some_iff name text s).2 ⟨ht, hs, fun s' ht' hs' => ?_⟩, hspan⟩
    refine (Site.place_le_place_iff (ht.trans ht'.symm)).1 ?_
    exact hmin s'.place s'.start s'.stop ((isMatch_iff _ _ _ _ _).2 ⟨s', ht', hs', rfl, rfl⟩)

end

/-- **The search finds the leftmost match**, or none where there is none.  A match has one value by
its place alone, and its value begins and ends between characters. -/
theorem span_find (name text : Text) :
    (find name text = none ↔ ∀ place start stop, ¬ IsMatch name text place start stop) ∧
    (∀ start stop, (find name text).map Site.span = some (start, stop) ↔
      ∃ place, IsMatch name text place start stop ∧
        ∀ place' start' stop', IsMatch name text place' start' stop' → place ≤ place') ∧
    (∀ place start stop start' stop', IsMatch name text place start stop →
      IsMatch name text place start' stop' → start = start' ∧ stop = stop') ∧
    ∀ place start stop, IsMatch name text place start stop →
      start ≤ stop ∧ String.Pos.Raw.IsValid (String.ofList text) ⟨start⟩ ∧
        String.Pos.Raw.IsValid (String.ofList text) ⟨stop⟩ :=
  ⟨find_eq_none_iff_isMatch, fun _ _ => find_eq_some_iff_isMatch,
    fun _ _ _ _ _ h h' => h.unique h', fun _ _ _ h => h.isValid⟩

/-- Blanks of three bytes, one of which the name begins with. -/
example : (find "\u3000tag".toList "let let\u3000\u3000tag = \"v1\"".toList).map Site.span =
    some (20, 22) := by
  decide

end Declaration
end ReleaseStamp
