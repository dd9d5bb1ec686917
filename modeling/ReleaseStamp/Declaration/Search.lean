import ReleaseStamp.Declaration.Grammar
/-!
# The first declaration of a name

`find` goes through a text from the left and stops at the first place where a declaration of the
name begins.  What it finds is a cut of that very text (`text_of_find`) with a declaration at it
(`isAt_of_find`).
-/
namespace ReleaseStamp.Declaration

open Text (isBlank isWord)

/-- What follows the name, `=` and the opening quote. -/
def afterName? (name t : Text) : Option Text :=
  (Text.after? name t).bind fun t =>
  (Text.after? ['='] (t.dropWhile isBlank)).bind fun t =>
  Text.after? ['"'] (t.dropWhile isBlank)

/-- What follows blanks, of which there is at least one, the name, `=` and the opening quote.  A
name may itself begin with blanks, so it is looked for after each blank in turn. -/
def afterGap? (name : Text) : Text → Option Text
  | [] => none
  | c :: t =>
    if isBlank c then
      match afterName? name t with
      | some rest => some rest
      | none => afterGap? name t
    else none

def afterHead? (name t : Text) : Option Text := (Text.after? keyword t).bind (afterGap? name)

/-- The declaration of the name that a text begins with. -/
def read? (name t : Text) : Option Site :=
  (afterHead? name t).bind fun r =>
  match r.dropWhile (· != '"') with
  | [] => none
  | rest => some ⟨[], t.take (t.length - r.length), r.takeWhile (· != '"'), rest⟩

/-- Goes on with a search that has passed `seen` by, which is given last character first. -/
def findFrom (name seen : Text) : Text → Option Site
  | [] => none
  | c :: t =>
    match if wordMayBegin seen then read? name (c :: t) else none with
    | some s => some { s with front := seen.reverse }
    | none => findFrom name (c :: seen) t

def find (name text : Text) : Option Site := findFrom name [] text

theorem append_of_afterName? {name t r : Text} (h : afterName? name t = some r) :
    ∃ pad lead : Text, (∀ c ∈ pad ++ lead, isBlank c = true) ∧
      t = name ++ pad ++ '=' :: (lead ++ ['"']) ++ r := by
  simp only [afterName?, Option.bind_eq_some_iff, Text.after?_eq_some_iff] at h
  obtain ⟨t1, rfl, t2, h1, h2⟩ := h
  refine ⟨t1.takeWhile isBlank, t2.takeWhile isBlank, ?_, ?_⟩
  · intro c hc
    rcases List.mem_append.1 hc with hc | hc <;> exact List.all_eq_true.1 List.all_takeWhile c hc
  · have e1 := (List.takeWhile_append_dropWhile : t1.takeWhile isBlank ++ t1.dropWhile isBlank = t1)
    have e2 := (List.takeWhile_append_dropWhile : t2.takeWhile isBlank ++ t2.dropWhile isBlank = t2)
    rw [h1] at e1
    rw [h2] at e2
    conv => lhs; rw [← e1, ← e2]
    simp

theorem append_of_afterGap? {name : Text} : ∀ {t r : Text}, afterGap? name t = some r →
    ∃ gap pad lead : Text, gap ≠ [] ∧ (∀ c ∈ gap ++ pad ++ lead, isBlank c = true) ∧
      t = gap ++ name ++ pad ++ '=' :: (lead ++ ['"']) ++ r
  | [], r, h => by simp [afterGap?] at h
  | c :: t, r, h => by
    simp only [afterGap?] at h
    split at h
    · rename_i hc
      split at h
      · rename_i r' hr
        cases h
        obtain ⟨pad, lead, hb, rfl⟩ := append_of_afterName? hr
        exact ⟨[c], pad, lead, by simp, by simpa [hc] using hb, by simp⟩
      · obtain ⟨gap, pad, lead, -, hb, rfl⟩ := append_of_afterGap? h
        exact ⟨c :: gap, pad, lead, by simp, by simpa [hc] using hb, by simp⟩
    · cases h

theorem append_of_afterHead? {name t r : Text} (h : afterHead? name t = some r) :
    ∃ head, IsHead name head ∧ t = head ++ r := by
  simp only [afterHead?, Option.bind_eq_some_iff, Text.after?_eq_some_iff] at h
  obtain ⟨t1, rfl, h⟩ := h
  obtain ⟨gap, pad, lead, hne, hb, rfl⟩ := append_of_afterGap? h
  exact ⟨_, ⟨gap, pad, lead, hne, hb, rfl⟩, by simp⟩

theorem of_read? {name t : Text} {s : Site} (h : read? name t = some s) :
    s.front = [] ∧ s.text = t ∧ IsHead name s.head ∧ '"' ∉ s.value ∧ s.rest.head? = some '"' := by
  simp only [read?, Option.bind_eq_some_iff] at h
  obtain ⟨r, hr, h⟩ := h
  obtain ⟨head, hhead, rfl⟩ := append_of_afterHead? hr
  have e := (List.takeWhile_append_dropWhile : r.takeWhile (· != '"') ++ r.dropWhile (· != '"') = r)
  split at h
  · cases h
  · rename_i rest hrest
    cases h
    refine ⟨rfl, ?_, by simpa using hhead, ?_, ?_⟩
    · simp [Site.text, e]
    · intro hq
      have := List.all_eq_true.1 (List.all_takeWhile (p := (· != '"')) (l := r)) _ hq
      simp at this
    · have := List.head?_dropWhile_not (· != '"') r
      cases hd : r.dropWhile (· != '"') with
      | nil => exact absurd hd hrest
      | cons c u =>
        rw [hd] at this
        simpa using this

theorem of_findFrom {name : Text} : ∀ {t seen : Text} {s : Site},
    findFrom name seen t = some s → s.text = seen.reverse ++ t ∧ IsAt name s
  | [], seen, s, h => by simp [findFrom] at h
  | c :: t, seen, s, h => by
    simp only [findFrom] at h
    split at h
    · rename_i s' hs
      cases h
      split at hs
      · rename_i hw
        obtain ⟨hf, ht, hh, hv, hr⟩ := of_read? hs
        refine ⟨?_, by simpa using hw, hh, hv, hr⟩
        simpa [Site.text, hf] using ht
      · cases hs
    · obtain ⟨ht, hat⟩ := of_findFrom h
      exact ⟨by simpa using ht, hat⟩

theorem text_of_find {name text : Text} {s : Site} (h : find name text = some s) :
    s.text = text := by
  simpa using (of_findFrom h).1

theorem isAt_of_find {name text : Text} {s : Site} (h : find name text = some s) : IsAt name s :=
  (of_findFrom h).2

end ReleaseStamp.Declaration
