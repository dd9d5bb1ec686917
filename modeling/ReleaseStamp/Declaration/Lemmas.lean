import ReleaseStamp.Declaration.Search
/-!
# What is found

A declaration reads in one way only: where its keyword stands decides where its value does
(`isHead_unique`), although a name that begins with blanks could part them from the blanks before
it in many ways.  Hence the search finds a declaration whenever there is one, and of several the
first (`find_eq_some_iff`, `find_eq_none_iff`).
-/
namespace ReleaseStamp.Declaration

open Text (isBlank isWord)

/-- What follows a name up to the value reads in one way only. -/
theorem assign_unique {pad pad' lead lead' r r' : Text}
    (hb : ∀ c ∈ pad ++ lead, isBlank c = true) (hb' : ∀ c ∈ pad' ++ lead', isBlank c = true)
    (h : pad ++ '=' :: (lead ++ '"' :: r) = pad' ++ '=' :: (lead' ++ '"' :: r')) : r = r' := by
  have hq : isBlank '"' = false := by decide
  have he : isBlank '=' = false := by decide
  obtain ⟨-, h1⟩ := Text.run_unique (fun c hc => hb c (List.mem_append_left _ hc))
    (fun c hc => hb' c (List.mem_append_left _ hc)) (by simp [he]) (by simp [he]) h
  obtain ⟨-, h2⟩ := Text.run_unique (fun c hc => hb c (List.mem_append_right _ hc))
    (fun c hc => hb' c (List.mem_append_right _ hc)) (by simp [hq]) (by simp [hq])
    (List.cons.inj h1).2
  exact (List.cons.inj h2).2

theorem isHead_unique {name head head' r r' : Text} (hh : IsHead name head)
    (hh' : IsHead name head') (h : head ++ r = head' ++ r') : head = head' ∧ r = r' := by
  suffices hr : r = r' by
    subst hr
    exact ⟨List.append_cancel_right h, rfl⟩
  obtain ⟨gap, pad, lead, -, hb, rfl⟩ := hh
  obtain ⟨gap', pad', lead', -, hb', rfl⟩ := hh'
  have he : isBlank '=' = false := by decide
  simp only [List.append_assoc, List.cons_append, List.nil_append, List.append_cancel_left_eq] at h
  simp only [List.append_assoc, List.mem_append] at hb hb'
  -- the blanks that the name begins with join the gap
  have hname := (List.takeWhile_append_dropWhile :
    name.takeWhile isBlank ++ name.dropWhile isBlank = name)
  have hrun : ∀ c ∈ name.takeWhile isBlank, isBlank c = true :=
    List.all_eq_true.1 List.all_takeWhile
  have hcore := List.head?_dropWhile_not isBlank name
  generalize name.takeWhile isBlank = run at hname hrun
  generalize name.dropWhile isBlank = core at hname hcore
  subst hname
  cases core with
  | nil =>
    simp only [List.append_nil] at h
    have h1 : (gap ++ run ++ pad) ++ '=' :: (lead ++ '"' :: r) =
        (gap' ++ run ++ pad') ++ '=' :: (lead' ++ '"' :: r') := by simpa using h
    refine assign_unique ?_ ?_ h1
    · intro c hc
      simp only [List.append_assoc, List.mem_append] at hc
      rcases hc with hc | hc | hc | hc
      · exact hb c (.inl hc)
      · exact hrun c hc
      · exact hb c (.inr (.inl hc))
      · exact hb c (.inr (.inr hc))
    · intro c hc
      simp only [List.append_assoc, List.mem_append] at hc
      rcases hc with hc | hc | hc | hc
      · exact hb' c (.inl hc)
      · exact hrun c hc
      · exact hb' c (.inr (.inl hc))
      · exact hb' c (.inr (.inr hc))
  | cons d core =>
    have hd : isBlank d = false := by simpa using hcore
    have h1 : (gap ++ run) ++ d :: (core ++ (pad ++ '=' :: (lead ++ '"' :: r))) =
        (gap' ++ run) ++ d :: (core ++ (pad' ++ '=' :: (lead' ++ '"' :: r'))) := by simpa using h
    have hgap : ∀ c ∈ gap ++ run, isBlank c = true := fun c hc =>
      (List.mem_append.1 hc).elim (fun hc => hb c (.inl hc)) (hrun c)
    have hgap' : ∀ c ∈ gap' ++ run, isBlank c = true := fun c hc =>
      (List.mem_append.1 hc).elim (fun hc => hb' c (.inl hc)) (hrun c)
    obtain ⟨-, h2⟩ := Text.run_unique hgap hgap' (by simp [hd]) (by simp [hd]) h1
    have h3 := List.append_cancel_left (List.cons.inj h2).2
    exact assign_unique (fun c hc => hb c (.inr (List.mem_append.1 hc)))
      (fun c hc => hb' c (.inr (List.mem_append.1 hc))) h3

theorem afterName?_append {name pad lead r : Text} (hb : ∀ c ∈ pad ++ lead, isBlank c = true) :
    afterName? name (name ++ pad ++ '=' :: (lead ++ ['"']) ++ r) = some r := by
  have hq : isBlank '"' = false := by decide
  have he : isBlank '=' = false := by decide
  have hpad : ∀ c ∈ pad, isBlank c = true := fun c hc => hb c (List.mem_append_left _ hc)
  have hlead : ∀ c ∈ lead, isBlank c = true := fun c hc => hb c (List.mem_append_right _ hc)
  simp only [afterName?, Option.bind_eq_some_iff, Text.after?_eq_some_iff]
  refine ⟨pad ++ '=' :: (lead ++ '"' :: r), by simp, lead ++ '"' :: r, ?_, ?_⟩
  · rw [List.dropWhile_append_of_pos hpad]; simp [he]
  · rw [List.dropWhile_append_of_pos hlead]; simp [hq]

theorem isSome_afterGap? {name : Text} : ∀ {gap t : Text}, gap ≠ [] →
    (∀ c ∈ gap, isBlank c = true) → (afterName? name t).isSome = true →
    (afterGap? name (gap ++ t)).isSome = true
  | [], _, h, _, _ => absurd rfl h
  | [c], t, _, hb, ht => by
    obtain ⟨r, hr⟩ := Option.isSome_iff_exists.1 ht
    simp [afterGap?, hb c (by simp), hr]
  | c :: d :: gap, t, _, hb, ht => by
    have ih := isSome_afterGap? (List.cons_ne_nil d gap) (fun x hx => hb x (by simp [hx])) ht
    rw [List.cons_append, afterGap?, if_pos (hb c (by simp))]
    split
    · rfl
    · exact ih

theorem afterHead?_append {name head r : Text} (hh : IsHead name head) :
    afterHead? name (head ++ r) = some r := by
  have hsome : (afterHead? name (head ++ r)).isSome = true := by
    obtain ⟨gap, pad, lead, hne, hb, rfl⟩ := hh
    have hk := (Text.after?_eq_some_iff keyword
      (keyword ++ (gap ++ (name ++ pad ++ '=' :: (lead ++ ['"']) ++ r))) _).2 rfl
    have hn := @afterName?_append name pad lead r
      (fun c hc => hb c (by simpa [or_assoc] using .inr (List.mem_append.1 hc)))
    have hg := isSome_afterGap? hne (fun c hc => hb c (by simp [hc])) (Option.isSome_of_eq_some hn)
    have e : keyword ++ gap ++ name ++ pad ++ '=' :: (lead ++ ['"']) ++ r =
        keyword ++ (gap ++ (name ++ pad ++ '=' :: (lead ++ ['"']) ++ r)) := by simp
    rw [e, afterHead?, hk]
    exact hg
  obtain ⟨r', hr'⟩ := Option.isSome_iff_exists.1 hsome
  obtain ⟨head', hh', h⟩ := append_of_afterHead? hr'
  rw [hr', (isHead_unique hh hh' h).2]

theorem value_unique {v v' r r' : Text} (hv : '"' ∉ v) (hv' : '"' ∉ v')
    (h : v ++ '"' :: r = v' ++ '"' :: r') : v = v' ∧ r = r' := by
  have run : ∀ v : Text, '"' ∉ v → ∀ c ∈ v, (c != '"') = true := fun v hv c hc => by
    have : c ≠ '"' := fun e => hv (e ▸ hc)
    simpa using this
  obtain ⟨rfl, hr⟩ := Text.run_unique (run v hv) (run v' hv') (by simp) (by simp) h
  exact ⟨rfl, (List.cons.inj hr).2⟩

/-- Where the keyword stands decides the whole cut. -/
theorem IsAt.unique {name : Text} {s s' : Site} (h : IsAt name s) (h' : IsAt name s')
    (hf : s.front = s'.front) (ht : s.text = s'.text) : s = s' := by
  obtain ⟨front, head, value, rest⟩ := s
  obtain ⟨front', head', value', rest'⟩ := s'
  obtain rfl : front = front' := hf
  obtain ⟨rest, rfl⟩ : ∃ r, rest = '"' :: r := by
    cases rest with
    | nil => cases h.head?_rest
    | cons c r => cases h.head?_rest; exact ⟨r, rfl⟩
  obtain ⟨rest', rfl⟩ : ∃ r, rest' = '"' :: r := by
    cases rest' with
    | nil => cases h'.head?_rest
    | cons c r => cases h'.head?_rest; exact ⟨r, rfl⟩
  simp only [Site.text, List.append_assoc, List.append_cancel_left_eq] at ht
  obtain ⟨rfl, hr⟩ := isHead_unique h.isHead h'.isHead ht
  obtain ⟨rfl, rfl⟩ := value_unique h.quote_notMem_value h'.quote_notMem_value hr
  rfl

theorem read?_text {name : Text} {s : Site} (h : IsAt name s) (hf : s.front = []) :
    read? name s.text = some s := by
  obtain ⟨front, head, value, rest⟩ := s
  obtain rfl : front = [] := hf
  obtain ⟨rest, rfl⟩ : ∃ r, rest = '"' :: r := by
    cases rest with
    | nil => cases h.head?_rest
    | cons c r => cases h.head?_rest; exact ⟨r, rfl⟩
  have hh := afterHead?_append (r := value ++ '"' :: rest) h.isHead
  have hv : ∀ c ∈ value, (c != '"') = true := fun c hc => by
    have : c ≠ '"' := fun e => h.quote_notMem_value (e ▸ hc)
    simpa using this
  simp only [Site.text, List.nil_append, List.append_assoc, read?, hh, Option.bind_some,
    List.dropWhile_append_of_pos hv, List.takeWhile_append_of_pos hv]
  simp

theorem IsHead.ne_nil {name head : Text} (h : IsHead name head) : head ≠ [] := by
  obtain ⟨gap, pad, lead, -, -, rfl⟩ := h
  simp

/-- The search passes no declaration by. -/
theorem findFrom_le {name : Text} : ∀ {t seen : Text} {s : Site}, IsAt name s →
    s.text = seen.reverse ++ t → seen.length ≤ s.front.length →
    ∃ s', findFrom name seen t = some s' ∧ s'.front.length ≤ s.front.length
  | [], seen, s, h, ht, hl => by
    have hne := List.length_pos_iff.2 h.isHead.ne_nil
    have := congrArg List.length ht
    simp only [Site.text, List.length_append, List.length_reverse, List.length_nil] at this
    omega
  | c :: t, seen, s, h, ht, hl => by
    by_cases heq : s.front.length = seen.length
    · have hcut := List.append_inj
        (show s.front ++ (s.head ++ s.value ++ s.rest) = seen.reverse ++ c :: t by
          simpa [Site.text] using ht)
        (by simpa using heq)
      have hw : wordMayBegin seen = true := by
        simpa [hcut.1] using h.wordMayBegin_front
      have hr : read? name (c :: t) = some { s with front := [] } := by
        have := read?_text (s := { s with front := [] })
          ⟨rfl, h.isHead, h.quote_notMem_value, h.head?_rest⟩ rfl
        have ht : Site.text { s with front := [] } = c :: t := by simpa [Site.text] using hcut.2
        rwa [ht] at this
      refine ⟨s, ?_, Nat.le_refl _⟩
      simp only [findFrom, hw, if_true, hr, ← hcut.1]
    · simp only [findFrom]
      split
      · rename_i s' hs
        exact ⟨_, rfl, by simpa using hl⟩
      · exact findFrom_le h (by simpa using ht) (by simp only [List.length_cons]; omega)

theorem find_eq_none_iff (name text : Text) :
    find name text = none ↔ ∀ s : Site, s.text = text → ¬ IsAt name s := by
  constructor
  · intro h s ht hat
    obtain ⟨s', hs, -⟩ := @findFrom_le name text [] _ hat (by simpa using ht) (Nat.zero_le _)
    rw [find, hs] at h
    cases h
  · intro h
    cases hf : find name text with
    | none => rfl
    | some s => exact absurd (isAt_of_find hf) (h s (text_of_find hf))

theorem find_eq_some_iff (name text : Text) (s : Site) :
    find name text = some s ↔ s.text = text ∧ IsAt name s ∧
      ∀ s' : Site, s'.text = text → IsAt name s' → s.front.length ≤ s'.front.length := by
  constructor
  · intro h
    refine ⟨text_of_find h, isAt_of_find h, fun s' ht hat => ?_⟩
    obtain ⟨s'', hs, hle⟩ := @findFrom_le name text [] _ hat (by simpa using ht) (Nat.zero_le _)
    rw [find, hs] at h
    cases h
    exact hle
  · rintro ⟨ht, hat, hmin⟩
    obtain ⟨s', hs, hle⟩ := @findFrom_le name text [] _ hat (by simpa using ht) (Nat.zero_le _)
    obtain ⟨ht', hat'⟩ := of_findFrom hs
    have ht'' : s'.text = text := by simpa using ht'
    have hlen : s.front.length = s'.front.length := Nat.le_antisymm (hmin s' ht'' hat') hle
    have hfront := List.append_inj
      (show s.front ++ (s.head ++ s.value ++ s.rest) =
          s'.front ++ (s'.head ++ s'.value ++ s'.rest) by
        simpa [Site.text] using ht.trans ht''.symm) hlen
    rw [find, hs, hat.unique hat' hfront.1 (ht.trans ht''.symm)]

end ReleaseStamp.Declaration
