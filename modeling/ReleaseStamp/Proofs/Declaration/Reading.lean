import Mathlib.Data.List.Forall2
import ReleaseStamp.Declaration.Grammar
import ReleaseStamp.Declaration.Pattern
import ReleaseStamp.Journal.Pattern.Basic
/-!
# The pattern of a name is read

Whatever the name, its pattern can be read, nothing in it stands too deep, and all of it means
something (`meaningOf_pattern`).  Each character of the name is read back as itself, in one turn,
behind a backslash or not (`parts_escape`); what stands before and after the name is read as it
stands.
-/
namespace ReleaseStamp.Declaration

open Journal.Pattern

/-! ## Turn by turn -/

/-- What a reading has got to that has no group open and has begun no second branch: how many groups
it has closed, and what parts it has read, the last one first. -/
def progress (groups : Nat) (parts : List Expression) : Progress :=
  ⟨[], [], groups, ⟨0, 0, [], parts⟩⟩

def blanks (least place : Nat) : Expression :=
  .repetition ⟨least, none, true⟩ (.charClass (.shorthand .blank false ⟨place, place + 2⟩))
    ⟨place, place + 3⟩

def valueGroup (place : Nat) : Expression :=
  .group (.capture 1 none)
    (.repetition ⟨0, none, true⟩
      (.charClass (.bracketed (.literal ⟨'"', false, ⟨place + 3, place + 4⟩⟩) true
        ⟨place + 1, place + 5⟩))
      ⟨place + 1, place + 6⟩)
    ⟨place, place + 7⟩

theorem mem_metacharacters_iff {c : Char} : c ∈ metacharacters ↔
    c ∈ ['\\', '.', '+', '*', '?', '(', ')', '|', '[', ']', '\x7b', '\x7d', '^', '$', '#', '&',
      '-', '~'] := Iff.rfl

section Turns

variable {c : Char} {p p' : Progress} {n k place least : Nat} {most? : Option Nat} {e : Expression}
  {es : List Expression} {t : Text}

theorem parts_of_part {r : Cursor} (h : (part p c).run ⟨place, c :: t, false⟩ = .ok (p', r)) :
    (parts (n + 1) p).run ⟨place, c :: t, false⟩ = (parts n p').run r := by
  show Except.bind ((part p c).run ⟨place, c :: t, false⟩) (fun x => (parts n x.1).run x.2) = _
  rw [h]
  rfl

theorem parts_plain (h : c ∉ metacharacters) :
    (parts (n + 1) (progress k es)).run ⟨place, c :: t, false⟩ =
      (parts n (progress k (.literal ⟨c, false, ⟨place, place + 1⟩⟩ :: es))).run
        ⟨place + 1, t, false⟩ := by
  apply parts_of_part
  rw [mem_metacharacters_iff] at h
  simp only [List.mem_cons, List.not_mem_nil, or_false, not_or] at h
  obtain ⟨backslash, dot, plus, star, mark, round, round', bar, square, -, curly, -, caret, dollar,
    -⟩ := h
  have hsign : Repetition.signs.lookup c = none := by
    rw [List.lookup_eq_none_iff]
    simp [Repetition.signs, mark, star, plus]
  simp only [part, backslash, dot, round, round', bar, square, curly, caret, dollar, hsign,
    if_false]
  rfl

theorem parts_escaped (h : c ∈ metacharacters) :
    (parts (n + 1) (progress k es)).run ⟨place, '\\' :: c :: t, false⟩ =
      (parts n (progress k (.literal ⟨c, false, ⟨place, place + 2⟩⟩ :: es))).run
        ⟨place + 2, t, false⟩ := by
  apply parts_of_part
  rw [mem_metacharacters_iff] at h
  simp only [List.mem_cons, List.not_mem_nil, or_false] at h
  rcases h with rfl | rfl | rfl | rfl | rfl | rfl | rfl | rfl | rfl | rfl | rfl | rfl | rfl | rfl |
    rfl | rfl | rfl | rfl <;> rfl

/-- Without a question mark after it, a sign means as many as possible. -/
theorem greed_of_head? (h : t.head? ≠ some '?') :
    Repetition.greed.run ⟨place, t, false⟩ = .ok (true, ⟨place, t, false⟩) := by
  have hmark : ¬ (!decide (t.head? ≠ some '?')) = true := by simpa using h
  rw [Repetition.greed, StateT.run_bind]
  show StateT.run (if (!decide (t.head? ≠ some '?')) = true then _ else _) _ = _
  rw [if_neg hmark, decide_eq_true h]
  rfl

theorem part_sign (hc : (c, least, most?) ∈ Repetition.signs) (hp : p.level.parts = e :: es)
    (he : e.isRepeatable = true) (h : t.head? ≠ some '?') :
    (part p c).run ⟨place, c :: t, false⟩ =
      .ok ({ p with level := { p.level with
          parts := .repetition ⟨least, most?, true⟩ e ⟨e.stretch.start, place + 1⟩ :: es } },
        ⟨place + 1, t, false⟩) := by
  have hpart : part p c = repeated p (Repetition.sign least most?) := by
    simp only [Repetition.signs, List.mem_cons, Prod.mk.injEq, List.not_mem_nil, or_false] at hc
    rcases hc with ⟨rfl, rfl, rfl⟩ | ⟨rfl, rfl, rfl⟩ | ⟨rfl, rfl, rfl⟩ <;> rfl
  have hsign : (Repetition.sign least most?).run ⟨place, c :: t, false⟩ =
      .ok (⟨least, most?, true⟩, ⟨place + 1, t, false⟩) := by
    show Except.bind (Repetition.greed.run ⟨place + 1, t, false⟩) _ = _
    rw [greed_of_head? h]
    rfl
  rw [hpart, repeated, hp]
  simp only [he]
  show Except.bind ((Repetition.sign least most?).run ⟨place, c :: t, false⟩) _ = _
  rw [hsign]
  rfl

theorem parts_blanks (hc : (c, least, none) ∈ Repetition.signs) (h : t.head? ≠ some '?') :
    (parts (n + 2) (progress k es)).run ⟨place, '\\' :: 's' :: c :: t, false⟩ =
      (parts n (progress k (blanks least place :: es))).run ⟨place + 3, t, false⟩ := by
  have hclass : (parts (n + 2) (progress k es)).run ⟨place, '\\' :: 's' :: c :: t, false⟩ =
      (parts (n + 1) (progress k (.charClass (.shorthand .blank false ⟨place, place + 2⟩) :: es))).run
        ⟨place + 2, c :: t, false⟩ := parts_of_part rfl
  exact hclass.trans (parts_of_part (part_sign hc rfl rfl h))

theorem parts_valueGroup :
    (parts (n + 4) (progress 0 es)).run
        ⟨place, '(' :: '[' :: '^' :: '"' :: ']' :: '*' :: ')' :: t, false⟩ =
      (parts n (progress 1 (valueGroup place :: es))).run ⟨place + 7, t, false⟩ := by
  let inside (parts : List Expression) : Progress :=
    ⟨[⟨.capture 1 none, ⟨place, place + 1⟩, false, (progress 0 es).level⟩], [], 1,
      ⟨place + 1, place + 1, [], parts⟩⟩
  let unquoted : Expression :=
    .charClass (.bracketed (.literal ⟨'"', false, ⟨place + 3, place + 4⟩⟩) true
      ⟨place + 1, place + 5⟩)
  have hopen : (part (progress 0 es) '(').run
      ⟨place, '(' :: '[' :: '^' :: '"' :: ']' :: '*' :: ')' :: t, false⟩ =
      .ok (inside [], ⟨place + 1, '[' :: '^' :: '"' :: ']' :: '*' :: ')' :: t, false⟩) := rfl
  have hclass : (part (inside []) '[').run
      ⟨place + 1, '[' :: '^' :: '"' :: ']' :: '*' :: ')' :: t, false⟩ =
      .ok (inside [unquoted], ⟨place + 5, '*' :: ')' :: t, false⟩) := rfl
  have hstar : (part (inside [unquoted]) '*').run ⟨place + 5, '*' :: ')' :: t, false⟩ =
      .ok (inside [.repetition ⟨0, none, true⟩ unquoted ⟨place + 1, place + 6⟩],
        ⟨place + 6, ')' :: t, false⟩) :=
    part_sign (by simp [Repetition.signs]) rfl rfl (by simp)
  have hclose : (part (inside [.repetition ⟨0, none, true⟩ unquoted ⟨place + 1, place + 6⟩])
      ')').run ⟨place + 6, ')' :: t, false⟩ =
      .ok (progress 1 (valueGroup place :: es), ⟨place + 7, t, false⟩) := rfl
  rw [parts_of_part hopen, parts_of_part hclass, parts_of_part hstar, parts_of_part hclose]

end Turns

/-! ## Before, in and after the name -/

/-- What is read before the name, the last part first. -/
def partsBefore : List Expression :=
  [blanks 1 5, .literal ⟨'t', false, ⟨4, 5⟩⟩, .literal ⟨'e', false, ⟨3, 4⟩⟩,
    .literal ⟨'l', false, ⟨2, 3⟩⟩, .assertion (.boundary .either) ⟨0, 2⟩]

/-- What is read of a name from a place on, the last part first, and what was read before it. -/
def partsOfName (place : Nat) (es : List Expression) : Text → List Expression
  | [] => es
  | c :: t =>
    let next := if c ∈ metacharacters then place + 2 else place + 1
    partsOfName next (.literal ⟨c, false, ⟨place, next⟩⟩ :: es) t

/-- What is read after the name, from a place on, the last part first. -/
def partsAfter (place : Nat) : List Expression :=
  [.literal ⟨'"', false, ⟨place + 15, place + 16⟩⟩, valueGroup (place + 8),
    .literal ⟨'"', false, ⟨place + 7, place + 8⟩⟩, blanks 0 (place + 4),
    .literal ⟨'=', false, ⟨place + 3, place + 4⟩⟩, blanks 0 place]

theorem parts_before {n : Nat} {t : Text} (h : t.head? ≠ some '?') :
    (parts (n + 6) .start).run
        ⟨0, '\\' :: 'b' :: 'l' :: 'e' :: 't' :: '\\' :: 's' :: '+' :: t, false⟩ =
      (parts n (progress 0 partsBefore)).run ⟨8, t, false⟩ := by
  have hedge : (part .start '\\').run
      ⟨0, '\\' :: 'b' :: 'l' :: 'e' :: 't' :: '\\' :: 's' :: '+' :: t, false⟩ =
      .ok (progress 0 [.assertion (.boundary .either) ⟨0, 2⟩],
        ⟨2, 'l' :: 'e' :: 't' :: '\\' :: 's' :: '+' :: t, false⟩) := rfl
  have hl : 'l' ∉ metacharacters := by decide
  have he : 'e' ∉ metacharacters := by decide
  have ht : 't' ∉ metacharacters := by decide
  have hplus : ('+', 1, none) ∈ Repetition.signs := by simp [Repetition.signs]
  rw [parts_of_part hedge, parts_plain hl, parts_plain he, parts_plain ht, parts_blanks hplus h]
  rfl

/-- **The name is read back**, a character a turn. -/
theorem parts_escape {n k : Nat} {t : Text} : ∀ (name : Text) (es : List Expression) (place : Nat),
    (parts (n + name.length) (progress k es)).run ⟨place, escape name ++ t, false⟩ =
      (parts n (progress k (partsOfName place es name))).run
        ⟨place + (escape name).length, t, false⟩
  | [], es, place => rfl
  | c :: name, es, place => by
    rw [List.length_cons, ← Nat.add_assoc, partsOfName]
    by_cases h : c ∈ metacharacters
    · have hescape : escape (c :: name) = '\\' :: c :: escape name := by simp [escape, h]
      rw [hescape, List.cons_append, List.cons_append, parts_escaped h, if_pos h,
        parts_escape name, List.length_cons, List.length_cons, Nat.add_assoc, Nat.add_comm 2]
    · have hescape : escape (c :: name) = c :: escape name := by simp [escape, h]
      rw [hescape, List.cons_append, parts_plain h, if_neg h, parts_escape name, List.length_cons,
        Nat.add_assoc, Nat.add_comm 1]

theorem parts_after (n place : Nat) (es : List Expression) :
    (parts (n + 11) (progress 0 es)).run
        ⟨place, ['\\', 's', '*', '=', '\\', 's', '*', '"', '(', '[', '^', '"', ']', '*', ')', '"'],
          false⟩ =
      (parts n (progress 1 (partsAfter place ++ es))).run ⟨place + 16, [], false⟩ := by
  have hstar : ('*', 0, none) ∈ Repetition.signs := by simp [Repetition.signs]
  have hassign : '=' ∉ metacharacters := by decide
  have hquote : '"' ∉ metacharacters := by decide
  rw [parts_blanks hstar (by simp), parts_plain hassign, parts_blanks hstar (by simp),
    parts_plain hquote, parts_valueGroup, parts_plain hquote]
  rfl

/-- What is read of the pattern of a name, the last part first. -/
def partsOf (name : Text) : List Expression :=
  partsAfter (8 + (escape name).length) ++ partsOfName 8 partsBefore name

theorem length_le_length_escape (name : Text) : name.length ≤ (escape name).length := by
  induction name with
  | nil => exact Nat.le_refl 0
  | cons c name ih =>
    rw [escape, List.flatMap_cons, List.length_append, List.length_cons, ← escape]
    split <;> simp only [List.length_cons, List.length_nil] <;> omega

/-- A pattern has no mark after its first blanks, which would have as few of them as possible. -/
theorem head?_escape_append (name : Text) {t : Text} (h : t.head? = some '\\') :
    (escape name ++ t).head? ≠ some '?' := by
  cases name with
  | nil => simp [escape, h]
  | cons c name =>
    have hmark : '?' ∈ metacharacters := by decide
    by_cases hc : c ∈ metacharacters
    · simp [escape, hc]
    · have hne : c ≠ '?' := fun e => hc (e ▸ hmark)
      simpa [escape, hc] using hne

theorem parts_stop (n k place : Nat) (es : List Expression) :
    (parts (n + 1) (progress k es)).run ⟨place, [], false⟩ =
      .ok (.ofParts ⟨0, place⟩ es.reverse, ⟨place, [], false⟩) := rfl

theorem ofText_pattern (name : Text) :
    ∃ s, Expression.ofText (pattern name) = .ok (.ofParts s (partsOf name).reverse) := by
  let after : Text :=
    ['\\', 's', '*', '=', '\\', 's', '*', '"', '(', '[', '^', '"', ']', '*', ')', '"']
  have hpattern : pattern name =
      '\\' :: 'b' :: 'l' :: 'e' :: 't' :: '\\' :: 's' :: '+' :: (escape name ++ after) := by
    unfold pattern
    rw [List.append_assoc]
    rfl
  -- the escaped name is as long as the name at least, so there are turns enough
  obtain ⟨k, hk⟩ := Nat.exists_eq_add_of_le (length_le_length_escape name)
  have hfuel : (pattern name).length + 1 = (k + 7 + 1 + 11) + name.length + 6 := by
    rw [hpattern]
    simp only [List.length_cons, List.length_append, hk, after, List.length_nil]
    omega
  refine ⟨⟨0, 8 + (escape name).length + 16⟩, ?_⟩
  rw [Expression.ofText, hfuel, hpattern, parts_before (head?_escape_append name rfl),
    parts_escape, parts_after, parts_stop]
  rfl

/-! ## The meaning -/

/-- An expression in a row means something, leaves the modes as they are and holds nothing that
stands too deep. -/
structure Means (e : Expression) (m : Meaning) : Prop where
  meaning_eq : e.meaning .start = .ok (m, .start)
  tooDeep?_eq : e.tooDeep? 1 = none

theorem meanings_of_means {es : List Expression} {ms : List Meaning}
    (h : List.Forall₂ Means es ms) (before : List Meaning) :
    Expression.meanings .start before es = .ok (before.reverse ++ ms, .start) ∧
      Expression.anyTooDeep? 1 es = none := by
  induction h generalizing before with
  | nil => exact ⟨by rw [List.append_nil]; rfl, rfl⟩
  | @cons e m es ms hm _ ih =>
    obtain ⟨hrest, hdepth⟩ := ih (m :: before)
    constructor
    · rw [Expression.meanings, hm.meaning_eq]
      refine hrest.trans ?_
      rw [List.reverse_cons, List.append_assoc, List.singleton_append]
    · rw [Expression.anyTooDeep?, hm.tooDeep?_eq, hdepth]
      rfl

def anyBlanks (least : Nat) : Meaning := .repetition ⟨least, none, true⟩ (.anyOf Text.blankRanges)

def literals (t : Text) : List Meaning := t.map fun c => .literal [c]

def keptValue : Meaning :=
  .capture 1 none (.repetition ⟨0, none, true⟩ (.anyOf (Text.CodeSet.complement [⟨34, 34⟩])))

/-- From the keyword to the opening quote. -/
def headParts (name : Text) : List Meaning :=
  literals keyword ++ [anyBlanks 1] ++ literals name ++
    [anyBlanks 0, .literal ['='], anyBlanks 0, .literal ['"']]

/-- **What the pattern of a name means.** -/
def meaning (name : Text) : Meaning :=
  .row (.look (.boundary .either true) :: (headParts name ++ [keptValue, .literal ['"']]))

theorem means_literal (c : Char) (s : Stretch) :
    Means (.literal ⟨c, false, s⟩) (.literal [c]) where
  meaning_eq := by
    show Except.ok (Meaning.ofSet [⟨c.toNat, c.toNat⟩], Modes.start) = _
    rw [Meaning.ofSet, if_pos rfl, Char.ofNat_toNat]
  tooDeep?_eq := rfl

theorem means_partsOfName {es : List Expression} {ms : List Meaning} :
    ∀ (name : Text) (place : Nat), List.Forall₂ Means es ms →
      List.Forall₂ Means (partsOfName place es name) ((literals name).reverse ++ ms)
  | [], place, h => h
  | c :: name, place, h => by
    rw [partsOfName, literals, List.map_cons, List.reverse_cons, List.append_assoc,
      List.singleton_append]
    exact means_partsOfName name _ (.cons (means_literal c _) h)

theorem means_partsOf (name : Text) :
    List.Forall₂ Means (partsOf name).reverse
      (.look (.boundary .either true) :: (headParts name ++ [keptValue, .literal ['"']])) := by
  have hblanks (place : Nat) : Means (blanks 0 place) (anyBlanks 0) := ⟨rfl, rfl⟩
  have hbefore : List.Forall₂ Means partsBefore
      [anyBlanks 1, .literal ['t'], .literal ['e'], .literal ['l'],
        .look (.boundary .either true)] :=
    .cons ⟨rfl, rfl⟩ (.cons (means_literal _ _) (.cons (means_literal _ _)
      (.cons (means_literal _ _) (.cons ⟨rfl, rfl⟩ .nil))))
  have hafter (place : Nat) : List.Forall₂ Means (partsAfter place)
      [.literal ['"'], keptValue, .literal ['"'], anyBlanks 0, .literal ['='], anyBlanks 0] :=
    .cons (means_literal _ _) (.cons ⟨rfl, rfl⟩ (.cons (means_literal _ _)
      (.cons (hblanks _) (.cons (means_literal _ _) (.cons (hblanks _) .nil)))))
  have hall := List.rel_append (hafter (8 + (escape name).length))
    (means_partsOfName name 8 hbefore)
  have hreverse := List.forall₂_reverse_iff.2 hall
  have hkeyword : literals keyword = [.literal ['l'], .literal ['e'], .literal ['t']] := rfl
  simpa only [partsOf, headParts, hkeyword, List.reverse_append, List.reverse_reverse,
    List.reverse_cons, List.reverse_nil, List.nil_append, List.cons_append,
    List.append_assoc] using hreverse

theorem ofParts_of_one_lt_length {s : Stretch} : ∀ {es : List Expression}, 1 < es.length →
    Expression.ofParts s es = .concat es s
  | [], h => absurd h (Nat.not_lt_zero 1)
  | [_], h => absurd h (Nat.lt_irrefl 1)
  | _ :: _ :: _, _ => rfl

/-- **The pattern of any name means something.** -/
theorem meaningOf_pattern (name : Text) :
    meaningOf (pattern name) = .ok (meaning name) := by
  obtain ⟨s, hread⟩ := ofText_pattern name
  rw [ofParts_of_one_lt_length (by simp [partsOf, partsAfter])] at hread
  obtain ⟨hmeanings, hdepth⟩ := meanings_of_means (means_partsOf name) []
  generalize (partsOf name).reverse = es at hread hmeanings hdepth
  have hdeep : (Expression.concat es s).tooDeep? 0 = none := hdepth
  have hmeaning : (Expression.concat es s).meaning .start =
      .ok (meaning name, .start) := by
    rw [Expression.meaning, hmeanings]
    rfl
  rw [meaningOf, hread]
  simp only [bind, Except.bind, hdeep, hmeaning]
  rfl

end ReleaseStamp.Declaration
