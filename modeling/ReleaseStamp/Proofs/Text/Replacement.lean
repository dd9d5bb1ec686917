import ReleaseStamp.Text.Basic
/-!
# Replacements

Ranges of bytes of a text that give way to new text, all of them at once: each range is a range of
the text as it was.  `replaceAll` goes through the text once.  Where a range begins its new text is
put in, a character inside a range is left out, and every other character is kept.
-/
namespace ReleaseStamp

/-- The bytes from `start` to before `stop` give way to `new`. -/
structure Replacement where
  start : Nat
  stop : Nat
  new : Text
  deriving DecidableEq

namespace Replacement

/-- The new text at a byte: that of the range which begins there. -/
def newAt (l : List Replacement) (pos : Nat) : Text :=
  ((l.find? (·.start == pos)).map Replacement.new).getD []

def covers (l : List Replacement) (pos : Nat) : Bool :=
  l.any fun r => decide (r.start ≤ pos) && decide (pos < r.stop)

/-- The range and the bytes from `a` to before `b` have nothing to do with each other. -/
def IsAside (r : Replacement) (a b : Nat) : Prop := (r.start < a ∧ r.stop ≤ a) ∨ b ≤ r.start

theorem newAt_eq_nil {l : List Replacement} {pos : Nat} (h : ∀ r ∈ l, r.start ≠ pos) :
    newAt l pos = [] := by
  have hf : l.find? (·.start == pos) = none :=
    List.find?_eq_none.2 fun r hr => by simpa using h r hr
  rw [newAt, hf]
  rfl

theorem newAt_eq_new {l : List Replacement} {r : Replacement} {pos : Nat}
    (h : l.find? (·.start == pos) = some r) : newAt l pos = r.new := by
  rw [newAt, h]
  rfl

theorem covers_eq_false {l : List Replacement} {pos : Nat}
    (h : ∀ r ∈ l, ¬ (r.start ≤ pos ∧ pos < r.stop)) : covers l pos = false :=
  List.any_eq_false.2 fun r hr => by simpa using h r hr

theorem covers_eq_true {l : List Replacement} {pos : Nat} {r : Replacement} (hr : r ∈ l)
    (hs : r.start ≤ pos) (ht : pos < r.stop) : covers l pos = true :=
  List.any_eq_true.2 ⟨r, hr, by simp [hs, ht]⟩

end Replacement

namespace Text

open Replacement (newAt covers newAt_eq_nil newAt_eq_new covers_eq_false covers_eq_true)

/-- Goes on with the replacements at the byte `pos`. -/
def replaceFrom (l : List Replacement) : Nat → Text → Text
  | pos, [] => newAt l pos
  | pos, c :: t =>
    newAt l pos ++ ((if covers l pos then [] else [c]) ++ replaceFrom l (pos + c.utf8Size) t)

def replaceAll (l : List Replacement) (t : Text) : Text := replaceFrom l 0 t

example : replaceAll [⟨4, 4, "!".toList⟩, ⟨1, 3, "xyz".toList⟩] "abcd".toList = "axyzd!".toList := by
  decide

theorem replaceFrom_nil {l : List Replacement} {pos : Nat} (h : ∀ r ∈ l, r.start ≠ pos) :
    replaceFrom l pos [] = [] := newAt_eq_nil h

theorem replaceFrom_append_of_isAside {l : List Replacement} : ∀ (t u : Text) {pos : Nat},
    (∀ r ∈ l, r.IsAside pos (pos + byteLength t)) →
      replaceFrom l pos (t ++ u) = t ++ replaceFrom l (pos + byteLength t) u
  | [], u, pos, _ => rfl
  | c :: t, u, pos, h => by
    have hc := c.utf8Size_pos
    rw [byteLength_cons] at h ⊢
    have hnew : newAt l pos = [] := newAt_eq_nil fun r hr => by
      rcases h r hr with h | h <;> omega
    have hcov : covers l pos = false := covers_eq_false fun r hr => by
      rcases h r hr with h | h <;> omega
    have haside : ∀ r ∈ l, r.IsAside (pos + c.utf8Size) (pos + c.utf8Size + byteLength t) :=
      fun r hr => by
        rcases h r hr with h | h
        · exact .inl (by omega)
        · exact .inr (by omega)
    have ih := replaceFrom_append_of_isAside t u haside
    rw [List.cons_append, replaceFrom, hnew, hcov, ih, Nat.add_assoc]
    rfl

theorem replaceFrom_append_of_covers {l : List Replacement} : ∀ {t u : Text} {pos : Nat},
    (∀ x, pos ≤ x → x < pos + byteLength t → covers l x = true ∧ ∀ r ∈ l, r.start ≠ x) →
      replaceFrom l pos (t ++ u) = replaceFrom l (pos + byteLength t) u
  | [], u, pos, _ => rfl
  | c :: t, u, pos, h => by
    have hc := c.utf8Size_pos
    rw [byteLength_cons] at h ⊢
    obtain ⟨hcov, hstart⟩ := h pos (Nat.le_refl _) (by omega)
    have ih := @replaceFrom_append_of_covers l t u (pos + c.utf8Size) fun x hx hx' =>
      h x (by omega) (by omega)
    rw [List.cons_append, replaceFrom, newAt_eq_nil hstart, hcov, ih, Nat.add_assoc]
    rfl

/-- What fills a range, up to a character after it that no other range has to do with.  Of several
replacements for one range the first counts. -/
theorem replaceFrom_append_cons {l : List Replacement} {r : Replacement} {pos : Nat}
    (hr : l.find? (·.start == pos) = some r) {t u : Text} {c : Char}
    (h : ∀ r' ∈ l, (r'.start = pos ∧ r'.stop = pos + byteLength t) ∨
      r'.IsAside pos (pos + byteLength t + c.utf8Size)) :
    replaceFrom l pos (t ++ c :: u) =
      r.new ++ c :: replaceFrom l (pos + byteLength t + c.utf8Size) u := by
  have hc := c.utf8Size_pos
  have hmem := List.mem_of_find?_eq_some hr
  have hstart : r.start = pos := by simpa using List.find?_some hr
  have hstop : r.stop = pos + byteLength t := by
    rcases h r hmem with h | h | h <;> omega
  have hend : covers l (pos + byteLength t) = false := covers_eq_false fun r' hr' => by
    rcases h r' hr' with h | h | h <;> omega
  -- where the range is empty its beginning and the character after it are the same byte
  cases t with
  | nil =>
    rw [Text.byteLength_nil, Nat.add_zero] at hend ⊢
    rw [List.nil_append, replaceFrom, newAt_eq_new hr, hend]
    rfl
  | cons d t =>
    have hd := d.utf8Size_pos
    rw [byteLength_cons] at h hstop hend ⊢
    have hcov : ∀ x, pos ≤ x → x < r.stop → covers l x = true := fun x hx hx' =>
      covers_eq_true hmem (by omega) hx'
    have hlater : ∀ x, pos < x → x < r.stop + c.utf8Size → ∀ r' ∈ l, r'.start ≠ x := by
      intro x hx hx' r' hr'
      rcases h r' hr' with h | h | h <;> omega
    have hin : replaceFrom l (pos + d.utf8Size) (t ++ c :: u) =
        replaceFrom l (pos + (d.utf8Size + byteLength t)) (c :: u) := by
      have := @replaceFrom_append_of_covers l t (c :: u) (pos + d.utf8Size) fun x hx hx' =>
        ⟨hcov x (by omega) (by omega), hlater x (by omega) (by omega)⟩
      rwa [Nat.add_assoc] at this
    have hclose : newAt l (pos + (d.utf8Size + byteLength t)) = [] :=
      newAt_eq_nil (hlater _ (by omega) (by omega))
    rw [List.cons_append, replaceFrom, newAt_eq_new hr, hcov pos (Nat.le_refl _) (by omega), hin,
      replaceFrom, hclose, hend]
    rfl

end Text
end ReleaseStamp
