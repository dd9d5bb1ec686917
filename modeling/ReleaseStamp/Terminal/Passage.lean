import ReleaseStamp.Terminal.Markup
/-!
# Text on its way to a stream

A stream leaves out orders while a text passes, and it differs from `strip` in one thing: white
space in the middle of a sequence does not break the sequence off.  It and what is shown right after
it are let through, and at the next character that is not shown the sequence goes on.  A character
beyond ASCII ends the sequence even so.
-/
namespace ReleaseStamp.Terminal

/-- Where a stream is in a text. -/
structure Passage where
  /-- What the text is in the middle of. -/
  phase : Phase
  /-- Whether the character before this place was let through. -/
  isOpen : Bool

namespace Passage

def start : Passage := ⟨.text, false⟩

def shows (p : Passage) (c : Char) : Bool := if p.isOpen then isShown c else p.phase.shows c

def next (p : Passage) (c : Char) : Passage :=
  if p.shows c then ⟨if c.toNat < 0x80 then p.phase else .text, true⟩ else ⟨p.phase.next c, false⟩

end Passage

def passedFrom (p : Passage) : Text → Text
  | [] => []
  | c :: t => if p.shows c then c :: passedFrom (p.next c) t else passedFrom (p.next c) t

/-- What a stream lets through of a text. -/
def passed (t : Text) : Text := passedFrom .start t

/-- What is written to a stream of a marked-up text. -/
def Markup.written (m : Markup) (colour : Bool) : Text :=
  if colour then m.coloured else passed m.coloured

/-! ## Messages without orders of their own -/

theorem passedFrom_append : ∀ (p : Passage) (s t : Text),
    passedFrom p (s ++ t) = passedFrom p s ++ passedFrom (s.foldl Passage.next p) t
  | p, [], t => rfl
  | p, c :: s, t => by
    simp only [List.cons_append, passedFrom, List.foldl_cons, passedFrom_append (p.next c) s t]
    split <;> rfl

/-- Whether a text goes by as another, and leaves the stream outside of any sequence. -/
def PassesAs (t shown : Text) : Prop :=
  ∀ isOpen, passedFrom ⟨.text, isOpen⟩ t = shown ∧
    ∃ isOpen', t.foldl Passage.next ⟨.text, isOpen⟩ = ⟨.text, isOpen'⟩

theorem PassesAs.append {s s' t t' : Text} (hs : PassesAs s s') (ht : PassesAs t t') :
    PassesAs (s ++ t) (s' ++ t') := fun isOpen => by
  obtain ⟨hshown, isOpen', hnext⟩ := hs isOpen
  rw [passedFrom_append, List.foldl_append, hshown, hnext]
  exact ⟨congrArg (s' ++ ·) (ht isOpen').1, (ht isOpen').2⟩

theorem passesAs_self : ∀ {t : Text}, (∀ c ∈ t, isShown c = true) → PassesAs t t
  | [], _ => fun isOpen => ⟨rfl, isOpen, rfl⟩
  | c :: t, h => fun isOpen => by
    have hc : Passage.shows ⟨.text, isOpen⟩ c = true := by
      have := h c (List.mem_cons_self ..)
      cases isOpen <;> exact this
    have hnext : Passage.next ⟨.text, isOpen⟩ c = ⟨.text, true⟩ := by
      rw [Passage.next, if_pos hc, ite_self]
    obtain ⟨hshown, hrest⟩ := passesAs_self (fun d hd => h d (List.mem_cons_of_mem c hd)) true
    rw [passedFrom, if_pos hc, List.foldl_cons, hnext, hshown]
    exact ⟨rfl, hrest⟩

theorem Emphasis.passesAs_start (e : Emphasis) : PassesAs e.start [] := fun isOpen => by
  cases e <;> cases isOpen <;> exact ⟨rfl, _, rfl⟩

theorem passesAs_reset : PassesAs reset [] := fun isOpen => by
  cases isOpen <;> exact ⟨rfl, _, rfl⟩

theorem Span.passesAs_coloured {s : Span} (h : ∀ c ∈ s.text, isShown c = true) :
    PassesAs s.coloured s.text := by
  rw [coloured]
  cases s.emphasis? with
  | none => exact passesAs_self h
  | some e =>
    have hspan := (e.passesAs_start.append (passesAs_self h)).append passesAs_reset
    rwa [List.nil_append, List.append_nil] at hspan

theorem Markup.passesAs_coloured : ∀ {m : Markup}, (∀ s ∈ m, ∀ c ∈ s.text, isShown c = true) →
    PassesAs m.coloured m.text
  | [], _ => fun isOpen => ⟨rfl, isOpen, rfl⟩
  | s :: m, h => by
    obtain ⟨hs, hm⟩ := List.forall_mem_cons.1 h
    exact (Span.passesAs_coloured hs).append (passesAs_coloured hm)

/-- **A message without orders is written as it is** where no colour is wanted. -/
theorem Markup.written_false {m : Markup} (h : ∀ c ∈ m.text, isShown c = true) :
    m.written false = m.text :=
  (passesAs_coloured (fun _ hs _ hc => h _ (List.mem_flatMap.2 ⟨_, hs, hc⟩)) false).1

end ReleaseStamp.Terminal
