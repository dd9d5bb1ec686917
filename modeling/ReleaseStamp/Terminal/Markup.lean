import ReleaseStamp.Terminal.Escape
import ReleaseStamp.Terminal.Style
/-!
# Marked-up text

A message in parts, some of which are emphasised.  Where colour is wanted each emphasis is put
around its part as it is; where it is not, the message is what a terminal would show of that, so
orders that came with a part are left out with those of the emphasis.  `Markup.render_false` says
that no part of a message then tells on another.
-/
namespace ReleaseStamp.Terminal

inductive Emphasis where
  | alarm
  /-- What is wrong. -/
  | invalid
  /-- What can be typed. -/
  | literal
  | heading
  /-- What is only there to set off something else. -/
  | subtle
  /-- How much an event matters. -/
  | level
  deriving DecidableEq

/-- Each attribute has an order of its own. -/
def Emphasis.start : Emphasis → Text
  | .alarm => order ['1'] ++ order ['3', '1']
  | .invalid => order ['3', '3']
  | .literal => order ['1']
  | .heading => order ['1'] ++ order ['4']
  | .subtle => order "90".toList
  | .level => order "34".toList

structure Span where
  emphasis? : Option Emphasis
  text : Text
  deriving DecidableEq

def Span.coloured (s : Span) : Text :=
  match s.emphasis? with
  | none => s.text
  | some e => e.start ++ s.text ++ reset

abbrev Markup := List Span

namespace Markup

def ofText (t : Text) : Markup := [⟨none, t⟩]

def ofString (s : String) : Markup := ofText s.toList

def emphasised (e : Emphasis) (t : Text) : Markup := [⟨some e, t⟩]

def text (m : Markup) : Text := m.flatMap Span.text

def coloured (m : Markup) : Text := m.flatMap Span.coloured

def render (m : Markup) (colour : Bool) : Text := if colour then m.coloured else strip m.coloured

end Markup

theorem stripFrom_append : ∀ (p : Phase) (s t : Text),
    stripFrom p (s ++ t) = stripFrom p s ++ stripFrom (s.foldl Phase.next p) t
  | p, [], t => rfl
  | p, c :: s, t => by
    simp only [List.cons_append, stripFrom, List.foldl_cons, stripFrom_append (p.next c) s t]
    split <;> rfl

theorem foldl_next_of_isShown : ∀ {t : Text}, (∀ c ∈ t, isShown c = true) →
    t.foldl Phase.next .text = .text
  | [], _ => rfl
  | c :: t, h => by
    rw [List.foldl_cons, Phase.next_text_of_isShown (h c (List.mem_cons_self ..))]
    exact foldl_next_of_isShown fun d hd => h d (List.mem_cons_of_mem c hd)

theorem Emphasis.strip_start_append (e : Emphasis) (t : Text) : strip (e.start ++ t) = strip t := by
  rw [strip, stripFrom_append]
  cases e <;> rfl

/-- A reset breaks off whatever sequence is under way. -/
theorem stripFrom_reset_append (p : Phase) (t : Text) : stripFrom p (reset ++ t) = strip t := by
  cases p <;> rfl

theorem strip_append {s : Text} (h : ∀ c ∈ s, isShown c = true) (t : Text) :
    strip (s ++ t) = s ++ strip t := by
  have hs := strip_eq_self h
  unfold strip at hs ⊢
  rw [stripFrom_append, hs, foldl_next_of_isShown h]

/-- What a span shows is told by its own text, since an emphasis ends with a reset. -/
theorem Span.strip_coloured_append {s : Span}
    (h : s.emphasis? = none → ∀ c ∈ s.text, isShown c = true) (t : Text) :
    strip (s.coloured ++ t) = strip s.text ++ strip t := by
  rw [coloured]
  cases he : s.emphasis? with
  | none => rw [strip_append (h he), strip_eq_self (h he)]
  | some e =>
    simp only [List.append_assoc]
    rw [e.strip_start_append, strip, stripFrom_append, stripFrom_reset_append]
    rfl

namespace Markup

/-- Whether the parts that are not emphasised hold no orders. -/
def IsPlain (m : Markup) : Prop :=
  ∀ s ∈ m, s.emphasis? = none → ∀ c ∈ s.text, isShown c = true

theorem IsPlain.append {m n : Markup} (hm : m.IsPlain) (hn : n.IsPlain) : (m ++ n).IsPlain :=
  List.forall_mem_append.2 ⟨hm, hn⟩

theorem isPlain_emphasised (e : Emphasis) (t : Text) : (emphasised e t).IsPlain := by
  intro s hs he
  obtain rfl := List.mem_singleton.1 hs
  cases he

theorem isPlain_ofString {s : String} (h : s.toList.all isShown = true) : (ofString s).IsPlain := by
  intro r hr _
  obtain rfl := List.mem_singleton.1 hr
  exact List.all_eq_true.1 h

theorem text_append (m n : Markup) : (m ++ n).text = m.text ++ n.text := List.flatMap_append

theorem text_ofText (t : Text) : (ofText t).text = t := List.flatMap_singleton ..

theorem text_ofString (s : String) : (ofString s).text = s.toList := text_ofText _

theorem text_emphasised (e : Emphasis) (t : Text) : (emphasised e t).text = t :=
  List.flatMap_singleton ..

theorem text_between (before after : String) (e : Emphasis) (t : Text) :
    (ofString before ++ emphasised e t ++ ofString after).text =
      before.toList ++ t ++ after.toList := by
  rw [text_append, text_append, text_ofString, text_ofString, text_emphasised]

/-- What a terminal would show of a message without its emphasis. -/
def shown (m : Markup) : Text := m.flatMap (strip ·.text)

theorem shown_append (m n : Markup) : (m ++ n).shown = m.shown ++ n.shown := List.flatMap_append

theorem shown_emphasised (e : Emphasis) (t : Text) : (emphasised e t).shown = strip t :=
  List.flatMap_singleton ..

theorem shown_ofString {s : String} (h : s.toList.all isShown = true) :
    (ofString s).shown = s.toList :=
  (List.flatMap_singleton ..).trans (strip_eq_self (List.all_eq_true.1 h))

theorem shown_between {before after : String} (h : before.toList.all isShown = true)
    (h' : after.toList.all isShown = true) (e : Emphasis) (t : Text) :
    (ofString before ++ emphasised e t ++ ofString after).shown =
      before.toList ++ strip t ++ after.toList := by
  rw [shown_append, shown_append, shown_ofString h, shown_ofString h', shown_emphasised]

/-- **Without colour a plain message shows what each of its parts shows.** -/
theorem render_false : ∀ {m : Markup}, m.IsPlain → m.render false = m.shown
  | [], _ => rfl
  | s :: m, h => by
    have hs := h s (List.mem_cons_self ..)
    have ih := render_false (m := m) fun r hr => h r (List.mem_cons_of_mem s hr)
    simp only [render, Bool.false_eq_true, if_false, coloured] at ih ⊢
    rw [List.flatMap_cons, Span.strip_coloured_append hs, ih, shown, shown, List.flatMap_cons]

theorem render_false_of_isShown {m : Markup} (h : ∀ c ∈ m.text, isShown c = true) :
    m.render false = m.text := by
  have hspan : ∀ s ∈ m, ∀ c ∈ s.text, isShown c = true :=
    fun s hs c hc => h c (List.mem_flatMap.2 ⟨s, hs, hc⟩)
  rw [render_false fun s hs _ => hspan s hs, shown, text, List.flatMap_def, List.flatMap_def,
    List.map_congr_left fun s hs => strip_eq_self (hspan s hs)]

end Markup
end ReleaseStamp.Terminal
