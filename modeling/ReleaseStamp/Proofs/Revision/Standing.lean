import ReleaseStamp.Proofs.Revision.Overlap
/-!
# Values that stand

After many revisions all that counts of them is the value that each field was given last.  As long
as no field that is asked for lies in the value of another (`Field.Unburied`), the text is the text
as it was with those values written at once: an edit finds the declaration that it would have found
at first, with the value that stands there, and its own value stands from then on
(`Standing.Sound.step`, `Standing.Sound.run`).
-/
namespace ReleaseStamp

open Declaration (IsAt find)
open Write (Fit textAfter carry)

/-- The value that each field was given last, if it was given any. -/
abbrev Standing := Field → Option Text

namespace Standing

def put (cur : Standing) (field : Field) (value : Text) : Standing :=
  fun f => if f = field then some value else cur f

def putAll (cur : Standing) (entries : List (Field × Text)) : Standing :=
  entries.foldl (fun cur e => cur.put e.1 e.2) cur

/-- The values that stand, each for the first declaration of its field. -/
def writes (cur : Standing) (text : Text) : List Write :=
  Field.all.filterMap fun f => (find f.name text).bind fun s => (cur f).map (Write.mk s)

/-- What becomes of a field that is given a value: its first declaration is found or there is none,
and what stood there is the old value. -/
def outcome (cur : Standing) (text : Text) (field : Field) (value : Text) : Outcome :=
  match find field.name text with
  | some s => .replaced ((cur field).getD s.value) value
  | none => .notFound

@[simp] theorem put_self (cur : Standing) (field : Field) (value : Text) :
    cur.put field value field = some value := if_pos rfl

theorem put_of_ne (cur : Standing) {field f : Field} (h : f ≠ field) (value : Text) :
    cur.put field value f = cur f := if_neg h

theorem putAll_of_forall_ne {f : Field} : ∀ (entries : List (Field × Text)) (cur : Standing),
    (∀ e ∈ entries, e.1 ≠ f) → cur.putAll entries f = cur f
  | [], _, _ => rfl
  | e :: entries, cur, h => by
    have ih := putAll_of_forall_ne entries (cur.put e.1 e.2) fun e he =>
      h e (List.mem_cons_of_mem _ he)
    exact ih.trans (cur.put_of_ne (Ne.symm (h e List.mem_cons_self)) e.2)

theorem putAll_of_mem {f : Field} {value : Text} : ∀ (entries : List (Field × Text))
    (cur : Standing), (entries.map Prod.fst).Nodup → (f, value) ∈ entries →
      cur.putAll entries f = some value
  | e :: entries, cur, hnd, hmem => by
    rw [List.map_cons, List.nodup_cons] at hnd
    rcases List.mem_cons.1 hmem with rfl | hmem
    · have hrest := putAll_of_forall_ne entries (cur.put f value) fun e he heq =>
        hnd.1 (List.mem_map.2 ⟨e, he, heq⟩)
      exact hrest.trans (cur.put_self f value)
    · exact putAll_of_mem entries (cur.put e.1 e.2) hnd.2 hmem

theorem mem_writes_iff (cur : Standing) (text : Text) (w : Write) :
    w ∈ cur.writes text ↔ ∃ f, find f.name text = some w.site ∧ cur f = some w.value := by
  simp only [writes, List.mem_filterMap, Option.bind_eq_some_iff, Option.map_eq_some_iff]
  constructor
  · rintro ⟨f, -, s, hs, v, hv, rfl⟩
    exact ⟨f, hs, hv⟩
  · rintro ⟨f, hs, hv⟩
    exact ⟨f, f.mem_all, w.site, hs, w.value, hv, rfl⟩

theorem writes_put_of_find_eq_none (cur : Standing) {text : Text} {field : Field}
    (h : find field.name text = none) (value : Text) :
    (cur.put field value).writes text = cur.writes text := by
  refine List.filterMap_congr fun f _ => ?_
  by_cases hf : f = field
  · rw [hf, h]
    rfl
  · rw [cur.put_of_ne hf]

end Standing

theorem Field.eq_of_find_index_eq {f g : Field} {text : Text} {s s' : Site}
    (hf : find f.name text = some s) (hg : find g.name text = some s') (hi : s.index = s'.index) :
    f = g := by
  have ht : s.text = s'.text :=
    (Declaration.text_of_find hf).trans (Declaration.text_of_find hg).symm
  have hname := (Declaration.isAt_of_find hf).eq_of_index_eq (Declaration.isAt_of_find hg) ht
    f.isName_name g.isName_name hi
  exact Field.name_inj f g hname.1

/-- The first declaration of no field that is asked for begins in the value of another's. -/
def Field.Unburied (asked : Field → Prop) (text : Text) : Prop :=
  ∀ f g, asked f → asked g → ∀ s s', find f.name text = some s → find g.name text = some s' →
    s.encloses s' = false

namespace Standing

/-- Only what was asked for stands, and it has no quote and no blank. -/
structure Sound (asked : Field → Prop) (cur : Standing) : Prop where
  asked_of : ∀ f v, cur f = some v → asked f
  isBare : ∀ f v, cur f = some v → v.IsBare

namespace Sound

variable {asked : Field → Prop} {cur : Standing} {text : Text}

theorem put (h : Sound asked cur) {field : Field} {value : Text} (ha : asked field)
    (hb : value.IsBare) : Sound asked (cur.put field value) where
  asked_of f v hv := by
    by_cases hf : f = field
    · exact hf ▸ ha
    · exact h.asked_of f v ((cur.put_of_ne hf value).symm.trans hv)
  isBare f v hv := by
    by_cases hf : f = field
    · rw [hf, put_self] at hv
      exact Option.some.inj hv ▸ hb
    · exact h.isBare f v ((cur.put_of_ne hf value).symm.trans hv)

theorem fit_writes (h : Sound asked cur) (text : Text) : Fit text (cur.writes text) where
  isAt w hw := by
    obtain ⟨f, hs, -⟩ := (mem_writes_iff cur text w).1 hw
    exact ⟨Declaration.text_of_find hs, f.name, f.isName_name, Declaration.isAt_of_find hs⟩
  isBare w hw := by
    obtain ⟨f, -, hv⟩ := (mem_writes_iff cur text w).1 hw
    exact h.isBare f w.value hv

end Sound

theorem nodup_index_writes (cur : Standing) (text : Text) :
    ((cur.writes text).map (·.site.index)).Nodup := by
  have hwrite : ∀ f w, w ∈ ((find f.name text).bind fun s => (cur f).map (Write.mk s)) →
      find f.name text = some w.site := by
    intro f w hw
    obtain ⟨s, hs, hv⟩ := Option.bind_eq_some_iff.1 hw
    obtain ⟨v, -, rfl⟩ := Option.map_eq_some_iff.1 hv
    exact hs
  refine List.pairwise_map.2 (List.Pairwise.filterMap _
    (fun f g hne w hw w' hw' hi => hne ?_) Field.all_nodup)
  exact Field.eq_of_find_index_eq (hwrite f w hw) (hwrite g w' hw') hi

theorem valueAfter_writes (cur : Standing) {text : Text} {field : Field} {s : Site}
    (hs : find field.name text = some s) :
    Write.valueAfter (cur.writes text) s = (cur field).getD s.value := by
  cases hv : cur field with
  | some v =>
    exact Write.valueAfter_of_mem (w := ⟨s, v⟩) (nodup_index_writes cur text)
      ((mem_writes_iff cur text _).2 ⟨field, hs, hv⟩)
  | none =>
    refine Write.valueAfter_of_forall_ne fun w hw hsite => ?_
    obtain ⟨f, hs', hv'⟩ := (mem_writes_iff cur text w).1 hw
    rw [Field.eq_of_find_index_eq hs' hs (by rw [hsite]), hv] at hv'
    cases hv'

theorem pieceAfter_writes_put (cur : Standing) {text : Text} {field : Field} {s : Site}
    (hs : find field.name text = some s) (value : Text) (i : Nat) (piece : Text) :
    Write.pieceAfter ((cur.put field value).writes text) i piece =
      if s.index + 1 = i then value else Write.pieceAfter (cur.writes text) i piece := by
  have hnd := nodup_index_writes cur text
  have hnd' := nodup_index_writes (cur.put field value) text
  have hmem : ∀ w : Write, s.index ≠ w.site.index →
      (w ∈ (cur.put field value).writes text ↔ w ∈ cur.writes text) := by
    intro w hi
    rw [mem_writes_iff, mem_writes_iff]
    refine exists_congr fun f => and_congr_right fun hs' => ?_
    have hne : f ≠ field := fun he => by
      rw [he, hs] at hs'
      exact hi (by rw [Option.some.inj hs'])
    rw [cur.put_of_ne hne]
  by_cases hi : s.index + 1 = i
  · rw [if_pos hi, ← hi]
    exact Write.pieceAfter_of_mem (w := ⟨s, value⟩) hnd'
      ((mem_writes_iff _ text _).2 ⟨field, hs, cur.put_self field value⟩) piece
  · rw [if_neg hi]
    rcases Write.pieceAfter_eq_or (cur.writes text) i piece with ⟨hp, hno⟩ | ⟨w, hw, rfl, hp⟩
    · rw [hp]
      refine Write.pieceAfter_of_forall_ne (fun w hw hwi => ?_) piece
      exact hno w ((hmem w (by omega)).1 hw) hwi
    · rw [hp]
      exact Write.pieceAfter_of_mem hnd' ((hmem w (by omega)).2 hw) piece

namespace Sound

variable {asked : Field → Prop} {cur : Standing} {text : Text}
  (h : Sound asked cur) (hun : Field.Unburied asked text)
include h hun

theorem index_ne {field : Field} (ha : asked field) {s : Site}
    (hs : find field.name text = some s) : ∀ w ∈ cur.writes text, w.site.index + 1 ≠ s.index := by
  intro w hw hi
  obtain ⟨f, hs', hv⟩ := (mem_writes_iff cur text w).1 hw
  have ht : w.site.text = s.text :=
    (Declaration.text_of_find hs').trans (Declaration.text_of_find hs).symm
  have hin := ((Declaration.isAt_of_find hs').encloses_iff (Declaration.isAt_of_find hs) ht
    f.isName_name.quote_notMem field.isName_name.quote_notMem).2 hi.symm
  rw [hun f field (h.asked_of f w.value hv) ha w.site s hs' hs] at hin
  cases hin

theorem find_textAfter {field : Field} (ha : asked field) :
    find field.name (textAfter (cur.writes text) text) =
      (find field.name text).map (carry (cur.writes text)) := by
  have hfit := h.fit_writes text
  rw [hfit.find_textAfter field.isName_name]
  cases hs : find field.name text with
  | none => rw [Declaration.findOutside_eq_none hs]
  | some s =>
    have hnil := (Declaration.findOutside_nil field.name text).trans hs
    have hout := (hfit.isOutside_iff field.isName_name.quote_notMem (Declaration.text_of_find hs)
      (Declaration.isAt_of_find hs)).2 (h.index_ne hun ha hs)
    rw [Declaration.findOutside_of_subset hnil (fun v hv => absurd hv List.not_mem_nil) hout]

/-- **What one edit does**: its value stands from then on, and what stood there is the old one. -/
theorem step {field : Field} (ha : asked field) {value : Text} (hb : value.IsBare) :
    (Edit.of (textAfter (cur.writes text) text) field value).outcome =
        cur.outcome text field value ∧
      (Edit.of (textAfter (cur.writes text) text) field value).result
          (textAfter (cur.writes text) text) =
        textAfter ((cur.put field value).writes text) text := by
  have hfit := h.fit_writes text
  have hsite : (Edit.of (textAfter (cur.writes text) text) field value).site? =
      (find field.name text).map (carry (cur.writes text)) := h.find_textAfter hun ha
  rw [Edit.outcome, Edit.result, hsite, outcome]
  cases hs : find field.name text with
  | none => exact ⟨rfl, by rw [writes_put_of_find_eq_none cur hs]; rfl⟩
  | some s =>
    have ht := Declaration.text_of_find hs
    have hat := Declaration.isAt_of_find hs
    constructor
    · have hv := (hfit.value_carry field.isName_name ht hat).trans (valueAfter_writes cur hs)
      simp only [Option.map_some, hv]
      rfl
    · exact ((h.put ha hb).fit_writes text).text_withValue_carry field.isName_name.quote_notMem ht
        hat (h.index_ne hun ha hs) (pieceAfter_writes_put cur hs value)

end Sound

/-- **What all edits do.**  Each value is asked for once, so each edit finds what stood there before
them all. -/
theorem Sound.run {asked : Field → Prop} {text : Text} (hun : Field.Unburied asked text) :
    ∀ {entries : List (Field × Text)} {cur : Standing}, Sound asked cur →
      (∀ e ∈ entries, asked e.1 ∧ e.2.IsBare) → (entries.map Prod.fst).Nodup →
        let r := Revision.ofEntries (textAfter (cur.writes text) text) entries
        Sound asked (cur.putAll entries) ∧
          r.text = textAfter ((cur.putAll entries).writes text) text ∧
          r.outcomes = entries.map fun e => (e.1, cur.outcome text e.1 e.2)
  | [], _, h, _, _ => ⟨h, rfl, rfl⟩
  | (field, value) :: entries, cur, h, he, hnd => by
    obtain ⟨ha, hb⟩ := he (field, value) List.mem_cons_self
    rw [List.map_cons, List.nodup_cons] at hnd
    obtain ⟨hout, hresult⟩ := h.step hun ha hb
    obtain ⟨hend, htext, houts⟩ := Sound.run hun (h.put ha hb)
      (fun e he' => he e (List.mem_cons_of_mem _ he')) hnd.2
    rw [← hresult] at htext houts
    refine ⟨hend, htext, ?_⟩
    have hrest : entries.map (fun e => (e.1, (cur.put field value).outcome text e.1 e.2)) =
        entries.map fun e => (e.1, cur.outcome text e.1 e.2) := by
      refine List.map_congr_left fun e he' => ?_
      have hne : e.1 ≠ field := fun heq => hnd.1 (List.mem_map.2 ⟨e, he', heq⟩)
      rw [outcome, outcome, cur.put_of_ne hne]
    rw [List.map_cons, ← hrest, ← houts, ← hout]
    rfl

end Standing
end ReleaseStamp
