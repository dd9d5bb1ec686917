import Mathlib.Data.List.Induction
import ReleaseStamp.Succession
import ReleaseStamp.Proofs.Revision.Standing
/-!
# The last write wins

Requests that follow each other leave the text as it was with the last value of each field in it,
and each of them finds the value of the one before it (`Request.textAfterAll_eq_replaceAll`).  That
holds when only one field is ever asked for, and when the first declarations of the two fields lie
apart; otherwise one field may bury the other.
-/
namespace ReleaseStamp

open Declaration (IsAt find)

namespace Site

/-- The byte belongs to the declaration, from the keyword through the closing quote. -/
def covers (s : Site) (byte : Nat) : Prop := s.place ≤ byte ∧ byte ≤ s.stop

/-- The declarations have no byte in common. -/
def IsApart (s s' : Site) : Prop := ∀ byte, ¬ (s.covers byte ∧ s'.covers byte)

theorem place_le_start (s : Site) : s.place ≤ s.start := by
  rw [place, start, Text.byteLength_append]
  omega

theorem start_le_stop (s : Site) : s.start ≤ s.stop := Nat.le_add_right _ _

theorem isApart_iff (s s' : Site) : s.IsApart s' ↔ s.stop < s'.place ∨ s'.stop < s.place := by
  have h := Nat.le_trans s.place_le_start s.start_le_stop
  have h' := Nat.le_trans s'.place_le_start s'.start_le_stop
  constructor
  · intro hap
    have := hap (max s.place s'.place)
    simp only [covers] at this
    omega
  · rintro hlt byte ⟨hc, hc'⟩
    simp only [covers] at hc hc'
    omega

instance (s s' : Site) : Decidable (s.IsApart s') := decidable_of_iff _ (s.isApart_iff s').symm

theorem IsApart.symm {s s' : Site} (h : s.IsApart s') : s'.IsApart s :=
  fun byte hc => h byte ⟨hc.2, hc.1⟩

theorem IsApart.encloses_eq_false {s s' : Site} (h : s.IsApart s') : s.encloses s' = false := by
  rw [isApart_iff] at h
  have hle := s'.place_le_start
  have hle' := s'.start_le_stop
  have hs := s.place_le_start
  rw [← Bool.not_eq_true, encloses, Bool.and_eq_true, decide_eq_true_eq, decide_eq_true_eq]
  omega

end Site

theorem Declaration.IsAt.encloses_self {name : Text} {s : Site} (h : IsAt name s)
    (hq : '"' ∉ name) : s.encloses s = false := by
  rw [← Bool.not_eq_true, h.encloses_iff h rfl hq hq]
  omega

namespace Field

theorem unburied_of_eq (f : Field) (text : Text) : Unburied (· = f) text := by
  intro g g' hg hg' s s' hs hs'
  rw [hg] at hs
  rw [hg', hs] at hs'
  rw [← Option.some.inj hs']
  exact (Declaration.isAt_of_find hs).encloses_self f.isName_name.quote_notMem

theorem unburied_of_isApart {text : Text}
    (h : ∀ s s', find checksum.name text = some s → find tag.name text = some s' → s.IsApart s') :
    Unburied (fun _ => True) text := by
  rintro f g - - s s' hs hs'
  cases f <;> cases g
  · exact unburied_of_eq checksum text _ _ rfl rfl s s' hs hs'
  · exact (h s s' hs hs').encloses_eq_false
  · exact (h s' s hs' hs).symm.encloses_eq_false
  · exact unburied_of_eq tag text _ _ rfl rfl s s' hs hs'

end Field

/-- **What a stamp does to a text in which values stand.** -/
theorem Stamp.revise_textAfter (S : Stamp) {asked : Field → Prop} {cur : Standing} {text : Text}
    (hun : Field.Unburied asked text) (h : cur.Sound asked)
    (ha : ∀ f v, S.get? f = some v → asked f) :
    let r := S.revise (Write.textAfter (cur.writes text) text)
    (cur.putAll S.entries).Sound asked ∧
      r.text = Write.textAfter ((cur.putAll S.entries).writes text) text ∧
      ∀ f v, S.get? f = some v → r.outcome? f = some (cur.outcome text f v) := by
  have hnd : (S.entries.map Prod.fst).Nodup :=
    Field.all_nodup.sublist S.request.map_fst_entries_sublist
  have hentries : ∀ e ∈ S.entries, asked e.1 ∧ e.2.IsBare := fun e he =>
    ⟨ha e.1 e.2 ((S.request.mem_entries_iff e.1 e.2).1 he), S.isBare_of_mem_entries he⟩
  obtain ⟨hend, htext, houts⟩ := h.run hun hentries hnd
  refine ⟨hend, htext, fun f v hv => ?_⟩
  have hmem : (f, v) ∈ S.entries := (S.request.mem_entries_iff f v).2 hv
  rw [outcome?_eq_some_iff, revise, houts]
  exact List.mem_map_of_mem hmem

namespace Request

/-- The value that the requests leave a field with: that of the last one which was accepted and
asked for the field. -/
def lastValue? (requests : List Request) : Standing := fun f =>
  ((requests.filter (·.objection?.isNone)).filterMap (·.get? f)).getLast?

/-- The last values, each for the first declaration of its field. -/
def lastWrites (requests : List Request) (text : Text) : List Write :=
  (lastValue? requests).writes text

/-- The requests that are accepted all ask for one field, or else the first declarations of the
fields lie apart. -/
def Undisturbed (text : Text) (requests : List Request) : Prop :=
  (∃ f, ∀ r ∈ requests, r.objection? = none → ∀ g v, r.get? g = some v → g = f) ∨
    ∀ s s', find Field.checksum.name text = some s → find Field.tag.name text = some s' →
      s.IsApart s'

theorem Undisturbed.of_subset {text : Text} {requests requests' : List Request}
    (h : Undisturbed text requests) (hsub : ∀ r ∈ requests', r ∈ requests) :
    Undisturbed text requests' := by
  rcases h with ⟨f, hf⟩ | h
  · exact .inl ⟨f, fun r hr => hf r (hsub r hr)⟩
  · exact .inr h

theorem Undisturbed.exists_asked {text : Text} {requests : List Request}
    (h : Undisturbed text requests) : ∃ asked, Field.Unburied asked text ∧
      ∀ r ∈ requests, r.objection? = none → ∀ f v, r.get? f = some v → asked f := by
  rcases h with ⟨f, hf⟩ | h
  · exact ⟨_, Field.unburied_of_eq f text, hf⟩
  · exact ⟨_, Field.unburied_of_isApart h, fun _ _ _ _ _ _ => trivial⟩

theorem lastValue?_concat_of_objection {r : Request} {o : Objection} (h : r.objection? = some o)
    (requests : List Request) : lastValue? (requests ++ [r]) = lastValue? requests := by
  funext f
  simp [lastValue?, h]

theorem lastValue?_concat (S : Stamp) (requests : List Request) :
    lastValue? (requests ++ [S.request]) = (lastValue? requests).putAll S.entries := by
  funext f
  have haccepted : [S.request].filter (·.objection?.isNone) = [S.request] := by
    simp [S.accepted]
  rw [lastValue?, List.filter_append, haccepted, List.filterMap_append]
  cases hv : S.request.get? f with
  | none =>
    rw [Standing.putAll_of_forall_ne]
    · simp [hv, lastValue?]
    · rintro ⟨_, v⟩ he rfl
      rw [(S.request.mem_entries_iff _ v).1 he] at hv
      cases hv
  | some v =>
    have hput : (lastValue? requests).putAll S.entries f = some v :=
      Standing.putAll_of_mem S.entries (lastValue? requests)
        (Field.all_nodup.sublist S.request.map_fst_entries_sublist)
        ((S.request.mem_entries_iff f v).2 hv)
    rw [hput]
    simp [hv]

theorem writes_lastValue?_nil (text : Text) : (lastValue? []).writes text = [] :=
  List.filterMap_eq_nil_iff.2 fun f _ => by cases find f.name text <;> rfl

theorem textAfterAll_concat (text : Text) (requests : List Request) (r : Request) :
    textAfterAll text (requests ++ [r]) = r.textAfter (textAfterAll text requests) :=
  List.foldl_concat ..

/-- **What a run of requests does.** -/
theorem run {asked : Field → Prop} {text : Text} (hun : Field.Unburied asked text)
    (requests : List Request)
    (ha : ∀ r ∈ requests, r.objection? = none → ∀ f v, r.get? f = some v → asked f) :
    (lastValue? requests).Sound asked ∧
      textAfterAll text requests = Write.textAfter (lastWrites requests text) text := by
  induction requests using List.reverseRecOn with
  | nil =>
    refine ⟨⟨fun f v hv => ?_, fun f v hv => ?_⟩, ?_⟩
    · cases hv
    · cases hv
    · rw [lastWrites, writes_lastValue?_nil, Write.textAfter_nil]
      rfl
  | append_singleton requests r ih =>
    obtain ⟨hsound, htext⟩ := ih fun r hr => ha r (List.mem_append_left _ hr)
    rw [textAfterAll_concat, htext, lastWrites, lastWrites]
    cases ho : r.objection? with
    | some o =>
      have hr : Stamp.ofRequest r = .error o := (Stamp.ofRequest_eq_error_iff r o).2 ho
      rw [lastValue?_concat_of_objection ho, textAfter, revise, hr]
      exact ⟨hsound, rfl⟩
    | none =>
      have hr : Stamp.ofRequest r = .ok ⟨r, ho⟩ := (Stamp.ofRequest_eq_ok_iff r _).2 rfl
      obtain ⟨hend, hafter, -⟩ := Stamp.revise_textAfter ⟨r, ho⟩ hun hsound
        (ha r (List.mem_append_right _ List.mem_cons_self) ho)
      rw [lastValue?_concat ⟨r, ho⟩, textAfter, revise, hr]
      exact ⟨hend, hafter⟩

theorem getElem?_reviseInTurn : ∀ (requests : List Request) (text : Text) (i : Nat),
    (reviseInTurn text requests)[i]? =
      requests[i]?.map fun r => r.revise (textAfterAll text (requests.take i))
  | [], _, _ => rfl
  | r :: requests, text, 0 => rfl
  | r :: requests, text, i + 1 => by
    have ih := getElem?_reviseInTurn requests (r.textAfter text) i
    rw [reviseInTurn, List.getElem?_cons_succ, ih]
    rfl

theorem textAfterAll_congr {text : Text} {requests requests' : List Request}
    (h : Undisturbed text requests) (h' : Undisturbed text requests')
    (hlast : lastValue? requests = lastValue? requests') :
    textAfterAll text requests = textAfterAll text requests' := by
  obtain ⟨asked, hun, ha⟩ := h.exists_asked
  obtain ⟨asked', hun', ha'⟩ := h'.exists_asked
  rw [(run hun requests ha).2, (run hun' requests' ha').2, lastWrites, lastWrites, hlast]

theorem lastValue?_append (before after : List Request) (f : Field) :
    lastValue? (before ++ after) f = (lastValue? after f).or (lastValue? before f) := by
  rw [lastValue?, List.filter_append, List.filterMap_append, List.getLast?_append]
  rfl

theorem lastValue?_between {mid mid' : List Request} (h : lastValue? mid = lastValue? mid')
    (before after : List Request) :
    lastValue? (before ++ (mid ++ after)) = lastValue? (before ++ (mid' ++ after)) := by
  funext f
  rw [lastValue?_append, lastValue?_append, lastValue?_append, lastValue?_append, h]

theorem lastValue?_twice (r : Request) : lastValue? [r, r] = lastValue? [r] := by
  funext f
  cases ho : r.objection? <;> cases hv : r.get? f <;> simp [lastValue?, ho, hv]

theorem lastValue?_swap {r r' : Request} (h : ∀ f, r.get? f = none ∨ r'.get? f = none) :
    lastValue? [r', r] = lastValue? [r, r'] := by
  funext f
  rcases h f with hf | hf <;> cases ho : r.objection? <;> cases ho' : r'.objection? <;>
    simp [lastValue?, ho, ho', hf]

/-- **The last write wins.**  A run of requests that do not disturb each other replaces the first
declaration of each field by the last value asked for, if there are both, and nothing else.  Each
request that is accepted finds the fields that are declared at first, with the value that the
requests before it left.  So a request that is repeated changes nothing, and requests for different
fields may change places. -/
theorem textAfterAll_eq_replaceAll {text : Text} {requests : List Request}
    (h : Undisturbed text requests) :
    textAfterAll text requests =
        text.replaceAll ((lastWrites requests text).map Write.replacement) ∧
      (∀ (i : Nat) (r : Request) (revision : Revision), requests[i]? = some r →
        (reviseInTurn text requests)[i]? = some (.ok revision) → ∀ f v, r.get? f = some v →
          revision.outcome? f = some ((lastValue? (requests.take i)).outcome text f v)) ∧
      (∀ before r after, requests = before ++ r :: after →
        textAfterAll text (before ++ r :: r :: after) = textAfterAll text requests) ∧
      ∀ before r r' after, requests = before ++ r :: r' :: after →
        (∀ f, r.get? f = none ∨ r'.get? f = none) →
          textAfterAll text (before ++ r' :: r :: after) = textAfterAll text requests := by
  obtain ⟨asked, hun, ha⟩ := h.exists_asked
  refine ⟨(run hun requests ha).2, fun i r revision hr hrev f v hv => ?_, ?_, ?_⟩
  · -- the request comes to a text whose declarations stand where the first ones stood
    obtain ⟨hsound, htext⟩ := run hun (requests.take i) fun r hr =>
      ha r (List.mem_of_mem_take hr)
    rw [getElem?_reviseInTurn, hr, Option.map_some, htext, revise] at hrev
    cases hS : Stamp.ofRequest r with
    | error o =>
      rw [hS] at hrev
      cases hrev
    | ok S =>
      rw [hS] at hrev
      obtain rfl := (Stamp.ofRequest_eq_ok_iff r S).1 hS
      obtain ⟨-, -, hout⟩ := S.revise_textAfter hun hsound
        (ha S.request (List.mem_of_getElem? hr) S.accepted)
      injection hrev with hrev
      injection hrev with hrev
      rw [← hrev]
      exact hout f v hv
  · rintro before r after rfl
    refine textAfterAll_congr (h.of_subset fun r' hr' => ?_) h
      (lastValue?_between (lastValue?_twice r) before after)
    simpa using hr'
  · rintro before r r' after rfl hdiff
    refine textAfterAll_congr (h.of_subset fun r'' hr'' => ?_) h
      (lastValue?_between (lastValue?_swap hdiff) before after)
    simpa [or_left_comm] using hr''

/-- The second request is refused, and the later declaration of the tag is left as it is. -/
theorem textAfterAll_tags :
    let text := "let checksum = \"x\" let tag = \"v1\" let tag = \"v0\"".toList
    let requests : List Request := [⟨some "ab".toList, some "1.2.3".toList⟩,
      ⟨some "XY".toList, some "3.0.0".toList⟩, ⟨none, some "2.0.0".toList⟩]
    Undisturbed text requests ∧ textAfterAll text requests =
      "let checksum = \"ab\" let tag = \"2.0.0\" let tag = \"v0\"".toList := by
  intro text requests
  have hapart : ∀ s ∈ find Field.checksum.name text, ∀ s' ∈ find Field.tag.name text,
      s.IsApart s' := by decide
  have h : Undisturbed text requests := .inr fun s s' hs hs' => hapart s hs s' hs'
  exact ⟨h, (textAfterAll_eq_replaceAll h).1.trans (by decide)⟩

end Request
end ReleaseStamp
