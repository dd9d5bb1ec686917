import Mathlib.Data.List.TakeWhile
import ReleaseStamp.Proofs.CommandLine.Wish
/-!
# Items

A wish can be put in two ways each: a value is joined to the name of its parameter or stands apart
after it, and the dry run has a long name and a letter.  A value that stands apart must look like a
word, since it would be taken for a switch otherwise; joined to the name it may look like anything.
-/
namespace ReleaseStamp.CommandLine

inductive Item where
  /-- As `--name=value`. -/
  | joined (p : Parameter) (v : Text)
  /-- As `--name value`. -/
  | apart (p : Parameter) (v : Text)
  | dryRunName
  | dryRunLetter
  deriving DecidableEq

namespace Item

def wish : Item → Wish
  | .joined p v => .value p v
  | .apart p v => .value p v
  | .dryRunName => .dryRun
  | .dryRunLetter => .dryRun

/-- The arguments that it is typed as. -/
def args : Item → List Text
  | .joined p v => [(Switch.parameter p).longName ++ '=' :: v]
  | .apart p v => [(Switch.parameter p).longName, v]
  | .dryRunName => [(Switch.flag .dryRun).longName]
  | .dryRunLetter => [['-', Flag.dryRun.letter]]

/-- Whether it is read as it is meant. -/
def IsLegible : Item → Prop
  | .apart _ v => v = ['-'] ∨ v.head? ≠ some '-'
  | _ => True

theorem length_args_pos (i : Item) : 0 < i.args.length := by
  cases i <;> simp [args]

end Item

/-- The arguments are those of the items, with an escape after them or without. -/
def Spells (items : List Item) (args : List Text) : Prop :=
  args = items.flatMap Item.args ∨ args = items.flatMap Item.args ++ ["--".toList]

/-- What items must be to be read: legible, at most one for each switch, and no path empty. -/
structure Admitted (items : List Item) : Prop where
  legible : ∀ i ∈ items, i.IsLegible
  sound : ∀ i ∈ items, i.wish.IsSound
  nodup : (items.map (·.wish.switch)).Nodup

theorem Spells.cons {items : List Item} {args : List Text} (h : Spells items args) (i : Item) :
    Spells (i :: items) (i.args ++ args) := by
  rw [Spells, List.flatMap_cons, List.append_assoc]
  exact h.imp (congrArg (i.args ++ ·)) (congrArg (i.args ++ ·))

theorem admitted_iff (items : List Item) :
    Admitted items ↔ (∀ i ∈ items, i.IsLegible) ∧
      ∃ S, Settings.empty.grantAll (items.map Item.wish) = .ok S := by
  rw [Settings.exists_grantAll_empty_iff, List.forall_mem_map, List.map_map]
  constructor
  · rintro ⟨hl, hs, hnd⟩
    exact ⟨hl, hs, hnd⟩
  · rintro ⟨hl, hs, hnd⟩
    exact ⟨hl, hs, hnd⟩

/-! ## How arguments look -/

theorem Switch.name_ne_nil (s : Switch) : s.name ≠ [] := by
  rcases s with p | f
  · cases p <;> decide
  · cases f <;> decide

theorem Switch.equals_notMem_name (s : Switch) : '=' ∉ s.name := by
  rcases s with p | f
  · cases p <;> decide
  · cases f <;> decide

namespace Token

theorem ofArgument_name {name : Text} (hne : name ≠ []) (h : '=' ∉ name) :
    ofArgument ('-' :: '-' :: name) = .long name none := by
  have hall : ∀ c ∈ name, (c != '=') = true := fun c hc => bne_iff_ne.2 (ne_of_mem_of_not_mem hc h)
  obtain ⟨c, t, rfl⟩ := List.exists_cons_of_ne_nil hne
  change ofLong (c :: t) = _
  rw [ofLong, List.takeWhile_eq_self_iff.2 hall, List.dropWhile_eq_nil_iff.2 hall]

theorem ofArgument_name_append {name : Text} (h : '=' ∉ name) (v : Text) :
    ofArgument ('-' :: '-' :: (name ++ '=' :: v)) = .long name (some v) := by
  have hall : ∀ c ∈ name, (c != '=') = true := fun c hc => bne_iff_ne.2 (ne_of_mem_of_not_mem hc h)
  have hlong : ofArgument ('-' :: '-' :: (name ++ '=' :: v)) = ofLong (name ++ '=' :: v) := by
    cases name <;> rfl
  rw [hlong, ofLong, List.takeWhile_append_of_pos hall, List.dropWhile_append_of_pos hall]
  simp

theorem ofArgument_longName (s : Switch) : ofArgument s.longName = .long s.name none :=
  ofArgument_name s.name_ne_nil s.equals_notMem_name

theorem ofArgument_longName_append (s : Switch) (v : Text) :
    ofArgument (s.longName ++ '=' :: v) = .long s.name (some v) :=
  ofArgument_name_append s.equals_notMem_name v

theorem ofArgument_cluster {c : Char} (h : c ≠ '-') (letters : List Char) :
    ofArgument ('-' :: c :: letters) = .cluster c letters := by
  unfold ofArgument
  split <;> simp_all

theorem ofArgument_letter (f : Flag) : ofArgument ['-', f.letter] = .cluster f.letter [] := by
  cases f <;> rfl

theorem ofArgument_of_word {t : Text} (h : t = ['-'] ∨ t.head? ≠ some '-') :
    ofArgument t = .word t := by
  unfold ofArgument
  split
  · simp at h
  · simp at h
  · simp at h
  · rfl

theorem word_of_ofArgument {arg t : Text} (h : ofArgument arg = .word t) :
    t = ['-'] ∨ t.head? ≠ some '-' := by
  unfold ofArgument at h
  split at h
  · cases h
  · cases h
  · cases h
  · rename_i hcluster
    cases h
    rcases arg with _ | ⟨c, _ | ⟨d, arg⟩⟩
    · exact .inr nofun
    · simpa using Decidable.em (c = '-')
    · refine .inr fun hc => hcluster d arg ?_
      obtain rfl : c = '-' := by simpa using hc
      rfl

/-- No other argument has the same looks. -/
theorem eq_render_of_ofArgument {arg : Text} {token : Token} (h : ofArgument arg = token) :
    arg = token.render := by
  rw [← h, render_ofArgument]

end Token
end ReleaseStamp.CommandLine
