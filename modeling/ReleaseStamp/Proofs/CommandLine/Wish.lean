import ReleaseStamp.CommandLine.Reading
/-!
# Wishes

A command line that is read comes to a list of wishes: values for parameters, and the dry run.
Wishes are granted one after another; all of them are granted exactly when none of them is asked for
twice and no path is empty (`Settings.exists_grantAll_iff`).  What is settled then is what was
wished for, in whatever order (`Settings.holds_of_grantAll`).
-/
namespace ReleaseStamp.CommandLine

/-! ## Steps that may halt -/

section

variable {α β : Type} {x : Except Halt α} {b : β}

theorem bind_eq_ok_iff {f : α → Except Halt β} :
    x.bind f = .ok b ↔ ∃ a, x = .ok a ∧ f a = .ok b := by
  cases x <;> simp [Except.bind]

theorem map_eq_ok_iff {f : α → β} : x.map f = .ok b ↔ ∃ a, x = .ok a ∧ f a = b := by
  cases x <;> simp [Except.map]

end

/-! ## Lists of wishes -/

inductive Wish where
  | value (p : Parameter) (v : Text)
  | dryRun
  deriving DecidableEq

namespace Wish

/-- What it is a wish for. -/
def switch : Wish → Switch
  | .value p _ => .parameter p
  | .dryRun => .flag .dryRun

/-- Whether it can be granted at all: a path is never empty. -/
def IsSound : Wish → Prop
  | .value p v => p = .manifestPath → v ≠ []
  | .dryRun => True

/-- The value that is wished for a parameter, if there is one. -/
def valueOf? (p : Parameter) : List Wish → Option Text
  | [] => none
  | .value q v :: wishes => if q = p then some v else valueOf? p wishes
  | .dryRun :: wishes => valueOf? p wishes

/-- The job that is wished for. -/
def job (wishes : List Wish) : Job :=
  ⟨⟨valueOf? .checksum wishes, valueOf? .tag wishes⟩,
    (valueOf? .manifestPath wishes).getD Job.defaultPath, wishes.contains .dryRun⟩

theorem value_mem_of_valueOf? {p : Parameter} {v : Text} :
    ∀ {wishes : List Wish}, valueOf? p wishes = some v → .value p v ∈ wishes
  | .dryRun :: wishes, h => List.mem_cons_of_mem _ (value_mem_of_valueOf? h)
  | .value q u :: wishes, h => by
    rw [valueOf?] at h
    split at h
    · rename_i hq
      cases h
      exact hq ▸ List.mem_cons_self
    · exact List.mem_cons_of_mem _ (value_mem_of_valueOf? h)

theorem valueOf?_eq_some_iff (p : Parameter) (v : Text) :
    ∀ {wishes : List Wish}, (wishes.map switch).Nodup →
      (valueOf? p wishes = some v ↔ .value p v ∈ wishes)
  | [], _ => by simp [valueOf?]
  | .dryRun :: wishes, hnd => by
    rw [valueOf?, valueOf?_eq_some_iff p v (List.nodup_cons.1 hnd).2]
    simp
  | .value q u :: wishes, hnd => by
    obtain ⟨hfirst, hnd⟩ := List.nodup_cons.1 hnd
    refine ⟨value_mem_of_valueOf?, fun hmem => ?_⟩
    rw [valueOf?]
    rcases List.mem_cons.1 hmem with heq | hmem
    · cases heq
      rw [if_pos rfl]
    · have hq : q ≠ p := by
        rintro rfl
        exact hfirst (List.mem_map.2 ⟨.value q v, hmem, rfl⟩)
      rw [if_neg hq, valueOf?_eq_some_iff p v hnd]
      exact hmem

end Wish

namespace Settings

variable {S S' : Settings} {w : Wish} {wishes : List Wish}

/-- Whether a wish has been granted. -/
def Holds (S : Settings) : Wish → Prop
  | .value p v => S.get? p = some v
  | .dryRun => S.dryRun = true

/-- Whether any wish for it has been granted. -/
def Gives (S : Settings) (s : Switch) : Prop := ∃ w : Wish, w.switch = s ∧ S.Holds w

def grant (S : Settings) : Wish → Except Halt Settings
  | .value p v => S.give p v
  | .dryRun => S.raise .dryRun

def grantAll (S : Settings) : List Wish → Except Halt Settings
  | [] => .ok S
  | w :: wishes => (S.grant w).bind (grantAll · wishes)

theorem get?_set (S : Settings) (p q : Parameter) (v : Text) :
    (S.set v p).get? q = if q = p then some v else S.get? q := by
  cases p <;> cases q <;> rfl

@[simp] theorem dryRun_set (S : Settings) (p : Parameter) (v : Text) :
    (S.set v p).dryRun = S.dryRun := by
  cases p <;> rfl

theorem not_holds_empty : ∀ w : Wish, ¬ empty.Holds w
  | .value p v => by cases p <;> simp [Holds, empty, get?]
  | .dryRun => by simp [Holds, empty]

theorem gives_parameter_iff (p : Parameter) :
    S.Gives (.parameter p) ↔ (S.get? p).isSome = true := by
  rw [Option.isSome_iff_exists]
  constructor
  · rintro ⟨w, hw, h⟩
    cases w with
    | value q v =>
      cases hw
      exact ⟨v, h⟩
    | dryRun => cases hw
  · rintro ⟨v, h⟩
    exact ⟨.value p v, rfl, h⟩

theorem gives_dryRun_iff : S.Gives (.flag .dryRun) ↔ S.dryRun = true := by
  constructor
  · rintro ⟨w, hw, h⟩
    cases w with
    | value q v => cases hw
    | dryRun => exact h
  · intro h
    exact ⟨.dryRun, rfl, h⟩

/-! ## One wish -/

theorem give_eq_ok_iff (p : Parameter) (v : Text) :
    S.give p v = .ok S' ↔
      (p = .manifestPath → v ≠ []) ∧ (S.get? p).isSome = false ∧ S' = S.set v p := by
  unfold give
  split
  · simp [*]
  · split
    · simp_all
    · rename_i hnone hpath
      simp only [Except.ok.injEq]
      constructor
      · rintro rfl
        exact ⟨fun hp hv => hpath ⟨hp, hv⟩, by simpa using hnone, rfl⟩
      · rintro ⟨-, -, rfl⟩
        rfl

theorem raise_eq_ok_iff (f : Flag) :
    S.raise f = .ok S' ↔ f = .dryRun ∧ S.dryRun = false ∧ S' = { S with dryRun := true } := by
  cases f with
  | help => simp [raise]
  | version => simp [raise]
  | dryRun => cases h : S.dryRun <;> simp [raise, h, eq_comm]

theorem holds_of_grant (h : S.grant w = .ok S') (x : Wish) : S'.Holds x ↔ S.Holds x ∨ x = w := by
  cases w with
  | value p v =>
    obtain ⟨-, hnone, rfl⟩ := (give_eq_ok_iff p v).1 h
    cases x with
    | dryRun => simp [Holds]
    | value q u =>
      by_cases hq : q = p
      · subst hq
        simp only [Option.isSome_eq_false_iff, Option.isNone_iff_eq_none] at hnone
        simp [Holds, get?_set, hnone, eq_comm]
      · simp [Holds, get?_set, hq]
  | dryRun =>
    obtain ⟨-, -, rfl⟩ := (raise_eq_ok_iff .dryRun).1 h
    cases x with
    | dryRun => simp [Holds]
    | value q u => cases q <;> simp [Holds, get?]

/-- **What one wish asks for.** -/
theorem exists_grant_iff :
    (∃ S', S.grant w = .ok S') ↔ w.IsSound ∧ ¬ S.Gives w.switch := by
  cases w with
  | value p v => simp [grant, give_eq_ok_iff, Wish.IsSound, Wish.switch, gives_parameter_iff]
  | dryRun => simp [grant, raise_eq_ok_iff, Wish.IsSound, Wish.switch, gives_dryRun_iff]

theorem gives_of_grant (h : S.grant w = .ok S') (s : Switch) :
    S'.Gives s ↔ S.Gives s ∨ s = w.switch := by
  simp only [Gives, holds_of_grant h]
  constructor
  · rintro ⟨x, rfl, hx | rfl⟩
    · exact .inl ⟨x, rfl, hx⟩
    · exact .inr rfl
  · rintro (⟨x, rfl, hx⟩ | rfl)
    · exact ⟨x, rfl, .inl hx⟩
    · exact ⟨w, rfl, .inr rfl⟩

/-! ## Any number of wishes -/

theorem grantAll_cons_eq_ok_iff :
    S.grantAll (w :: wishes) = .ok S' ↔ ∃ S₁, S.grant w = .ok S₁ ∧ S₁.grantAll wishes = .ok S' :=
  bind_eq_ok_iff

theorem holds_of_grantAll {wishes : List Wish} {S : Settings} (h : S.grantAll wishes = .ok S')
    (x : Wish) : S'.Holds x ↔ S.Holds x ∨ x ∈ wishes := by
  induction wishes generalizing S with
  | nil =>
    cases h
    simp
  | cons w wishes ih =>
    obtain ⟨S₁, hw, h⟩ := grantAll_cons_eq_ok_iff.1 h
    rw [ih h, holds_of_grant hw, List.mem_cons, or_assoc]

/-- **What any number of wishes ask for**: that each can be granted, and none twice. -/
theorem exists_grantAll_iff {wishes : List Wish} {S : Settings} :
    (∃ S', S.grantAll wishes = .ok S') ↔ (∀ w ∈ wishes, w.IsSound) ∧
      (wishes.map Wish.switch).Nodup ∧ ∀ w ∈ wishes, ¬ S.Gives w.switch := by
  induction wishes generalizing S with
  | nil => simp [grantAll]
  | cons w wishes ih =>
    simp only [grantAll_cons_eq_ok_iff, List.forall_mem_cons, List.map_cons, List.nodup_cons]
    constructor
    · rintro ⟨S', S₁, hw, h⟩
      obtain ⟨hsound, hnew⟩ := exists_grant_iff.1 ⟨S₁, hw⟩
      obtain ⟨hall, hnd, hapart⟩ := ih.1 ⟨S', h⟩
      simp only [gives_of_grant hw, not_or] at hapart
      refine ⟨⟨hsound, hall⟩, ⟨?_, hnd⟩, hnew, fun x hx => (hapart x hx).1⟩
      intro hmem
      obtain ⟨x, hx, heq⟩ := List.mem_map.1 hmem
      exact (hapart x hx).2 heq
    · rintro ⟨⟨hsound, hall⟩, ⟨hfirst, hnd⟩, hnew, hapart⟩
      obtain ⟨S₁, hw⟩ := exists_grant_iff.2 ⟨hsound, hnew⟩
      have hapart₁ : ∀ x ∈ wishes, ¬ S₁.Gives x.switch := by
        intro x hx hgives
        rcases (gives_of_grant hw _).1 hgives with h | h
        · exact hapart x hx h
        · exact hfirst (h ▸ List.mem_map_of_mem hx)
      obtain ⟨S', h⟩ := ih.2 ⟨hall, hnd, hapart₁⟩
      exact ⟨S', S₁, hw, h⟩

theorem exists_grantAll_empty_iff :
    (∃ S', empty.grantAll wishes = .ok S') ↔
      (∀ w ∈ wishes, w.IsSound) ∧ (wishes.map Wish.switch).Nodup := by
  have hgives : ∀ w ∈ wishes, ¬ empty.Gives w.switch := by
    rintro w - ⟨x, -, hx⟩
    exact not_holds_empty x hx
  rw [exists_grantAll_iff, and_iff_left hgives]

theorem job_eq_of_grantAll (h : empty.grantAll wishes = .ok S) : S.job = Wish.job wishes := by
  obtain ⟨-, hnd⟩ := exists_grantAll_empty_iff.1 ⟨S, h⟩
  have hholds : ∀ w, S.Holds w ↔ w ∈ wishes := by
    intro w
    rw [holds_of_grantAll h, or_iff_right (not_holds_empty w)]
  have hvalue : ∀ p, S.get? p = Wish.valueOf? p wishes := by
    intro p
    ext v
    rw [Wish.valueOf?_eq_some_iff p v hnd]
    exact hholds (.value p v)
  have hdry : S.dryRun = wishes.contains .dryRun := by
    rw [Bool.eq_iff_iff, List.contains_iff_mem]
    exact hholds .dryRun
  rw [job, Wish.job, ← hvalue, ← hvalue, ← hvalue, hdry]
  rfl

end Settings

theorem Wish.job_eq_of_perm {wishes wishes' : List Wish} (hp : wishes.Perm wishes')
    (hnd : (wishes.map switch).Nodup) : job wishes = job wishes' := by
  have hnd' : (wishes'.map switch).Nodup := (hp.map switch).nodup_iff.1 hnd
  have hvalue : ∀ p, valueOf? p wishes = valueOf? p wishes' := by
    intro p
    ext v
    rw [valueOf?_eq_some_iff p v hnd, valueOf?_eq_some_iff p v hnd', hp.mem_iff]
  have hdry : wishes.contains .dryRun = wishes'.contains .dryRun := by
    rw [Bool.eq_iff_iff, List.contains_iff_mem, List.contains_iff_mem, hp.mem_iff]
  rw [job, job, hvalue, hvalue, hvalue, hdry]

end ReleaseStamp.CommandLine
