import ReleaseStamp.Environment
import ReleaseStamp.Proofs.Journal.Match
/-!
# What is entered in the journal

Of several directives the one decides that names most of the part an event comes from
(`Filter.of_directive?_eq_some`), and no part has two (`Filter.nodup_read`).  An event is entered
only if a directive wants what is of interest in the search for a fault
(`Environment.entries_eq_nil`), and if a pattern is given, only if that matches a part of the
message (`Filter.admits_iff`).
-/
namespace ReleaseStamp

namespace Journal

namespace Directive

theorem mem_insert {d e : Directive} : ∀ {ds : List Directive}, e ∈ d.insert ds → e = d ∨ e ∈ ds
  | [], h => .inl (List.mem_singleton.1 h)
  | f :: ds, h => by
    rw [insert] at h
    split at h
    · exact (List.mem_cons.1 h).imp_right (List.mem_cons_of_mem f)
    · rcases List.mem_cons.1 h with rfl | h
      · exact .inr List.mem_cons_self
      · exact (mem_insert h).imp_right (List.mem_cons_of_mem f)

theorem nodup_insert (d : Directive) : ∀ {ds : List Directive}, (ds.map part?).Nodup →
    ((d.insert ds).map part?).Nodup
  | [], _ => by simp [insert]
  | e :: ds, h => by
    rw [List.map_cons, List.nodup_cons] at h
    rw [insert]
    split
    · rename_i he
      rw [List.map_cons, List.nodup_cons, ← he]
      exact h
    · rename_i he
      rw [List.map_cons, List.nodup_cons]
      refine ⟨fun hmem => ?_, nodup_insert d h.2⟩
      obtain ⟨f, hf, hpart⟩ := List.mem_map.1 hmem
      rcases mem_insert hf with rfl | hf
      · exact he hpart.symm
      · exact h.1 (hpart ▸ List.mem_map_of_mem hf)

end Directive

namespace Filter

theorem nodup_foldl {take : List Directive → Except Complaint Directive → List Directive}
    (hok : ∀ ds d, take ds (.ok d) = d.insert ds) (herror : ∀ ds c, take ds (.error c) = ds) :
    ∀ (readings : List (Except Complaint Directive)) {ds : List Directive},
      (ds.map Directive.part?).Nodup → ((readings.foldl take ds).map Directive.part?).Nodup
  | [], _, h => h
  | .ok d :: readings, ds, h => by
    rw [List.foldl_cons, hok]
    exact nodup_foldl hok herror readings (Directive.nodup_insert d h)
  | .error c :: readings, ds, h => by
    rw [List.foldl_cons, herror]
    exact nodup_foldl hok herror readings h

/-- **No two directives are on one part** of the program. -/
theorem nodup_read (t : Text) : ((read t).1.directives.map Directive.part?).Nodup := by
  unfold read
  split
  · exact nodup_foldl (fun _ _ => rfl) (fun _ _ => rfl) _ List.nodup_nil
  · dsimp only
    split
    · exact nodup_foldl (fun _ _ => rfl) (fun _ _ => rfl) _ List.nodup_nil
    · exact nodup_foldl (fun _ _ => rfl) (fun _ _ => rfl) _ List.nodup_nil
  · exact List.nodup_nil

/-- **The directive decides that names most of a part.** -/
theorem of_directive?_eq_some {f : Filter} {part : Text} {d : Directive}
    (h : f.directive? part = some d) : d ∈ f.directives ∧ d.covers part = true ∧
      ∀ e ∈ f.directives, e.covers part = true → e.weight ≤ d.weight := by
  obtain ⟨hcovers, before, after, hsplit, hbefore⟩ := List.find?_eq_some_iff_append.1 h
  have hperm := List.mergeSort_perm f.directives fun d e => decide (d.weight ≤ e.weight)
  have hsorted : (f.directives.mergeSort fun d e => decide (d.weight ≤ e.weight)).Pairwise
      fun d e => decide (d.weight ≤ e.weight) = true := by
    refine List.pairwise_mergeSort (fun a b c hab hbc => ?_) (fun a b => ?_) f.directives
    · simp only [decide_eq_true_eq] at hab hbc ⊢
      omega
    · simp only [Bool.or_eq_true, decide_eq_true_eq]
      omega
  generalize f.directives.mergeSort (fun d e => decide (d.weight ≤ e.weight)) = ds
    at hsplit hperm hsorted
  -- in the reverse order what weighs more comes first, and what comes first does not cover the part
  have hdesc : (before ++ d :: after).Pairwise fun e g => g.weight ≤ e.weight := by
    rw [← hsplit, List.pairwise_reverse]
    exact hsorted.imp fun h => of_decide_eq_true h
  have hmem (e : Directive) : e ∈ before ++ d :: after ↔ e ∈ f.directives := by
    rw [← hsplit, List.mem_reverse, hperm.mem_iff]
  refine ⟨(hmem d).1 (by simp), hcovers, fun e he hcover => ?_⟩
  rcases List.mem_append.1 ((hmem e).2 he) with he | he
  · exact absurd hcover (by simpa using hbefore e he)
  · rcases List.mem_cons.1 he with rfl | he
    · exact Nat.le_refl _
    · exact (List.pairwise_cons.1 (List.pairwise_append.1 hdesc).2.1).1 e he

theorem admits_iff {f : Filter} {part message : Text} : f.admits part message = true ↔
    (∃ d, f.directive? part = some d ∧ d.level.wantsDebug = true) ∧
      ∀ m, f.pattern? = some m → ∃ front rest kept q, message = front ++ rest ∧
        m.Leads ⟨front.reverse, rest⟩ kept q := by
  simp only [admits, Bool.and_eq_true, Option.any_eq_true, Option.all_eq_true,
    Pattern.Meaning.isIn_iff]

end Filter
end Journal

theorem Environment.entries_eq_nil {env : Environment}
    (h : ∀ d ∈ env.filter.1.directives, d.level.wantsDebug = false) (events : List (Event × Nat)) :
    env.entries events = [] := by
  have hnone (e : Event) : e.isWanted env.filter.1 = false := by
    rw [← Bool.not_eq_true, Event.isWanted, Journal.Filter.admits_iff]
    rintro ⟨⟨d, hd, hlevel⟩, -⟩
    rw [h d (Journal.Filter.of_directive?_eq_some hd).1] at hlevel
    cases hlevel
  rw [entries, List.filter_eq_nil_iff.2 fun x _ => by simp [hnone], List.flatMap_nil]

/-- **Where debugging is wanted of all**, every event is entered, in the order of the events. -/
theorem Environment.entries_of_debug {env : Environment} (h : env.journal = some "debug".toList)
    (events : List (Event × Nat)) :
    env.entries events =
      events.flatMap fun (e, n) => (e.entry (env.clock n)).written env.coloursJournal := by
  have hfilter : env.filter = (⟨[⟨none, .debug⟩], none⟩, []) := by
    rw [filter, h]
    rfl
  have hwanted (e : Event) : e.isWanted env.filter.1 = true := by
    simp [hfilter, Event.isWanted, Journal.Filter.admits, Journal.Filter.directive?,
      Journal.Directive.covers, Journal.Level.wantsDebug]
  rw [entries, List.filter_eq_self.2 fun x _ => hwanted x.1]

end ReleaseStamp
