import ReleaseStamp.Proofs.Files.Route
import ReleaseStamp.Proofs.Revision.Plan
import ReleaseStamp.Proofs.Update.Lines
/-!
# Updates that change nothing

A revision is taken to change nothing when each field that it found held its new value before.  That
looks at the edits and never at the text, yet it misses no change: the values written lie in
different pieces of the text, so none makes up for another (`Write.Fit.textAfter_eq_self_iff`).
Hence an update says that nothing is to be changed exactly when the text would stay as it is
(`nothingToChange_iff`).
-/
namespace ReleaseStamp

open Files (Tree)
open Terminal (Style)
open Write (Fit textAfter piecesAfter)

namespace Write.Fit

variable {text : Text} {ws : List Write}

theorem value_eq_of_textAfter_eq_self (h : Fit text ws) (hnd : (ws.map (·.site.index)).Nodup)
    (hsame : textAfter ws text = text) {w : Write} (hw : w ∈ ws) : w.value = w.site.value := by
  have hlt := h.index_lt hw
  have hpieces := h.pieces_textAfter
  rw [hsame] at hpieces
  obtain ⟨ht, name, hn, hat⟩ := h.isAt w hw
  calc w.value = pieceAfter ws (w.site.index + 1)
        ((Text.pieces text).getD (w.site.index + 1) []) := (pieceAfter_of_mem hnd hw _).symm
    _ = (piecesAfter ws (Text.pieces text)).getD (w.site.index + 1) [] :=
        (getD_piecesAfter ws (by omega)).symm
    _ = (Text.pieces w.site.text).getD (w.site.index + 1) [] := by rw [← hpieces, ht]
    _ = w.site.value := (hat.value_eq hn.quote_notMem).symm

theorem piecesAfter_eq_self (h : Fit text ws) (hsame : ∀ w ∈ ws, w.value = w.site.value) :
    piecesAfter ws (Text.pieces text) = Text.pieces text := by
  apply List.ext_getElem (length_piecesAfter ws _)
  intro i hi hi'
  rw [← List.getD_eq_getElem _ [] hi, ← List.getD_eq_getElem _ [] hi', getD_piecesAfter ws hi']
  rcases pieceAfter_eq_or ws i ((Text.pieces text).getD i []) with ⟨hkeep, -⟩ | ⟨w, hw, rfl, hnew⟩
  · exact hkeep
  · obtain ⟨rfl, name, hn, hat⟩ := h.isAt w hw
    rw [hnew, hsame w hw, hat.value_eq hn.quote_notMem]

/-- **Writes never cancel out**: the text stays as it is only if each of them does. -/
theorem textAfter_eq_self_iff (h : Fit text ws) (hnd : (ws.map (·.site.index)).Nodup) :
    textAfter ws text = text ↔ ∀ w ∈ ws, w.value = w.site.value := by
  constructor
  · intro hsame w hw
    exact h.value_eq_of_textAfter_eq_self hnd hsame hw
  · intro hsame
    rw [h.textAfter_eq_joined, h.piecesAfter_eq_self hsame, Text.joined_pieces]

end Write.Fit

theorem Edit.isIdle_iff (e : Edit) :
    e.isIdle = true ↔ ∀ old new, e.outcome = .replaced old new → old = new := by
  rw [isIdle, outcome]
  cases e.site? with
  | none => simp
  | some s => simp

theorem Revision.isNoop_iff (r : Revision) :
    r.isNoop = true ↔ ∀ f old new, (f, .replaced old new) ∈ r.outcomes → old = new := by
  rw [isNoop, List.all_eq_true]
  constructor
  · intro h f old new hmem
    obtain ⟨e, he, heq⟩ := List.mem_map.1 hmem
    exact e.isIdle_iff.1 (h e he) old new (Prod.mk.inj heq).2
  · intro h e he
    refine e.isIdle_iff.2 fun old new ho => h e.field old new ?_
    exact List.mem_map.2 ⟨e, he, by rw [ho]⟩

namespace Stamp

theorem replaced_mem_outcomes_iff (S : Stamp) (text : Text) (old new : Text) :
    (∃ f, (f, .replaced old new) ∈ (S.revise text).outcomes) ↔
      ∃ w ∈ S.writes text, w.site.value = old ∧ w.value = new := by
  simp only [S.outcomes_revise, List.mem_map, Prod.mk.injEq, Edit.outcome_eq_replaced_iff,
    S.mem_writes_iff]
  constructor
  · rintro ⟨f, e, he, -, s, hs, hold, hnew⟩
    exact ⟨⟨s, e.value⟩, ⟨e, he, hs, rfl⟩, hold, hnew⟩
  · rintro ⟨w, ⟨e, he, hs, hv⟩, hold, hnew⟩
    exact ⟨e.field, e, he, rfl, w.site, hs, hold, hv.trans hnew⟩

/-- **A revision is idle exactly when the text stays as it is.** -/
theorem isNoop_iff_text_eq (S : Stamp) (text : Text) :
    (S.revise text).isNoop = true ↔ (S.revise text).text = text := by
  have hwrites := (S.fit_writes text).textAfter_eq_self_iff (S.nodup_index_writes text)
  rw [S.text_revise, hwrites, Revision.isNoop_iff]
  constructor
  · intro h w hw
    obtain ⟨f, hmem⟩ :=
      (S.replaced_mem_outcomes_iff text w.site.value w.value).2 ⟨w, hw, rfl, rfl⟩
    exact (h f _ _ hmem).symm
  · intro h f old new hmem
    obtain ⟨w, hw, rfl, rfl⟩ := (S.replaced_mem_outcomes_iff text old new).1 ⟨f, hmem⟩
    exact (h w hw).symm

end Stamp

/-! ## What is said of it -/

theorem Stamp.idleNotice_revise (S : Stamp) (text : Text) (colour : Bool) :
    (S.revise text).idleNotice colour =
      if (S.revise text).text = text then
        '\n' :: Style.yellow.paint colour "No changes needed".toList ++ ['\n']
      else [] := by
  rw [Revision.idleNotice]
  exact if_congr (S.isNoop_iff_text_eq text) rfl rfl

namespace Job

/-- **Nothing is to be changed, and an update says so, exactly when nothing is changed.**  What it
prints of a text is known in full, and the line stands there, after what is told of the fields, if
the text stays as it is.  An update that is refused, or whose manifest cannot be read, does not
print it. -/
theorem nothingToChange_iff :
    (∀ (S : Stamp) (text : Text),
      (S.revise text).isNoop = true ↔ (S.revise text).text = text) ∧
    ∀ (job : Job) (tree : Tree) (colour : Bool),
      let a := (job.runOn tree).1
      (∀ o, Stamp.ofRequest job.request = .error o → a.stdout colour = []) ∧
      ∀ S, Stamp.ofRequest job.request = .ok S →
        (∀ cause, tree.read job.path = .error cause →
          a.stdout colour = "Updating: ".toList ++ job.path ++ ['\n']) ∧
        ∀ text, tree.read job.path = .ok text →
          let r := S.revise text
          a.stdout colour =
            "Updating: ".toList ++ job.path ++ ['\n'] ++ r.lines colour S.entries ++
              (if r.text = text then
                '\n' :: Style.yellow.paint colour "No changes needed".toList ++ ['\n']
              else []) ++
              job.endLines colour (r.changes S.entries).length a.result := by
  refine ⟨Stamp.isNoop_iff_text_eq, fun job tree colour => ?_⟩
  intro a
  refine ⟨fun o ho => stdout_of_objection colour ho, fun S hS => ?_⟩
  refine ⟨fun cause hr => stdout_of_unread colour hS hr, fun text hr => ?_⟩
  intro r
  rw [← S.idleNotice_revise]
  exact stdout_of_text colour hS hr

/-- A value that the text holds already, beside a field that it does not declare, and a value that
it does not hold; a request that is refused, and a path that no file can have. -/
theorem nothingToChange_iff_tag :
    let text := "let tag = \"1.2.3\"".toList
    let tree : Tree := ⟨.superuser, [([defaultPath], .file 0o644 (Text.encode text))], []⟩
    let same : Request := ⟨some "ab".toList, some "1.2.3".toList⟩
    let other : Request := ⟨none, some "1.2.4".toList⟩
    let bad : Request := ⟨none, some "1.2".toList⟩
    (Job.runOn ⟨same, defaultPath, true⟩ tree).1.stdout false =
      "Updating: Package.swift\nSetting checksum: ab\nSetting tag: 1.2.3\n".toList ++
        "  Changed from: 1.2.3\n  Changed to:   1.2.3\n\nNo changes needed\n".toList ++
          "\nDRY RUN - No changes will be made (1 declaration(s) matched)\n".toList ∧
      (Job.runOn ⟨other, defaultPath, true⟩ tree).1.stdout false =
        "Updating: Package.swift\nSetting tag: 1.2.4\n".toList ++
          "  Changed from: 1.2.3\n  Changed to:   1.2.4\n".toList ++
            "\nDRY RUN - No changes will be made (1 declaration(s) matched)\n".toList ∧
      (Job.runOn ⟨bad, defaultPath, true⟩ tree).1.stdout false = [] ∧
      (Job.runOn ⟨other, "\x00".toList, true⟩ tree).1.stdout false =
        "Updating: \x00\n".toList := by
  intro text tree same other bad
  let S : Stamp := ⟨same, by decide⟩
  let S' : Stamp := ⟨other, by decide⟩
  have hfind : tree.locate .find defaultPath =
      .ok (.file [defaultPath] 0o644 (Text.encode text)) := by
    refine (Tree.locate_eq_ok_iff ..).2 ⟨by decide, ?_⟩
    exact .file ⟨rfl, by decide, by decide, by decide, by decide⟩ rfl
  have hr : tree.read defaultPath = .ok text := by
    rw [Tree.read, hfind]
    decide
  have hunread : tree.read "\x00".toList = .error .nulInPath := by decide
  have hsays (r : Request) (path : Text) := nothingToChange_iff.2 ⟨r, path, true⟩ tree false
  obtain ⟨-, hsame⟩ := hsays same defaultPath
  obtain ⟨-, hother⟩ := hsays other defaultPath
  obtain ⟨hbad, -⟩ := hsays bad defaultPath
  obtain ⟨-, hgone⟩ := hsays other "\x00".toList
  refine ⟨((hsame S rfl).2 text hr).trans ?_, ((hother S' rfl).2 text hr).trans ?_,
    hbad _ rfl, ((hgone S' rfl).1 _ hunread).trans ?_⟩
  · rw [show (Job.runOn ⟨same, defaultPath, true⟩ tree).1.result = .ok () from
      congrArg (·.1.result) (runOn_of_dryRun (show Stamp.ofRequest same = .ok S from rfl) hr rfl)]
    decide +kernel
  · rw [show (Job.runOn ⟨other, defaultPath, true⟩ tree).1.result = .ok () from
      congrArg (·.1.result) (runOn_of_dryRun (show Stamp.ofRequest other = .ok S' from rfl) hr rfl)]
    decide +kernel
  · decide

end Job
end ReleaseStamp
