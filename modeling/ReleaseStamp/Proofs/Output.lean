import ReleaseStamp.Program
import ReleaseStamp.Proofs.CommandLine.Headline
import ReleaseStamp.Proofs.Journal.Filter
import ReleaseStamp.Proofs.Update.Course
/-!
# What a run leaves on its streams

Where no colour is wanted and no directives are given on the journal, the streams of a run hold what
its command line or its update comes to, word for word.
-/
namespace ReleaseStamp

open CommandLine (Halt Refusal helpText)
open Terminal (isShown Markup)

/-- The lines of a message in the journal. -/
def Event.lines (e : Event) : Text :=
  e.message.flatMap fun c => if c = '\n' then "\n    ".toList else [c]

theorem Event.text_entry (time : Text) (e : Event) : (e.entry time).text =
    "[".toList ++ time ++ " DEBUG ".toList ++ e.part ++ "] ".toList ++ e.lines ++ "\n".toList := by
  have hlevel : " DEBUG ".toList = " ".toList ++ "DEBUG".toList ++ " ".toList := by decide
  have hbracket : "] ".toList = "]".toList ++ " ".toList := by decide
  rw [entry]
  simp only [Markup.text_append, Markup.text_emphasised, Markup.text_ofText, Markup.text_ofString]
  rw [hlevel, hbracket]
  simp only [List.append_assoc]
  rfl

theorem Event.written_entry {time : Text} {e : Event}
    (h : ∀ c ∈ time ++ e.message, isShown c = true) :
    (e.entry time).written false =
      "[".toList ++ time ++ " DEBUG ".toList ++ e.part ++ "] ".toList ++ e.lines ++
        "\n".toList := by
  obtain ⟨htime, hmessage⟩ := List.forall_mem_append.1 h
  have hpart : ∀ c ∈ e.part, isShown c = true := by
    refine List.all_eq_true.1 ?_
    cases e <;> rfl
  have hlines : ∀ c ∈ e.lines, isShown c = true := fun c hc => by
    obtain ⟨d, hd, hc⟩ := List.mem_flatMap.1 hc
    split at hc
    · exact List.all_eq_true.1 (by decide : "\n    ".toList.all isShown = true) c hc
    · exact List.mem_singleton.1 hc ▸ hmessage d hd
  have hshown : ∀ c ∈ (e.entry time).text, isShown c = true := by
    rw [e.text_entry]
    simp only [List.forall_mem_append]
    exact ⟨⟨⟨⟨⟨⟨List.all_eq_true.1 (by decide), htime⟩, List.all_eq_true.1 (by decide)⟩, hpart⟩,
      List.all_eq_true.1 (by decide)⟩, hlines⟩, List.all_eq_true.1 (by decide)⟩
  rw [Markup.written_false hshown, e.text_entry]

namespace Output

variable {env : Environment} {args : List Text}

theorem ofHalt_help (hcolour : env.wishes.colourUsage env.stdoutIsTerminal = false)
    (hwidth : env.width = CommandLine.defaultWidth) :
    ofHalt env args .help = ⟨0, helpText, []⟩ := by
  have hshown : ∀ c ∈ (CommandLine.help CommandLine.defaultWidth).text, isShown c = true :=
    CommandLine.text_help ▸ CommandLine.isShown_helpText
  rw [ofHalt, hcolour, hwidth, Markup.written_false hshown, CommandLine.text_help]

theorem ofHalt_version : ofHalt env args .version = ⟨0, "manifest-bump 0.1.0\n".toList, []⟩ := by
  have hversion : CommandLine.versionText = "manifest-bump 0.1.0\n".toList := by decide
  rw [ofHalt, hversion]

theorem ofHalt_refused {r : Refusal} (hcolour : env.wishes.colourUsage env.stderrIsTerminal = false)
    (h : ∀ c ∈ r.line id ++ (env.advice args r).text, isShown c = true) :
    ofHalt env args (.refused r) = ⟨2, [], r.line id ++ (env.advice args r).text ++
      "\n\nFor more information, try '--help'.\n".toList⟩ := by
  have htext : (r.report (env.advice args r)).text = r.line id ++ (env.advice args r).text ++
      "\n\nFor more information, try '--help'.\n".toList := by
    have hhint : "\n\nFor more information, try '".toList ++
        ((CommandLine.Switch.flag .help).usage ++ "'.\n".toList) =
        "\n\nFor more information, try '--help'.\n".toList := by decide
    rw [← hhint, Refusal.report]
    simp only [Markup.text_append, Markup.text_emphasised, Markup.text_ofString, r.text_message,
      List.append_assoc]
  have hshown : ∀ c ∈ (r.report (env.advice args r)).text, isShown c = true := by
    rw [htext]
    exact List.forall_mem_append.2 ⟨h, List.all_eq_true.1 (by decide)⟩
  rw [ofHalt, hcolour]
  simp only [Markup.written_false hshown, htext]

/-- **Without directives on the journal** a run says what its update tells, and how it failed. -/
theorem ofAccount_of_journal_none (h : env.journal = none) (a : Account) :
    let colour := env.wishes.colourReport env.stdoutIsTerminal
    ofAccount env a =
      match a.result with
      | .ok () => ⟨0, a.stdout colour, a.stderr colour⟩
      | .error f =>
        ⟨1, a.stdout colour, a.stderr colour ++ "Error: ".toList ++ f.message ++ ['\n']⟩ := by
  have hquiet : ∀ d ∈ env.filter.1.directives, d.level.wantsDebug = false := by
    simp [Environment.filter, h, Journal.Filter.standard, Journal.Level.wantsDebug]
  intro colour
  simp only [ofAccount, Environment.entries_eq_nil hquiet, List.nil_append, List.append_nil]
  rfl

end Output
end ReleaseStamp
