import ReleaseStamp.CommandLine.Refusal
import ReleaseStamp.CommandLine.Usage
/-!
# The first line of a refusal

What is told first of a command line that is refused, word for word.  What is given of the command
line in it shows as a terminal would show it, so a message has the orders neither of its own
emphasis nor of an argument (`Refusal.headline_eq`), and an argument of plain characters stands in
it as it is (`Refusal.headline_eq_line`).
-/
namespace ReleaseStamp.CommandLine

open Terminal (isShown strip strip_eq_self Markup)

def Switch.shown : Switch → Text
  | .parameter .checksum => "--checksum <HEX>".toList
  | .parameter .tag => "--tag <TAG>".toList
  | .parameter .manifestPath => "--manifest-path <PATH>".toList
  | .flag .dryRun => "--dry-run".toList
  | .flag .help => "--help".toList
  | .flag .version => "--version".toList

theorem Switch.usage_eq (s : Switch) : s.usage = s.shown := by
  rcases s with p | f
  · cases p <;> decide
  · cases f <;> decide

theorem Switch.strip_usage (s : Switch) : strip s.usage = s.shown := by
  rw [s.usage_eq]
  rcases s with p | f
  · cases p <;> decide
  · cases f <;> decide

namespace Refusal

/-- What is wrong, where what is given of the command line is put by `put`. -/
def fault (put : Text → Text) : Refusal → Text
  | .unknownArgument arg => "unexpected argument '".toList ++ put arg ++ "' found".toList
  | .valueMissing p => "a value is required for '".toList ++ (Switch.parameter p).shown ++
      "' but none was supplied".toList
  | .repeated s => "the argument '".toList ++ s.shown ++ "' cannot be used multiple times".toList
  | .unexpectedValue f value => "unexpected value '".toList ++ put value ++ "' for '".toList ++
      (Switch.flag f).shown ++ "' found; no more were expected".toList

/-- What is told first. -/
def line (put : Text → Text) (r : Refusal) : Text := "error: ".toList ++ r.fault put

theorem isPlain_message (r : Refusal) : r.message.IsPlain := by
  refine .append (.append (Markup.isPlain_emphasised _ _) (Markup.isPlain_ofString (by decide))) ?_
  cases r with
  | unknownArgument arg =>
    exact .append (.append (Markup.isPlain_ofString (by decide)) (Markup.isPlain_emphasised _ _))
      (Markup.isPlain_ofString (by decide))
  | valueMissing p =>
    exact .append (.append (Markup.isPlain_ofString (by decide)) (Markup.isPlain_emphasised _ _))
      (Markup.isPlain_ofString (by decide))
  | repeated s =>
    exact .append (.append (Markup.isPlain_ofString (by decide)) (Markup.isPlain_emphasised _ _))
      (Markup.isPlain_ofString (by decide))
  | unexpectedValue f value =>
    exact .append (.append (.append (.append (Markup.isPlain_ofString (by decide))
      (Markup.isPlain_emphasised _ _)) (Markup.isPlain_ofString (by decide)))
        (Markup.isPlain_emphasised _ _)) (Markup.isPlain_ofString (by decide))

theorem shown_finding (r : Refusal) : r.finding.shown = r.fault strip := by
  cases r with
  | unknownArgument arg => exact Markup.shown_between (by decide) (by decide) .invalid arg
  | valueMissing p =>
    refine (Markup.shown_between (by decide) (by decide) .invalid _).trans ?_
    rw [Switch.strip_usage]
    rfl
  | repeated s =>
    refine (Markup.shown_between (by decide) (by decide) .invalid _).trans ?_
    rw [Switch.strip_usage]
    rfl
  | unexpectedValue f value =>
    refine (Markup.shown_append ..).trans ?_
    rw [Markup.shown_append, Markup.shown_between (by decide) (by decide), Markup.shown_emphasised,
      Markup.shown_ofString (by decide), Switch.strip_usage]
    rfl

theorem text_finding (r : Refusal) : r.finding.text = r.fault id := by
  cases r with
  | unknownArgument arg => exact Markup.text_between _ _ .invalid arg
  | valueMissing p =>
    refine (Markup.text_between _ _ .invalid _).trans ?_
    rw [Switch.usage_eq]
    rfl
  | repeated s =>
    refine (Markup.text_between _ _ .invalid _).trans ?_
    rw [Switch.usage_eq]
    rfl
  | unexpectedValue f value =>
    refine (Markup.text_append ..).trans ?_
    rw [Markup.text_append, Markup.text_between, Markup.text_emphasised, Markup.text_ofString,
      Switch.usage_eq]
    rfl

theorem text_message (r : Refusal) : r.message.text = r.line id := by
  have halarm : "error:".toList ++ " ".toList = "error: ".toList := by decide
  rw [message, Markup.text_append, Markup.text_append, Markup.text_emphasised,
    Markup.text_ofString, halarm, r.text_finding]
  rfl

/-- **What is told first of a refusal.** -/
theorem headline_eq (r : Refusal) : r.headline = Text.firstLine (r.line strip) := by
  have halarm : strip "error:".toList ++ " ".toList = "error: ".toList := by decide
  have hshown : r.message.shown = r.line strip := by
    rw [message, Markup.shown_append, Markup.shown_append, Markup.shown_emphasised,
      Markup.shown_ofString (by decide), halarm, r.shown_finding]
    rfl
  rw [headline, Markup.render_false r.isPlain_message, hshown]

/-- Plain characters are told as they are. -/
theorem headline_eq_line {r : Refusal} (h : ∀ c ∈ r.line id, isShown c = true ∧ c ≠ '\n') :
    r.headline = r.line id := by
  have hfault : ∀ c ∈ r.fault id, isShown c = true := fun c hc =>
    (h c (List.mem_append_right _ hc)).1
  have hput : r.fault strip = r.fault id := by
    cases r with
    | unknownArgument arg =>
      have harg : strip arg = arg := strip_eq_self fun c hc =>
        hfault c (List.mem_append_left _ (List.mem_append_right _ hc))
      exact congrArg (fun t => "unexpected argument '".toList ++ t ++ "' found".toList) harg
    | valueMissing p => rfl
    | repeated s => rfl
    | unexpectedValue f value =>
      have hvalue : strip value = value := strip_eq_self fun c hc =>
        hfault c (List.mem_append_left _ (List.mem_append_left _ (List.mem_append_left _
          (List.mem_append_right _ hc))))
      exact congrArg (fun t => "unexpected value '".toList ++ t ++ "' for '".toList ++
        (Switch.flag f).shown ++ "' found; no more were expected".toList) hvalue
  have hline : r.line strip = r.line id := congrArg ("error: ".toList ++ ·) hput
  rw [headline_eq, hline, Text.firstLine_eq_self fun hc => (h _ hc).2 rfl]

end Refusal

/-- The help on a terminal that does not tell its width. -/
def helpText : Text :=
  "Update the checksum and/or release tag declared in a package manifest\n".toList ++
    "\nUsage: manifest-bump [OPTIONS]\n\nOptions:\n".toList ++
    "      --checksum <HEX>        ".toList ++
      "New lowercase hexadecimal checksum of the release artifact\n".toList ++
    "      --tag <TAG>             New release tag (e.g. v0.1.0 or 0.1.0)\n".toList ++
    "      --manifest-path <PATH>  ".toList ++
      "Path to the manifest to update [default: Package.swift]\n".toList ++
    "  -n, --dry-run               Show what would change without writing the manifest\n".toList ++
    "  -h, --help                  Print help\n".toList ++
    "  -V, --version               Print version\n".toList

theorem text_help : (help defaultWidth).text = helpText := by decide +kernel

theorem isShown_helpText : ∀ c ∈ helpText, isShown c = true :=
  List.all_eq_true.1 (by decide +kernel)

theorem render_help : (help defaultWidth).render false = helpText := by
  rw [Markup.render_false_of_isShown (text_help ▸ isShown_helpText), text_help]

end ReleaseStamp.CommandLine
