import ReleaseStamp.CommandLine.Switch
import ReleaseStamp.Terminal.Markup
import ReleaseStamp.Text.Line
/-!
# Why a command line is refused

A message may be longer than a line, since an argument may itself hold line ends; its first line is
the headline.
-/
namespace ReleaseStamp.CommandLine

open Terminal (Markup)

inductive Refusal where
  | unknownArgument (arg : Text)
  | valueMissing (p : Parameter)
  | repeated (s : Switch)
  | unexpectedValue (f : Flag) (value : Text)
  deriving DecidableEq

namespace Refusal

/-- What is wrong, after the alarm. -/
def finding : Refusal → Markup
  | .unknownArgument arg =>
    .ofString "unexpected argument '" ++ .emphasised .invalid arg ++ .ofString "' found"
  | .valueMissing p =>
    .ofString "a value is required for '" ++ .emphasised .invalid (Switch.parameter p).usage ++
      .ofString "' but none was supplied"
  | .repeated s =>
    .ofString "the argument '" ++ .emphasised .invalid s.usage ++
      .ofString "' cannot be used multiple times"
  | .unexpectedValue f value =>
    .ofString "unexpected value '" ++ .emphasised .invalid value ++ .ofString "' for '" ++
      .emphasised .literal (Switch.flag f).usage ++ .ofString "' found; no more were expected"

def message (r : Refusal) : Markup :=
  .emphasised .alarm "error:".toList ++ .ofString " " ++ r.finding

/-- The first line of the message as it is shown without colour. -/
def headline (r : Refusal) : Text := Text.firstLine (r.message.render false)

/-- What the user is told, with some advice. -/
def report (r : Refusal) (advice : Markup) : Markup :=
  r.message ++ advice ++ .ofString "\n\nFor more information, try '" ++
    .emphasised .literal (Switch.flag .help).usage ++ .ofString "'.\n"

end Refusal
end ReleaseStamp.CommandLine
