import ReleaseStamp.CommandLine.Reading
import ReleaseStamp.Environment
import ReleaseStamp.Update
/-!
# The program

A run of the program complains of what it cannot read of its environment, reads its command line and
then either tells what it cannot do or carries out the job.  It ends with 0 when it did as it was
told, with 1 when the update failed and with 2 when the command line was refused.
-/
namespace ReleaseStamp

/-- What a run leaves behind besides the files. -/
structure Output where
  exitCode : Nat
  stdout : Text
  stderr : Text
  deriving DecidableEq

namespace Output

def ofHalt (env : Environment) (args : List Text) : CommandLine.Halt → Output
  | .help =>
    ⟨0, (CommandLine.help env.width).written (env.wishes.colourUsage env.stdoutIsTerminal), []⟩
  | .version => ⟨0, CommandLine.versionText, []⟩
  | .refused r =>
    let report := r.report (env.advice args r)
    ⟨2, [], report.written (env.wishes.colourUsage env.stderrIsTerminal)⟩

/-- What is journalled comes before the warnings, but for the writing, which comes after them.  A
failure is told last. -/
def ofAccount (env : Environment) (a : Account) : Output :=
  let colour := env.wishes.colourReport env.stdoutIsTerminal
  let (late, early) := a.events.zipIdx.partition (·.1.isWriting)
  let stderr := env.entries early ++ Notice.renderAll colour a.warnings ++ env.entries late
  let stdout := Notice.renderAll colour a.notices
  match a.result with
  | .ok () => ⟨0, stdout, stderr⟩
  | .error f => ⟨1, stdout, stderr ++ "Error: ".toList ++ f.message ++ ['\n']⟩

/-- Says something on the error stream before all else. -/
def after (said : Text) (o : Output) : Output := { o with stderr := said ++ o.stderr }

end Output

namespace Program

/-- Whether a program can be given these arguments and values of variables at all: the character
that ends each of them cannot be in one. -/
def canBeGiven (texts : List Text) : Bool := texts.all fun t => !t.contains '\x00'

def run {m : Type → Type} [Monad m] (manifests : Manifests m) (env : Environment)
    (args : List Text) : m Output :=
  match CommandLine.read args with
  | .error halt => pure ((Output.ofHalt env args halt).after env.complaints)
  | .ok job => do return (Output.ofAccount env (← job.run manifests)).after env.complaints

/-- Runs the program on a file tree. -/
def runOn (env : Environment) (args : List Text) (tree : Files.Tree) : Output × Files.Tree :=
  run Files.Tree.manifests env args tree

theorem runOn_eq (env : Environment) (args : List Text) (tree : Files.Tree) :
    runOn env args tree =
      match CommandLine.read args with
      | .error halt => ((Output.ofHalt env args halt).after env.complaints, tree)
      | .ok job =>
        ((Output.ofAccount env (job.runOn tree).1).after env.complaints, (job.runOn tree).2) := by
  unfold runOn run
  cases CommandLine.read args <;> rfl

end Program
end ReleaseStamp
