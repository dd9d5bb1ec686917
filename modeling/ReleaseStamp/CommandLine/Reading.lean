import ReleaseStamp.Job
import ReleaseStamp.CommandLine.Token
import ReleaseStamp.CommandLine.Refusal
/-!
# Reading a command line

Arguments are read from the left, and the first that cannot be read ends the reading.  A parameter
is pending until it is known what follows it: a word becomes its value, a further switch or the end
of the line settles it.  Only when it is settled is a value that is missing, or a parameter
given twice, found out, so an argument that cannot be read at all is told first even where it
stands later.
-/
namespace ReleaseStamp.CommandLine

/-- What ends the reading before the line does. -/
inductive Halt where
  | help
  | version
  | refused (r : Refusal)
  deriving DecidableEq

/-- What has been asked for and settled. -/
structure Settings where
  checksum : Option Text
  tag : Option Text
  manifestPath : Option Text
  dryRun : Bool
  deriving DecidableEq

namespace Settings

def empty : Settings := ⟨none, none, none, false⟩

def get? (s : Settings) : Parameter → Option Text
  | .checksum => s.checksum
  | .tag => s.tag
  | .manifestPath => s.manifestPath

def set (s : Settings) (value : Text) : Parameter → Settings
  | .checksum => { s with checksum := some value }
  | .tag => { s with tag := some value }
  | .manifestPath => { s with manifestPath := some value }

def job (s : Settings) : Job :=
  ⟨⟨s.checksum, s.tag⟩, s.manifestPath.getD Job.defaultPath, s.dryRun⟩

/-- Gives a parameter its value.  A path is never empty. -/
def give (s : Settings) (p : Parameter) (value : Text) : Except Halt Settings :=
  if (s.get? p).isSome then .error (.refused (.repeated (.parameter p)))
  else if p = .manifestPath ∧ value = [] then .error (.refused (.valueMissing p))
  else .ok (s.set value p)

def raise (s : Settings) : Flag → Except Halt Settings
  | .help => .error .help
  | .version => .error .version
  | .dryRun =>
    if s.dryRun then .error (.refused (.repeated (.flag .dryRun)))
    else .ok { s with dryRun := true }

end Settings

/-- A parameter that has been named, with its value if that has been met. -/
structure Pending where
  parameter : Parameter
  value? : Option Text
  deriving DecidableEq

structure State where
  settings : Settings
  pending? : Option Pending
  deriving DecidableEq

namespace State

def start : State := ⟨.empty, none⟩

def settle (s : State) : Except Halt Settings :=
  match s.pending? with
  | none => .ok s.settings
  | some ⟨p, none⟩ => .error (.refused (.valueMissing p))
  | some ⟨p, some value⟩ => s.settings.give p value

/-- Names a parameter whose value may follow. -/
def hold (s : State) (p : Parameter) : Except Halt State := do
  let settled ← s.settle
  return ⟨settled, some ⟨p, none⟩⟩

def give (s : State) (p : Parameter) (value : Text) : Except Halt State := do
  let settled ← s.settle
  let given ← settled.give p value
  return ⟨given, none⟩

def raise (s : State) (f : Flag) : Except Halt State := do
  let settled ← s.settle
  let raised ← settled.raise f
  return ⟨raised, none⟩

def raiseLetters (s : State) : List Char → Except Halt State
  | [] => .ok s
  | c :: letters =>
    match Flag.ofLetter? c with
    | none => .error (.refused (.unknownArgument ['-', c]))
    | some f => (s.raise f).bind (raiseLetters · letters)

/-- Takes in an argument.  One that cannot be read is refused whatever is pending. -/
def read (s : State) : Token → Except Halt State
  | .escape => .ok s
  | .long name value? =>
    match Switch.ofName? name, value? with
    | none, _ => .error (.refused (.unknownArgument ('-' :: '-' :: name)))
    | some (.parameter p), none => s.hold p
    | some (.parameter p), some value => s.give p value
    | some (.flag f), none => s.raise f
    | some (.flag f), some value => .error (.refused (.unexpectedValue f value))
  | .cluster c letters => s.raiseLetters (c :: letters)
  | .word t =>
    match s.pending? with
    | some ⟨p, none⟩ => .ok { s with pending? := some ⟨p, some t⟩ }
    | _ => .error (.refused (.unknownArgument t))

/-- Takes in all arguments.  Nothing may follow an escape. -/
def readAll (s : State) : List Text → Except Halt Settings
  | [] => s.settle
  | arg :: args =>
    match Token.ofArgument arg, args with
    | .escape, next :: _ => .error (.refused (.unknownArgument next))
    | token, _ => (s.read token).bind (readAll · args)

end State

/-- What a command line asks for. -/
def read (args : List Text) : Except Halt Job := (State.start.readAll args).map Settings.job

end ReleaseStamp.CommandLine
