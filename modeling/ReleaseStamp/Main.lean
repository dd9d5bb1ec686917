import ReleaseStamp.Program
/-!
# The command

The program on the files, the environment and the streams of a machine.
-/
namespace ReleaseStamp.Machine

/-- The number of an error may be told with its sign turned. -/
def errorOfCode (code : UInt32) (text : String) : Files.SystemError :=
  .ofCode (min code.toNat (-code).toNat) text.toList

def systemError : IO.Error → Files.SystemError
  | .otherError code text | .resourceBusy code text | .resourceVanished code text
  | .unsupportedOperation code text | .hardwareFault code text
  | .unsatisfiedConstraints code text | .illegalOperation code text | .protocolError code text
  | .timeExpired code text | .interrupted _ code text | .noFileOrDirectory _ code text
  | .alreadyExists _ code text | .invalidArgument _ code text | .permissionDenied _ code text
  | .resourceExhausted _ code text | .inappropriateType _ code text
  | .noSuchThing _ code text => errorOfCode code text
  | .unexpectedEof => ⟨0, "unexpected end of file".toList⟩
  | .userError text => ⟨0, text.toList⟩

def onFile {α : Type} (path : Text) (action : String → IO α) : IO (Except Files.Cause α) := do
  if path.contains '\x00' then return .error .nulInPath
  try
    return .ok (← action (String.ofList path))
  catch e =>
    return .error (.system (systemError e))

/-- Why a file cannot be opened, if it cannot. -/
def refusal? (path : String) (mode : IO.FS.Mode) : IO (Option Files.SystemError) := do
  try
    let _ ← IO.FS.Handle.mk path mode
    return none
  catch e =>
    return some (systemError e)

/-- Whether a file can be read and must not be written.  Its permission bits cannot be asked for
here, so it is opened both ways, which leaves it as it is; a superuser is refused nothing so. -/
def isReadOnly (path : String) : IO Bool := do
  if (← refusal? path .read).isSome then return false
  return (← refusal? path .readWrite) == some .permissionDenied

def manifests : Manifests IO where
  read path := do
    match ← onFile path (IO.FS.readBinFile ·) with
    | .error cause => return .error cause
    | .ok content =>
      match Text.decode? content with
      | some text => return .ok text
      | none => return .error .notUtf8
  write path text := do
    match ← onFile path isReadOnly with
    | .ok true => return .error .readOnly
    | _ => onFile path (IO.FS.writeBinFile · (Text.encode text))

def valueOf (name : String) : IO (Option Text) := do
  return (← IO.getEnv name).map String.toList

/-- How the program is used.  What may have been meant by an argument is not guessed. -/
def advice : Terminal.Markup :=
  .ofString "\n\n" ++ .emphasised .heading "Usage:".toList ++ .ofString " " ++
    .emphasised .literal CommandLine.program ++ .ofString " [OPTIONS]"

/-- The environment of the machine.  The width of a terminal cannot be asked for here, and neither
can the date: the journal has the time since the machine was started. -/
def environment : IO Environment := do
  let wishes := ⟨← valueOf "CLICOLOR", ← valueOf "CLICOLOR_FORCE", ← valueOf "NO_COLOR",
    ← valueOf "TERM", ← valueOf "CI"⟩
  let time := Text.ofNat (← IO.monoMsNow)
  return ⟨wishes, none, ← valueOf "COLUMNS", ← valueOf "RUST_LOG", ← valueOf "RUST_LOG_STYLE",
    ← (← IO.getStdout).isTty, ← (← IO.getStderr).isTty, fun _ => time, fun _ _ => advice⟩

end ReleaseStamp.Machine

def main (args : List String) : IO UInt32 := do
  let output ← ReleaseStamp.Program.run ReleaseStamp.Machine.manifests
    (← ReleaseStamp.Machine.environment) (args.map String.toList)
  (← IO.getStdout).putStr (String.ofList output.stdout)
  (← IO.getStderr).putStr (String.ofList output.stderr)
  return output.exitCode.toUInt32
