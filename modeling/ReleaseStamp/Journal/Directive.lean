import ReleaseStamp.Journal.Pattern.Basic
import ReleaseStamp.Journal.Pattern.Match
/-!
# Directives on the journal

Which events are wanted is told by directives with commas between them, and a pattern may follow
after a slash.  A directive names a level, a part of the program, or both with an equals sign in
between.  A directive that cannot be read is complained of and left out, and so is a pattern; with
two slashes nothing can be read at all.
-/
namespace ReleaseStamp.Journal

inductive Level where
  | off
  | error
  | warn
  | info
  | debug
  | trace
  deriving DecidableEq

namespace Level

def all : List Level := [.off, .error, .warn, .info, .debug, .trace]

def name : Level → Text
  | .off => "off".toList
  | .error => "error".toList
  | .warn => "warn".toList
  | .info => "info".toList
  | .debug => "debug".toList
  | .trace => "trace".toList

/-- A level may be written in letters of either case. -/
def ofText? (t : Text) : Option Level := all.find? (·.name == t.map Char.toLower)

/-- Whether what is only of interest in the search for a fault is wanted. -/
def wantsDebug : Level → Bool
  | .debug | .trace => true
  | _ => false

end Level

inductive Complaint where
  | slashes (directives : Text)
  | directive (t : Text)
  | pattern (t : Text) (objection : Pattern.Objection)
  deriving DecidableEq

def Complaint.message : Complaint → Text
  | .slashes directives =>
    "warning: invalid logging spec '".toList ++ directives ++
      "' (too many '/'s), ignoring it\n".toList
  | .directive t => "warning: invalid logging spec '".toList ++ t ++ "', ignoring it\n".toList
  | .pattern t objection =>
    "warning: invalid regex filter - ".toList ++ objection.message t ++ ", ignoring it\n".toList

/-- What is wanted of a part of the program, or of all of it. -/
structure Directive where
  part? : Option Text
  level : Level
  deriving DecidableEq

namespace Directive

/-- Reads a directive.  Without a level every event of the part is wanted. -/
def read (t : Text) : Except Complaint Directive :=
  match t.splitOn '=' with
  | [word] =>
    match Level.ofText? word with
    | some level => .ok ⟨none, level⟩
    | none => .ok ⟨some word, .trace⟩
  | [part, word] =>
    let word := Text.trim word
    match Level.ofText? word with
    | some level => .ok ⟨some part, level⟩
    | none => if word = [] then .ok ⟨some part, .trace⟩ else .error (.directive word)
  | _ => .error (.directive t)

/-- Whether the directive is about a part of the program. -/
def covers (d : Directive) (part : Text) : Bool := d.part?.all (·.isPrefixOf part)

/-- How much of a part the directive names. -/
def weight (d : Directive) : Nat := (d.part?.map Text.byteLength).getD 0

/-- Takes in a directive, in the place of one on the same part if there is one. -/
def insert (d : Directive) : List Directive → List Directive
  | [] => [d]
  | e :: ds => if e.part? = d.part? then d :: ds else e :: insert d ds

end Directive

/-- What is wanted of the journal. -/
structure Filter where
  directives : List Directive
  /-- What a message has to match. -/
  pattern? : Option Pattern.Meaning

namespace Filter

/-- What is wanted where nothing is told. -/
def standard : Filter := ⟨[⟨none, .warn⟩], none⟩

def readDirectives (t : Text) : List (Except Complaint Directive) :=
  (((t.splitOn ',').map Text.trim).filter (· ≠ [])).map Directive.read

/-- Reads what is wanted, and what cannot be read of it. -/
def read (t : Text) : Filter × List Complaint :=
  let take (readings : List (Except Complaint Directive)) : List Directive :=
    readings.foldl (fun ds r => match r with | .ok d => d.insert ds | .error _ => ds) []
  let refuse (readings : List (Except Complaint Directive)) : List Complaint :=
    readings.filterMap fun | .ok _ => none | .error c => some c
  match t.splitOn '/' with
  | [directives] => (⟨take (readDirectives directives), none⟩, refuse (readDirectives directives))
  | [directives, pattern] =>
    let readings := readDirectives directives
    match Pattern.compile pattern with
    | .ok m => (⟨take readings, some m⟩, refuse readings)
    | .error o => (⟨take readings, none⟩, refuse readings ++ [.pattern pattern o])
  | _ => (⟨[], none⟩, [.slashes t])

/-- The directive on a part of the program that names most of it, the last one of several. -/
def directive? (f : Filter) (part : Text) : Option Directive :=
  (f.directives.mergeSort fun d e => d.weight ≤ e.weight).reverse.find? (·.covers part)

/-- Whether a message of a part of the program is wanted that is only of interest in the search for
a fault.  Where there are no directives only errors are wanted. -/
def admits (f : Filter) (part message : Text) : Bool :=
  (f.directive? part).any (·.level.wantsDebug) && f.pattern?.all (·.isIn message)

end Filter
end ReleaseStamp.Journal
