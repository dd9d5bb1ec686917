import ReleaseStamp.Text.Basic
/-!
# Switches

What can be asked for on the command line: parameters, which take a value, and flags, which take
none.  Both have a long name; a flag may have a letter as well.
-/
namespace ReleaseStamp.CommandLine

inductive Parameter where
  | checksum
  | tag
  | manifestPath
  deriving DecidableEq

inductive Flag where
  | dryRun
  | help
  | version
  deriving DecidableEq

inductive Switch where
  | parameter (p : Parameter)
  | flag (f : Flag)
  deriving DecidableEq

namespace Parameter

def all : List Parameter := [.checksum, .tag, .manifestPath]

def name : Parameter → Text
  | .checksum => "checksum".toList
  | .tag => "tag".toList
  | .manifestPath => "manifest-path".toList

/-- What its value is called in the usage. -/
def placeholder : Parameter → Text
  | .checksum => "HEX".toList
  | .tag => "TAG".toList
  | .manifestPath => "PATH".toList

end Parameter

namespace Flag

def all : List Flag := [.dryRun, .help, .version]

def name : Flag → Text
  | .dryRun => "dry-run".toList
  | .help => "help".toList
  | .version => "version".toList

def letter : Flag → Char
  | .dryRun => 'n'
  | .help => 'h'
  | .version => 'V'

def ofLetter? (c : Char) : Option Flag := all.find? (·.letter == c)

end Flag

namespace Switch

def all : List Switch := Parameter.all.map .parameter ++ Flag.all.map .flag

def name : Switch → Text
  | .parameter p => p.name
  | .flag f => f.name

/-- No name is cut short: a switch is found by the whole of it. -/
def ofName? (name : Text) : Option Switch := all.find? (·.name == name)

/-- The name as it is typed. -/
def longName (s : Switch) : Text := "--".toList ++ s.name

/-- What stands for the value, if there is one. -/
def placeholder : Switch → Text
  | .parameter p => " <".toList ++ p.placeholder ++ ['>']
  | .flag _ => []

def usage (s : Switch) : Text := s.longName ++ s.placeholder

theorem ofName?_eq_some_iff (name : Text) (s : Switch) :
    ofName? name = some s ↔ s.name = name := by
  constructor
  · intro h
    simpa using List.find?_some h
  · rintro rfl
    rcases s with p | f
    · cases p <;> decide
    · cases f <;> decide

end Switch

theorem Flag.ofLetter?_eq_some_iff (c : Char) (f : Flag) :
    Flag.ofLetter? c = some f ↔ f.letter = c := by
  constructor
  · intro h
    simpa using List.find?_some h
  · rintro rfl
    cases f <;> decide

end ReleaseStamp.CommandLine
