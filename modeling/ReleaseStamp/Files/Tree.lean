import ReleaseStamp.Files.Path
/-!
# File trees

A file tree gives an entry to each location that has one.  A location is the names on the way to it
from the root, innermost first, so that its parent is its tail; the root itself is always a
directory.  `get?_set` says that setting an entry changes what is found at its location alone.

A tree has one user.  The superuser may do everything that can be done; anybody else owns the
directory to work in with all below it and is bound by the owner's permission bits.
-/
namespace ReleaseStamp.Files

abbrev Location := List Text

/-- Permission bits. -/
abbrev Mode := Nat

namespace Mode

/-- The bits of a file that is created by being written. -/
def newFile : Mode := 0o644

def newDirectory : Mode := 0o755

def isReadOnly (m : Mode) : Bool := m &&& 0o222 == 0

end Mode

inductive User where
  | superuser
  | owner
  deriving DecidableEq

namespace User

def mayRead (u : User) (m : Mode) : Bool := u = .superuser || m &&& 0o400 != 0

def mayWrite (u : User) (m : Mode) : Bool := u = .superuser || m &&& 0o200 != 0

/-- Whether the user may look names up in a directory with these bits. -/
def maySearch (u : User) (m : Mode) : Bool := u = .superuser || m &&& 0o100 != 0

/-- Whether the user may add names to a directory with these bits and take names away. -/
def mayChange (u : User) (m : Mode) : Bool := u.maySearch m && u.mayWrite m

end User

inductive Entry where
  | file (mode : Mode) (content : ByteArray)
  | directory (mode : Mode)
  /-- The target is a path, read from the directory that holds the link. -/
  | link (target : Text)

namespace Entry

/-- A link has no bits of its own. -/
def isReadOnly : Entry → Bool
  | .file mode _ => mode.isReadOnly
  | .directory mode => mode.isReadOnly
  | .link _ => false

def withMode (mode : Mode) : Entry → Entry
  | .file _ content => .file mode content
  | .directory _ => .directory mode
  | .link target => .link target

end Entry

structure Tree where
  user : User
  entries : List (Location × Entry)
  /-- Where relative paths start. -/
  home : Location

namespace Tree

def get? (t : Tree) (l : Location) : Option Entry := t.entries.lookup l

/-- The bits of the directory at a location.  The root is there for all to see and not to change. -/
def modeOf (t : Tree) (l : Location) : Mode :=
  match t.get? l with
  | some (.directory mode) => mode
  | _ => 0o555

def setIn (l : Location) (e : Entry) : List (Location × Entry) → List (Location × Entry)
  | [] => [(l, e)]
  | (k, x) :: entries => if k = l then (l, e) :: entries else (k, x) :: setIn l e entries

def set (t : Tree) (l : Location) (e : Entry) : Tree := { t with entries := setIn l e t.entries }

theorem lookup_setIn (l : Location) (e : Entry) (m : Location) :
    ∀ entries : List (Location × Entry),
      (setIn l e entries).lookup m = if m = l then some e else entries.lookup m
  | [] => by
    by_cases h : m = l
    · subst h; simp [setIn]
    · simp [setIn, List.lookup_cons, h, beq_false_of_ne h]
  | (k, x) :: entries => by
    have ih := lookup_setIn l e m entries
    by_cases hk : k = l
    · subst hk
      by_cases h : m = k
      · subst h; simp [setIn]
      · simp [setIn, List.lookup_cons, h, beq_false_of_ne h]
    · by_cases h : m = k
      · subst h; simp [setIn, hk]
      · simp [setIn, hk, List.lookup_cons, beq_false_of_ne h, ih]

theorem get?_set (t : Tree) (l : Location) (e : Entry) (m : Location) :
    (t.set l e).get? m = if m = l then some e else t.get? m :=
  lookup_setIn l e m t.entries

@[simp] theorem user_set (t : Tree) (l : Location) (e : Entry) : (t.set l e).user = t.user := rfl

end Tree
end ReleaseStamp.Files
