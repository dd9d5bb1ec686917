import ReleaseStamp.Files.Tree
/-!
# Finding the place that a path leads to

A path is walked name by name, links being followed as they are met: the names of the link's target
are walked in the place of the link's own.  The walk ends because each link it follows is counted
and each other step uses up a name.

Each name is looked up in a directory that the user must be allowed to search; going up and staying
are names too, and only what stands between two slashes next to each other is not.

Creating asks for a little more than finding.  The last name may be missing from its directory, and
the place is then vacant, if the directory may be changed; and a slash after the last name asks for
a directory, which creating does not make, so the walk is refused there before the name is looked
up.
-/
namespace ReleaseStamp.Files

/-- What a path is walked for. -/
inductive Purpose where
  | find
  | create
  deriving DecidableEq

inductive Place where
  | file (location : Location) (mode : Mode) (content : ByteArray)
  | directory (location : Location)
  | vacant (location : Location)

/-- The links that one walk may follow. -/
def maxLinks : Nat := 40

namespace Tree

/-- Where a path starts that is met in a directory. -/
def startOf (path : Text) (dir : Location) : Location := if Path.isAbsolute path then [] else dir

def walk (t : Tree) (purpose : Purpose) (links : Nat) (dir : Location) (names : List Text) :
    Except Cause Place :=
  match names with
  | [] => .ok (.directory dir)
  | name :: rest =>
    if name ≠ [] ∧ !t.user.maySearch (t.modeOf dir) then .error .permissionDenied
    else if Path.isHere name then t.walk purpose links dir rest
    else if Path.isParent name then t.walk purpose links dir.tail rest
    else if purpose = .create ∧ rest ≠ [] ∧ rest.all List.isEmpty then .error .isADirectory
    else if Path.maxName < Text.byteLength name then .error .nameTooLong
    else
      match t.get? (name :: dir) with
      | none =>
        if purpose = .find ∨ rest ≠ [] then .error .noSuchEntry
        else if t.user.mayChange (t.modeOf dir) then .ok (.vacant (name :: dir))
        else .error .permissionDenied
      | some (.file mode content) =>
        if rest = [] then .ok (.file (name :: dir) mode content) else .error .notADirectory
      | some (.directory _) => t.walk purpose links (name :: dir) rest
      | some (.link target) =>
        match links with
        | 0 => .error .tooManyLinks
        | links + 1 => t.walk purpose links (startOf target dir) (Path.names target ++ rest)
termination_by (links, names.length)

def locate (t : Tree) (purpose : Purpose) (path : Text) : Except Cause Place :=
  match Path.fault? path with
  | some cause => .error cause
  | none => t.walk purpose maxLinks (startOf path t.home) (Path.names path)

end Tree
end ReleaseStamp.Files
