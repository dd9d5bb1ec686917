import ReleaseStamp.Files.Access
/-!
# Arranging a file tree

The ways to bring a tree into a given state, and to see what state it is in.  Each of them may fail
as it may on any file system.  The last name of a path that is made or removed is not followed if it
is a link; the path of a file that is put in place, or of which the bits are set, is followed to its
end.
-/
namespace ReleaseStamp.Files

def Place.location : Place → Location
  | .file l _ _ => l
  | .directory l => l
  | .vacant l => l

namespace Tree

def fresh (user : User) : Tree :=
  let tmp := ["tmp".toList]
  let home := "work".toList :: tmp
  ⟨user, [(tmp, .directory Mode.newDirectory), (home, .directory Mode.newDirectory)], home⟩

/-- The location that a path names in the directory above its last name. -/
def locationOf (t : Tree) (path : Text) : Except Cause Location :=
  match Path.fault? path, Path.fileName? path with
  | some cause, _ => .error cause
  | none, none => .error .noSuchEntry
  | none, some name =>
    let above := ((Path.names path).filter (!Path.isHere ·)).dropLast
    match t.walk .find maxLinks (startOf path t.home) above with
    | .error cause => .error cause
    | .ok (.directory dir) =>
      if !t.user.maySearch (t.modeOf dir) then .error .permissionDenied
      else if Path.maxName < Text.byteLength name then .error .nameTooLong
      else .ok (name :: dir)
    | .ok _ => .error .notADirectory

/-- Sets an entry where there is none. -/
def make (t : Tree) (path : Text) (e : Entry) : Except Cause Tree := do
  let l ← t.locationOf path
  if (t.get? l).isSome then throw .alreadyExists
  if !t.user.mayChange (t.modeOf l.tail) then throw .permissionDenied
  return t.set l e

/-- Sees to it that a path leads to a directory. -/
def makeDirectory (t : Tree) (path : Text) : Except Cause Tree :=
  match t.locate .find path with
  | .ok (.directory _) => .ok t
  | _ => t.make path (.directory Mode.newDirectory)

/-- Sees to it that the names of a path lead from directory to directory, outermost first. -/
def makeDirectories (t : Tree) (above : Text) : List Text → Except Cause Tree
  | [] => .ok t
  | name :: names => do
    let made ← if name = [] then .ok t else t.makeDirectory (above ++ name)
    made.makeDirectories (above ++ name ++ ['/']) names

/-- Makes a directory and the directories above it. -/
def putDirectory (t : Tree) (path : Text) : Except Cause Tree :=
  t.makeDirectories [] (Path.names path)

/-- Makes a file and the directories above it, or gives a file that is there a new content. -/
def putFile (t : Tree) (path : Text) (content : ByteArray) : Except Cause Tree := do
  let made ← t.makeDirectories [] (Path.names path).dropLast
  made.store path content

def setMode (t : Tree) (path : Text) (mode : Mode) : Except Cause Tree := do
  let place ← t.locate .find path
  if t.user = .owner ∧ !t.home.isSuffixOf place.location then throw .notPermitted
  match t.get? place.location with
  | some e => return t.set place.location (e.withMode mode)
  | none => throw .noSuchEntry

/-- The entries below a location, by their locations. -/
def below (t : Tree) (l : Location) : List (Location × Entry) :=
  t.entries.filter fun (k, _) => l.isSuffixOf k && k != l

/-- Whether the user may take away everything below a location. -/
def mayEmpty (t : Tree) (l : Location) : Bool :=
  (t.below l).all fun (k, _) =>
    t.user.mayRead (t.modeOf k.tail) && t.user.mayChange (t.modeOf k.tail)

/-- Takes an entry away, and all entries below it. -/
def remove (t : Tree) (path : Text) : Except Cause Tree := do
  let l ← t.locationOf path
  if (t.get? l).isNone then throw .noSuchEntry
  if !(t.user.mayChange (t.modeOf l.tail) && t.mayEmpty l) then throw .permissionDenied
  return { t with entries := t.entries.filter fun (k, _) => !l.isSuffixOf k }

/-- Whether the user may see an entry: what a file holds, which names a directory holds, and where a
link leads. -/
def mayShow (t : Tree) (l : Location) (e : Entry) : Bool :=
  t.user.maySearch (t.modeOf l.tail) &&
    match e with
    | .file mode _ => t.user.mayRead mode
    | .directory mode => t.user.mayRead mode
    | .link _ => true

/-- The entries below the directory to work in, by their paths from there, if all can be seen. -/
def listing (t : Tree) : Except Cause (List (Text × Entry)) :=
  if t.user.mayRead (t.modeOf t.home) && (t.below t.home).all fun (l, e) => t.mayShow l e then
    .ok ((t.below t.home).map fun (l, e) =>
      (['/'].intercalate (l.take (l.length - t.home.length)).reverse, e))
  else .error .permissionDenied

end Tree
end ReleaseStamp.Files
