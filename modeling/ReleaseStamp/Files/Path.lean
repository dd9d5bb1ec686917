import ReleaseStamp.Files.Cause
/-!
# Paths

A path is text; slashes part the names in it.  An empty name, as between two slashes or after the
last one, stands for the directory reached so far, and so does a dot.
-/
namespace ReleaseStamp.Files.Path

def names (path : Text) : List Text := path.splitOn '/'

def isAbsolute (path : Text) : Bool := path.head? == some '/'

def isHere (name : Text) : Bool := name == [] || name == ['.']

def isParent (name : Text) : Bool := name == ['.', '.']

/-- The bytes that a path may have, its end mark among them. -/
def maxLength : Nat := 4096

/-- The bytes that a name in a directory may have. -/
def maxName : Nat := 255

/-- What is wrong with the path whatever there is in the file system. -/
def fault? (path : Text) : Option Cause :=
  if path.contains '\x00' then some .nulInPath
  else if path = [] then some .noSuchEntry
  else if maxLength ≤ Text.byteLength path then some .nameTooLong
  else none

/-- The last name of the path, if it names something and does not just go up. -/
def fileName? (path : Text) : Option Text :=
  ((names path).reverse.find? (!isHere ·)).filter (!isParent ·)

end ReleaseStamp.Files.Path
