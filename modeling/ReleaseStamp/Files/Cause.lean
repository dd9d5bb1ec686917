import ReleaseStamp.Text.Basic
/-!
# Why a file cannot be used

Most causes are the file system's own and carry its number and text.  Three are found before a file
system is asked or after it has answered.
-/
namespace ReleaseStamp.Files

structure SystemError where
  code : Nat
  text : Text
  deriving DecidableEq

namespace SystemError

def noSuchEntry : SystemError := ⟨2, "No such file or directory".toList⟩

def notPermitted : SystemError := ⟨1, "Operation not permitted".toList⟩

def permissionDenied : SystemError := ⟨13, "Permission denied".toList⟩

def alreadyExists : SystemError := ⟨17, "File exists".toList⟩

def notADirectory : SystemError := ⟨20, "Not a directory".toList⟩

def isADirectory : SystemError := ⟨21, "Is a directory".toList⟩

def nameTooLong : SystemError := ⟨36, "File name too long".toList⟩

def tooManyLinks : SystemError := ⟨40, "Too many levels of symbolic links".toList⟩

/-- The errors that opening a file may end in. -/
def known : List SystemError :=
  [ notPermitted, noSuchEntry, ⟨5, "Input/output error".toList⟩,
    permissionDenied, notADirectory, isADirectory, ⟨22, "Invalid argument".toList⟩,
    ⟨26, "Text file busy".toList⟩, ⟨27, "File too large".toList⟩,
    ⟨28, "No space left on device".toList⟩, ⟨30, "Read-only file system".toList⟩, nameTooLong,
    tooManyLinks ]

/-- The error of a number, with the text given where the number is not a known one. -/
def ofCode (code : Nat) (text : Text) : SystemError :=
  (known.find? (·.code == code)).getD ⟨code, text⟩

end SystemError

inductive Cause where
  | system (error : SystemError)
  | nulInPath
  | notUtf8
  | readOnly
  deriving DecidableEq

namespace Cause

def message : Cause → Text
  | .system e => e.text ++ " (os error ".toList ++ Text.ofNat e.code ++ [')']
  | .nulInPath => "file name contained an unexpected NUL byte".toList
  | .notUtf8 => "stream did not contain valid UTF-8".toList
  | .readOnly => "file is read-only".toList

def noSuchEntry : Cause := .system .noSuchEntry

def notPermitted : Cause := .system .notPermitted

def permissionDenied : Cause := .system .permissionDenied

def alreadyExists : Cause := .system .alreadyExists

def notADirectory : Cause := .system .notADirectory

def isADirectory : Cause := .system .isADirectory

def nameTooLong : Cause := .system .nameTooLong

def tooManyLinks : Cause := .system .tooManyLinks

end Cause
end ReleaseStamp.Files
