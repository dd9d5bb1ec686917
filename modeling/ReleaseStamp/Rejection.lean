import ReleaseStamp.Text.Basic
/-!
# Rejections

The rules that a value can break, each told to the user in the same words wherever it comes up.
-/
namespace ReleaseStamp

inductive Rejection where
  | notAlphanumeric
  | notLowercase
  | notHexadecimal
  | containsWhitespace
  | malformedTag
  deriving DecidableEq, Repr

def Rejection.message : Rejection → Text
  | .notAlphanumeric => "must be alphanumeric".toList
  | .notLowercase => "must be lowercase".toList
  | .notHexadecimal => "must be hexadecimal".toList
  | .containsWhitespace => "must not contain any whitespace".toList
  | .malformedTag => "must adhere to x.x.x or vx.x.x major/minor/patch format".toList

end ReleaseStamp
