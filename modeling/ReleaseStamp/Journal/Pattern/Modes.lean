import ReleaseStamp.Journal.Pattern.Syntax
/-!
# Modes

How an expression is to be taken where it stands, as the flags before it tell.
-/
namespace ReleaseStamp.Journal.Pattern

structure Modes where
  ignoresCase : Bool
  multiLine : Bool
  dotAll : Bool
  swapsGreed : Bool
  /-- Whether the pattern is one of characters.  If not, it is one of bytes, and characters beyond
  ASCII stand for their bytes. -/
  unicode : Bool
  returnEndsLine : Bool

namespace Modes

def start : Modes := ⟨false, false, false, false, true, false⟩

def set (m : Modes) : Flag × Bool → Modes
  | (.ignoreCase, on) => { m with ignoresCase := on }
  | (.multiLine, on) => { m with multiLine := on }
  | (.dotAll, on) => { m with dotAll := on }
  | (.swapGreed, on) => { m with swapsGreed := on }
  | (.unicode, on) => { m with unicode := on }
  | (.returnEndsLine, on) => { m with returnEndsLine := on }
  | (.loose, _) => m

def apply (m : Modes) (x : Setting) : Modes := x.foldl set m

end Modes
end ReleaseStamp.Journal.Pattern
