import ReleaseStamp.Event
/-!
# Manifests

A manifest is reached by its path.  How it is read and written is left open, so that the same
update runs on a file tree held in memory and on the files of a machine.
-/
namespace ReleaseStamp

/-- The two ways to use a manifest, in the setting `m`. -/
structure Manifests (m : Type → Type) where
  read (path : Text) : m (Except Files.Cause Text)
  write (path : Text) (text : Text) : m (Except Files.Cause Unit)

namespace Manifests

/-- The events of a reading that ended as given. -/
def readEvents (path : Text) : Except Files.Cause Text → List Event
  | .ok text => [.read path (Text.byteLength text)]
  | .error cause => [.unreadable path cause]

/-- The events of a writing that ended as given. -/
def writeEvents (path text : Text) : Except Files.Cause Unit → List Event
  | .ok () => [.wrote path (Text.byteLength text)]
  | .error _ => []

end Manifests
end ReleaseStamp
