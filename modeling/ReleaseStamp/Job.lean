import ReleaseStamp.Stamp
/-!
# Jobs

A job is one update as it is asked for: the values, the manifest, and whether to write it.
-/
namespace ReleaseStamp

structure Job where
  request : Request
  path : Text
  dryRun : Bool
  deriving DecidableEq

/-- The manifest of a job that names none. -/
def Job.defaultPath : Text := "Package.swift".toList

end ReleaseStamp
