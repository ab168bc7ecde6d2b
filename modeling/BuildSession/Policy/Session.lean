import BuildSession.Policy.Checksum
import BuildSession.Policy.ErrorCache
import BuildSession.Policy.Update

/-!
# The policies of a session

`updateFor` and `errorsFor` turn the switches of a build into policies. When a build both forbids
and asks for snapshot updates, they are forbidden.
-/

namespace BuildSession

/-- What holds for everything a session does. -/
structure SessionPolicies where
  offline : Bool
  checksum : Option ChecksumPolicy
  update : Option UpdatePolicy
  errors : ResolutionErrorPolicy
  deriving DecidableEq

namespace SessionPolicies

/-- The update policy of the switches against and for snapshot updates. -/
def updateFor (noSnapshotUpdates updateSnapshots : Bool) : Option UpdatePolicy :=
  if noSnapshotUpdates then some .never
  else if updateSnapshots then some .always
  else none

/-- The error policy of the switches for remembering absence and failed transfers. -/
def errorsFor (cacheNotFound cacheTransferError : Bool) : ResolutionErrorPolicy :=
  let p : CachePolicy := .disabled
  let p := if cacheNotFound then p.union .notFound else p
  let p := if cacheTransferError then p.union .transferError else p
  .of p

def toJson (p : SessionPolicies) : Json :=
  .object [
    ("offline", .bool p.offline),
    ("checksum_policy", .ofOption ChecksumPolicy.toJson p.checksum),
    ("update_policy", .ofOption UpdatePolicy.toJson p.update),
    ("resolution_error_policy", p.errors.toJson)]

def shown (p : SessionPolicies) : Shown :=
  .record "SessionPolicies" [
    ("offline", .bool p.offline),
    ("checksum_policy", .option ChecksumPolicy.shown p.checksum),
    ("update_policy", .option UpdatePolicy.shown p.update),
    ("resolution_error_policy", p.errors.shown)] false

end SessionPolicies

end BuildSession
