import BuildSession.Artifact.Basic
import BuildSession.Instant
import BuildSession.Policy.Session
import BuildSession.Settings.Basic

/-!
# Build requests

What a build asks of its session: switches, properties, settings, repositories, and the
collaborators it brings along. A cache of any type may be brought; a session only passes it on.
-/

namespace BuildSession

/-- Finds artifacts among the projects that are being built. -/
structure WorkspaceReader where
  repositoryId : String
  findArtifact : Artifact → Option String
  findVersions : Artifact → List String

/-- What a build asks of its session; `γ` is the type of its cache. -/
structure BuildRequest (γ : Type) where
  localRepository : String
  startTime : Instant
  offline : Bool := false
  interactive : Bool := true
  checksumPolicy : Option ChecksumPolicy := none
  noSnapshotUpdates : Bool := false
  updateSnapshots : Bool := false
  cacheNotFound : Bool := false
  cacheTransferError : Bool := false
  useLegacyLocalRepository : Bool := false
  systemProperties : Dict String := .empty
  userProperties : Dict String := .empty
  mirrors : List Mirror := []
  proxies : List ProxySettings := []
  servers : List Server := []
  remoteRepositories : List RemoteRepository := []
  pluginRepositories : List RemoteRepository := []
  workspaceReader : Option WorkspaceReader := none
  /-- The name of whoever watches transfers. -/
  transferListener : Option String := none
  cache : Option γ := none

namespace BuildRequest

variable {γ : Type}

/-- The request with its settings replaced. -/
def withSettings (r : BuildRequest γ) (s : Settings) : BuildRequest γ :=
  { r with mirrors := s.mirrors, proxies := s.proxies, servers := s.servers }

def policies (r : BuildRequest γ) : SessionPolicies where
  offline := r.offline
  checksum := r.checksumPolicy
  update := SessionPolicies.updateFor r.noSnapshotUpdates r.updateSnapshots
  errors := SessionPolicies.errorsFor r.cacheNotFound r.cacheTransferError

def shown (r : BuildRequest γ) : Shown :=
  .record "BuildRequest" [
    ("offline", .bool r.offline),
    ("interactive", .bool r.interactive),
    ("checksum_policy", .option ChecksumPolicy.shown r.checksumPolicy),
    ("no_snapshot_updates", .bool r.noSnapshotUpdates),
    ("update_snapshots", .bool r.updateSnapshots),
    ("cache_not_found", .bool r.cacheNotFound),
    ("cache_transfer_error", .bool r.cacheTransferError),
    ("local_repository", .quoted r.localRepository),
    ("use_legacy_local_repository", .bool r.useLegacyLocalRepository),
    ("mirrors", .list (r.mirrors.map Mirror.shown)),
    ("proxies", .list (r.proxies.map ProxySettings.shown)),
    ("servers", .list (r.servers.map Server.shown)),
    ("remote_repositories", .list (RemoteRepository.shownAll r.remoteRepositories)),
    ("plugin_repositories", .list (RemoteRepository.shownAll r.pluginRepositories)),
    ("start_time", .plain r.startTime.text)] true

end BuildRequest

/-- The request that settings are applied to. -/
def Settings.applyTo {γ : Type} (s : Settings) (r : BuildRequest γ) : BuildRequest γ :=
  r.withSettings s

end BuildSession
