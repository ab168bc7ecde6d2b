import BuildSession.Artifact.Transformer
import BuildSession.Artifact.Type
import BuildSession.Event.Listener
import BuildSession.LocalManager
import BuildSession.Repository.Injection
import BuildSession.Session.Request

/-!
# Sessions

A session holds everything that resolving, installing and deploying artifacts needs to know. Its
summary says what it comes to without its secrets.
-/

namespace BuildSession

/-- Everything that the work with repositories needs to know; `γ` is the type of the cache. -/
structure RepositorySession (γ : Type) where
  policies : SessionPolicies
  artifactTypes : ArtifactTypeRegistry
  localRepository : LocalRepository
  resolution : ManagerResolution
  workspaceReader : Option WorkspaceReader
  mirrors : MirrorSelector
  proxies : ProxySelector
  authentication : AuthenticationSelector
  transferListener : Option String
  listener : Listener
  userProperties : Dict String
  systemProperties : Dict String
  config : ConfigProperties
  remoteRepositories : List RemoteRepository
  pluginRepositories : List RemoteRepository
  installTransformer : Option (Transformer InstallRequest)
  deployTransformer : Option (Transformer DeployRequest)
  cache : Option γ

structure RepositorySummary where
  id : String
  url : String
  layout : String
  blocked : Bool
  mirrorOf : List String
  proxy : Option String
  isAuthenticated : Bool
  deriving DecidableEq

namespace RepositorySummary

def of (r : RemoteRepository) : RepositorySummary where
  id := r.id
  url := r.url
  layout := r.layout
  blocked := r.blocked
  mirrorOf := r.mirrored.map (·.id)
  proxy := r.proxy.map Proxy.address
  isAuthenticated := r.authentication.isSome

def toJson (s : RepositorySummary) : Json :=
  .object [
    ("id", .string s.id),
    ("url", .string s.url),
    ("layout", .string s.layout),
    ("blocked", .bool s.blocked),
    ("mirror_of", .ofList .string s.mirrorOf),
    ("proxy", .ofOption .string s.proxy),
    ("authenticated", .bool s.isAuthenticated)]

end RepositorySummary

structure SessionSummary where
  policies : SessionPolicies
  localRepository : String
  managerKind : String
  isFallback : Bool
  workspaceReader : Option String
  artifactTypes : List String
  authenticatedServers : List String
  config : ConfigProperties
  remoteRepositories : List RepositorySummary
  pluginRepositories : List RepositorySummary
  transformers : List String

namespace SessionSummary

def toJson (s : SessionSummary) : Json :=
  .object [
    ("policies", s.policies.toJson),
    ("local_repository", .string s.localRepository),
    ("local_repository_manager", .string s.managerKind),
    ("local_repository_fallback", .bool s.isFallback),
    ("workspace_reader", .ofOption .string s.workspaceReader),
    ("artifact_types", .ofList .string s.artifactTypes),
    ("authenticated_servers", .ofList .string s.authenticatedServers),
    ("config_properties", s.config.toJson),
    ("remote_repositories", .ofList RepositorySummary.toJson s.remoteRepositories),
    ("plugin_repositories", .ofList RepositorySummary.toJson s.pluginRepositories),
    ("transformers", .ofList .string s.transformers)]

end SessionSummary

namespace RepositorySession

variable {γ : Type}

def hasTransformer (s : RepositorySession γ) : TransformerKind → Bool
  | .install => s.installTransformer.isSome
  | .deploy => s.deployTransformer.isSome

def transformerKeys (s : RepositorySession γ) : List String :=
  ([.install, .deploy] : List TransformerKind).filter s.hasTransformer |>.map TransformerKind.key

def summary (s : RepositorySession γ) : SessionSummary where
  policies := s.policies
  localRepository := s.localRepository.basedir
  managerKind := s.resolution.manager.kind
  isFallback := s.resolution.isFallback
  workspaceReader := s.workspaceReader.map (·.repositoryId)
  artifactTypes := s.artifactTypes.ids
  authenticatedServers := s.authentication.ids
  config := s.config
  remoteRepositories := s.remoteRepositories.map RepositorySummary.of
  pluginRepositories := s.pluginRepositories.map RepositorySummary.of
  transformers := s.transformerKeys

end RepositorySession

end BuildSession
