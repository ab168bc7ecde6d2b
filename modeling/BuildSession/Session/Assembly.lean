import BuildSession.BuildTool
import BuildSession.Credentials.Decryption
import BuildSession.Session.Basic

/-!
# The assembly of sessions

`SessionFactory.assemble` makes a session for a request. It registers the artifact types, finds the
manager of the local repository and decrypts the credentials, and the first of these that fails
ends the assembly. Everything else cannot fail: selectors are built, configuration is merged and
repositories are made ready. What collaborators were asked and what was logged is recorded in order.
-/

namespace BuildSession

inductive AssemblyStage where
  | artifactTypeRegistry
  | localRepositoryManager
  | decryption
  deriving DecidableEq

def AssemblyStage.name : AssemblyStage → String
  | artifactTypeRegistry => "ArtifactTypeRegistry"
  | localRepositoryManager => "LocalRepositoryManager"
  | decryption => "Decryption"

inductive SessionError where
  | artifactTypes (cause : ArtifactTypeError)
  | localManager (path : String) (cause : NoLocalRepositoryManager)
  | decryption (cause : DecryptionError)
  deriving DecidableEq

namespace SessionError

def stage : SessionError → AssemblyStage
  | artifactTypes _ => .artifactTypeRegistry
  | localManager _ _ => .localRepositoryManager
  | decryption _ => .decryption

def message : SessionError → String
  | artifactTypes cause => "failed to build artifact type registry: " ++ cause.message
  | localManager path cause =>
    "failed to create local repository manager for " ++ path ++ ": " ++ cause.text
  | decryption cause => "settings decryption failed: " ++ cause.message

end SessionError

/-- What can be observed of an assembly: log records, and each question to a collaborator. -/
inductive AssemblyStep where
  | log (record : LogRecord)
  | askedHandlers
  | askedLegacy (policies : SessionPolicies) (repository : LocalRepository)
  | askedDefault (policies : SessionPolicies) (repository : LocalRepository)
  | askedDecrypter (proxies : List ProxySettings) (servers : List Server)

namespace AssemblyStep

def log? : AssemblyStep → Option LogRecord
  | log record => some record
  | _ => none

def ofResolution : ManagerResolution.Step → AssemblyStep
  | .log record => .log record
  | .askedLegacy policies repository => .askedLegacy policies repository
  | .askedDefault policies repository => .askedDefault policies repository

end AssemblyStep

/-- What sessions are made with: the collaborators, and what the build tool is. -/
structure SessionFactory where
  defaultManager : ManagerMaker
  tool : BuildTool
  legacyManager : Option ManagerMaker := none
  handlers : HandlerSource := .standardWith []
  decrypter : Decrypter := .plaintext
  dispatcher : EventDispatcher := {}
  listener : Listener := .single .logging
  workspaceReader : Option WorkspaceReader := none
  installTransformers : List (Transformer InstallRequest) := []
  deployTransformers : List (Transformer DeployRequest) := []

namespace SessionFactory

variable {γ : Type}

/-- What every session says of the build by itself. -/
def baseLayer (f : SessionFactory) (r : BuildRequest γ) : ConfigLayer :=
  ⟨.base, [
    (ConfigKey.userAgent, .text f.tool.userAgent),
    (ConfigKey.interactive, .flag r.interactive),
    (ConfigKey.startTime, .instant r.startTime)]⟩

/-- The layers that a session's configuration is merged from. -/
def layers (f : SessionFactory) (r : BuildRequest γ) (connector : ConfigLayer) :
    List ConfigLayer :=
  [f.baseLayer r, .ofProperties .system r.systemProperties, .ofProperties .user r.userProperties,
    connector]

def assembled (s : RepositorySession γ) (overrides : List PropertyOverride) : LogRecord where
  level := .debug
  message := "Assembled repository session"
  fields := [
    ("offline", ArtifactType.flagText s.policies.offline),
    ("local_repository", s.localRepository.basedir),
    ("fallback", ArtifactType.flagText s.resolution.isFallback),
    ("remote_repositories", (Shown.nat s.remoteRepositories.length).text),
    ("plugin_repositories", (Shown.nat s.pluginRepositories.length).text),
    ("overridden_keys", (Shown.nat overrides.length).text)]

/-- Makes the session of a request from what the parts that may fail have come to. -/
def finish (f : SessionFactory) (r : BuildRequest γ) (types : ArtifactTypeRegistry)
    (resolution : ManagerResolution) (decrypted : DecryptedSettings) :
    Recorded LogRecord (RepositorySession γ) := do
  let access := ServerAccess.ofServers decrypted.servers
  let injector : Injector :=
    { mirrors := ⟨r.mirrors⟩
      proxies := .ofSettings decrypted.proxies
      authentication := access.selector }
  let merge ← ConfigMerge.ofLayers (f.layers r access.connector)
  let installTransformer ← Transformer.compose .install f.installTransformers
  let deployTransformer ← Transformer.compose .deploy f.deployTransformers
  let session : RepositorySession γ :=
    { policies := r.policies
      artifactTypes := types
      localRepository := ⟨r.localRepository⟩
      resolution := resolution
      workspaceReader := r.workspaceReader.or f.workspaceReader
      mirrors := injector.mirrors
      proxies := injector.proxies
      authentication := injector.authentication
      transferListener := r.transferListener
      listener := f.dispatcher.chainListener f.listener
      userProperties := r.userProperties
      systemProperties := r.systemProperties
      config := merge.properties
      remoteRepositories := injector.inject r.remoteRepositories
      pluginRepositories := injector.inject r.pluginRepositories
      installTransformer := installTransformer
      deployTransformer := deployTransformer
      cache := r.cache }
  Recorded.note (assembled session merge.overrides)
  return session

def resolveManager (f : SessionFactory) (r : BuildRequest γ) :
    Recorded AssemblyStep (Except NoLocalRepositoryManager ManagerResolution) :=
  (ManagerResolution.resolve r.useLegacyLocalRepository f.legacyManager f.defaultManager r.policies
    ⟨r.localRepository⟩).mapRecords .ofResolution

def assemble (f : SessionFactory) (r : BuildRequest γ) :
    Recorded AssemblyStep (Except SessionError (RepositorySession γ)) := do
  Recorded.note .askedHandlers
  match ArtifactTypeRegistry.ofSource f.handlers with
  | .error e => return .error (.artifactTypes e)
  | .ok types =>
    match ← f.resolveManager r with
    | .error e => return .error (.localManager r.localRepository e)
    | .ok resolution =>
      Recorded.note (.askedDecrypter r.proxies r.servers)
      match ← (f.decrypter.decrypt r.proxies r.servers).mapRecords .log with
      | .error e => return .error (.decryption e)
      | .ok decrypted =>
        let session ← (f.finish r types resolution decrypted).mapRecords .log
        return .ok session

end SessionFactory

end BuildSession
