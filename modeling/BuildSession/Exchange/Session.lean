import BuildSession.Credentials.Braces
import BuildSession.Exchange.Artifact
import BuildSession.Exchange.Config
import BuildSession.Session.Basic

/-!
# Requests and sessions in the exchange format

A request is described by what it states; a session by all that it publishes.
-/

namespace BuildSession

def SettingsProblem.ofExchange (j : Json) : Exchange SettingsProblem := do
  let source ← Exchange.text j "source"
  let message ← Exchange.text j "message"
  let cause ← Exchange.text? j "cause"
  match ← Exchange.text? j "severity" with
  | none | some "ERROR" => return { severity := .error, message, source, cause }
  | some "FATAL" => return { severity := .fatal, message, source, cause }
  | some "WARNING" => return { severity := .warning, message, source, cause }
  | some _ => Exchange.malformed

def SettingsProblem.toExchange (p : SettingsProblem) : Json :=
  .object [
    ("severity", .string p.severity.name),
    ("message", .string p.message),
    ("source", .string p.source),
    ("cause", .ofText? p.cause)]

/-- The decrypter that an object describes; without one, secrets are taken to be open. -/
def Decrypter.ofExchange : Json → Exchange Decrypter
  | .null => return .plaintext
  | j => do
    match ← Exchange.text j "kind" with
    | "plaintext" => return .plaintext
    | "brace" => return .bracesOf Braces.openSecrets
    | "problems" =>
      return .reporting (← (Exchange.items j "problems").mapM SettingsProblem.ofExchange)
    | "unavailable" => return .failing (.unavailable (← Exchange.text j "reason"))
    | "master_password" => return .failing (.masterPassword (← Exchange.text j "message"))
    | _ => Exchange.malformed

def LogRecord.toExchange (r : LogRecord) : Json :=
  .object [
    ("level", .string r.level.name),
    ("message", .string r.message),
    ("fields", .object (r.fields.map fun f => (f.1, .string f.2)))]

def SessionPolicies.ofExchange (j : Json) : Exchange SessionPolicies := do
  let checksum ← Exchange.record? ChecksumPolicy.ofJson? j "checksum_policy"
  let update ← Exchange.record? UpdatePolicy.ofJson? j "update_policy"
  let errors ← Exchange.record? ResolutionErrorPolicy.ofJson? j "resolution_error_policy"
  return {
    offline := Exchange.flag j "offline" false
    checksum, update
    errors := errors.getD .none }

/-- The request that an object describes. Settings, if it has any, replace its own lists. -/
def BuildRequest.ofExchange (j : Json) : Exchange (BuildRequest Unit) := do
  let flag := Exchange.flag j
  let localRepository ← Exchange.text j "local_repository"
  let startTime ← Exchange.optional Instant.ofExchange j "start_time"
  let checksumPolicy ← Exchange.record? ChecksumPolicy.ofJson? j "checksum_policy"
  let systemProperties ← Exchange.texts j "system_properties"
  let userProperties ← Exchange.texts j "user_properties"
  let mirrors ← Exchange.records Mirror.ofJson? j "mirrors"
  let proxies ← Exchange.records ProxySettings.ofJson? j "proxies"
  let servers ← Exchange.records Server.ofJson? j "servers"
  let settings ← Exchange.record? Settings.ofJson? j "settings"
  let remoteRepositories ← RemoteRepository.allOfExchange (Exchange.items j "remote_repositories")
  let pluginRepositories ← RemoteRepository.allOfExchange (Exchange.items j "plugin_repositories")
  let r : BuildRequest Unit := {
    localRepository
    startTime := startTime.getD .epoch
    offline := flag "offline" false
    interactive := flag "interactive" true
    checksumPolicy
    noSnapshotUpdates := flag "no_snapshot_updates" false
    updateSnapshots := flag "update_snapshots" false
    cacheNotFound := flag "cache_not_found" false
    cacheTransferError := flag "cache_transfer_error" false
    useLegacyLocalRepository := flag "use_legacy_local_repository" false
    systemProperties, userProperties, mirrors, proxies, servers
    remoteRepositories, pluginRepositories
    transferListener := ← Exchange.text? j "transfer_listener"
    cache := if flag "cache" false then some () else none }
  match settings with
  | some s => return s.applyTo r
  | none => return r

def LocalRepository.toExchange (r : LocalRepository) : Json :=
  .object [("basedir", .string r.basedir)]

def ManagerResolution.toExchange (r : ManagerResolution) : Json :=
  .object [
    ("kind", .string r.manager.kind),
    ("repository", r.manager.repository.toExchange),
    ("fallback", .bool r.isFallback),
    ("reason", .ofOption
      (fun e => .object [
        ("repository", .string e.repository),
        ("message", .string e.message),
        ("display", .string e.text)])
      r.reason?),
    ("debug", .string r.shown.text)]

def MirrorSelector.answer (s : MirrorSelector) (r : RemoteRepository) : Json :=
  .object [
    ("id", .ofText? (s.mirrorIdFor r)),
    ("mirror", .ofOption RemoteRepository.toExchange (s.mirrorFor r))]

def RepositorySession.toExchange {γ : Type} (s : RepositorySession γ) : Json :=
  let p := s.policies
  .object [
    ("summary", .string s.summary.toJson.render),
    ("policies", p.toJson),
    ("offline", .bool p.offline),
    ("checksum_policy", .ofOption ChecksumPolicy.toJson p.checksum),
    ("update_policy", .ofOption UpdatePolicy.toJson p.update),
    ("error_policy", .array [p.errors.artifact.toJson, p.errors.reresolution.toJson]),
    ("local_repository", s.localRepository.toExchange),
    ("manager", s.resolution.toExchange),
    ("workspace", .ofText? (s.workspaceReader.map (·.repositoryId))),
    ("transfer_listener", .bool s.transferListener.isSome),
    ("cache_shared", .ofOption (fun _ => .bool true) s.cache),
    ("mirrors", .ofNat s.mirrors.rules.length),
    ("proxies", .ofNat s.proxies.rules.length),
    ("servers", s.authentication.toExchange),
    ("types", .ofList .string s.artifactTypes.ids),
    ("user_properties", .ofDict .string s.userProperties),
    ("system_properties", .ofDict .string s.systemProperties),
    ("config", s.config.toExchange),
    ("remote_repositories", .array (RemoteRepository.allToExchange s.remoteRepositories)),
    ("plugin_repositories", .array (RemoteRepository.allToExchange s.pluginRepositories)),
    ("transformers", .ofList .string s.transformerKeys)]

end BuildSession
