import BuildSession.Artifact.Basic
import BuildSession.Artifact.Type
import BuildSession.Event.Basic
import BuildSession.Exchange.Repository

/-!
# Artifacts, their handlers, and events in the exchange format
-/

namespace BuildSession

namespace Artifact

def ofExchange (j : Json) : Exchange Artifact := do
  let groupId ← Exchange.text j "group_id"
  let artifactId ← Exchange.text j "artifact_id"
  let version ← Exchange.text j "version"
  let extension ← Exchange.text? j "extension"
  let classifier ← Exchange.text? j "classifier"
  let file ← Exchange.text? j "file"
  return { groupId, artifactId, version
           extension := extension.getD "jar", classifier := classifier.getD "", file }

/-- The object that describes an artifact, along with what follows from its parts. -/
def toExchange (a : Artifact) : Json :=
  .object [
    ("group_id", .string a.groupId),
    ("artifact_id", .string a.artifactId),
    ("version", .string a.version),
    ("extension", .string a.extension),
    ("classifier", .string a.classifier),
    ("file", .ofText? a.file),
    ("display", .string a.display),
    ("snapshot", .bool a.isSnapshot)]

end Artifact

namespace InstallRequest

def ofExchange (j : Json) : Exchange InstallRequest :=
  return ⟨← (Exchange.items j "artifacts").mapM Artifact.ofExchange⟩

def toExchange (r : InstallRequest) : Json :=
  .object [("artifacts", .ofList Artifact.toExchange r.artifacts)]

end InstallRequest

namespace DeployRequest

def ofExchange (j : Json) : Exchange DeployRequest := do
  let artifacts ← (Exchange.items j "artifacts").mapM Artifact.ofExchange
  return ⟨artifacts, ← Exchange.optional RemoteRepository.ofExchange j "repository"⟩

def toExchange (r : DeployRequest) : Json :=
  .object [
    ("artifacts", .ofList Artifact.toExchange r.artifacts),
    ("repository", .ofOption RemoteRepository.toExchange r.repository)]

end DeployRequest

/-- The source of handlers that an object describes: one that fails, one with a list of its own, or
the standard one with some more. -/
def HandlerSource.ofExchange (j : Json) : Exchange HandlerSource := do
  match ← Exchange.text? j "unavailable", Exchange.part? j "list" with
  | some message, _ => return .error (.unavailable message)
  | none, some _ => return .ok (← Exchange.records ArtifactHandler.ofJson? j "list")
  | none, none => return .standardWith (← Exchange.records ArtifactHandler.ofJson? j "extra")

/-- The event that an object describes; it is the object that is written for the event. -/
def RepositoryEvent.ofExchange (j : Json) : Exchange RepositoryEvent := do
  let text := Exchange.text j
  match ← text "event" with
  | "artifact_descriptor_missing" => return .artifactDescriptorMissing (← text "artifact")
  | "artifact_descriptor_invalid" =>
    return .artifactDescriptorInvalid (← text "artifact") (← text "message")
  | "artifact_resolving" => return .artifactResolving (← text "artifact")
  | "artifact_resolved" =>
    return .artifactResolved (← text "artifact") (← Exchange.text? j "repository")
      ((← Exchange.text? j "file").map PathName.ofText)
  | "artifact_downloading" => return .artifactDownloading (← text "artifact") (← text "repository")
  | "artifact_downloaded" => return .artifactDownloaded (← text "artifact") (← text "repository")
  | "artifact_installed" => return .artifactInstalled (← text "artifact") (.ofText (← text "file"))
  | "artifact_deployed" => return .artifactDeployed (← text "artifact") (← text "repository")
  | "metadata_resolved" =>
    return .metadataResolved (← text "metadata") (← Exchange.text? j "repository")
  | "metadata_invalid" => return .metadataInvalid (← text "metadata") (← text "message")
  | _ => Exchange.malformed

/-- The progress that an object describes; of a kind that is not known, a failure. -/
def TransferEvent.ofExchange (j : Json) : Exchange TransferEvent := do
  let resource := (← Exchange.text? j "resource").getD ""
  let n := (Exchange.nat? (Exchange.part j "n")).getD 0
  match ← Exchange.text? j "kind" with
  | some "initiated" => return .initiated resource
  | some "progressed" => return .progressed resource n
  | some "succeeded" => return .succeeded resource n
  | _ => return .failed resource ((← Exchange.text? j "message").getD "")

end BuildSession
