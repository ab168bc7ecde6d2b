import BuildSession.Json.Basic
import BuildSession.PathName

/-!
# Events

What is told about artifacts and metadata while a session is used. An event is written as an object
that has its name and its details. A path is written as its text, so what is written is not the
event itself but `textual?` of it, an event that has texts for its paths, and an event with a path
that is no text is not written at all (`textual?_eq_some_iff`).
-/

namespace BuildSession

/-- Something that happened to an artifact or to metadata; `π` is the type of the paths in it. -/
inductive EventOf (π : Type) where
  | artifactDescriptorMissing (artifact : String)
  | artifactDescriptorInvalid (artifact message : String)
  | artifactResolving (artifact : String)
  | artifactResolved (artifact : String) (repository : Option String) (file : Option π)
  | artifactDownloading (artifact repository : String)
  | artifactDownloaded (artifact repository : String)
  | artifactInstalled (artifact : String) (file : π)
  | artifactDeployed (artifact repository : String)
  | metadataResolved (metadata : String) (repository : Option String)
  | metadataInvalid (metadata message : String)
  deriving DecidableEq

abbrev RepositoryEvent := EventOf PathName

abbrev TextualEvent := EventOf String

namespace EventOf

variable {π ρ : Type}

def name : EventOf π → String
  | artifactDescriptorMissing .. => "artifact_descriptor_missing"
  | artifactDescriptorInvalid .. => "artifact_descriptor_invalid"
  | artifactResolving .. => "artifact_resolving"
  | artifactResolved .. => "artifact_resolved"
  | artifactDownloading .. => "artifact_downloading"
  | artifactDownloaded .. => "artifact_downloaded"
  | artifactInstalled .. => "artifact_installed"
  | artifactDeployed .. => "artifact_deployed"
  | metadataResolved .. => "metadata_resolved"
  | metadataInvalid .. => "metadata_invalid"

/-- The details of an event by name; an absent one is listed without a value. -/
def details (text : String → ρ) (path : π → ρ) : EventOf π → List (String × Option ρ)
  | artifactDescriptorMissing artifact => [("artifact", text artifact)]
  | artifactDescriptorInvalid artifact message =>
    [("artifact", text artifact), ("message", text message)]
  | artifactResolving artifact => [("artifact", text artifact)]
  | artifactResolved artifact repository file =>
    [("artifact", text artifact), ("repository", repository.map text), ("file", file.map path)]
  | artifactDownloading artifact repository =>
    [("artifact", text artifact), ("repository", text repository)]
  | artifactDownloaded artifact repository =>
    [("artifact", text artifact), ("repository", text repository)]
  | artifactInstalled artifact file => [("artifact", text artifact), ("file", path file)]
  | artifactDeployed artifact repository =>
    [("artifact", text artifact), ("repository", text repository)]
  | metadataResolved metadata repository =>
    [("metadata", text metadata), ("repository", repository.map text)]
  | metadataInvalid metadata message =>
    [("metadata", text metadata), ("message", text message)]

def shownName : EventOf π → String
  | artifactDescriptorMissing .. => "ArtifactDescriptorMissing"
  | artifactDescriptorInvalid .. => "ArtifactDescriptorInvalid"
  | artifactResolving .. => "ArtifactResolving"
  | artifactResolved .. => "ArtifactResolved"
  | artifactDownloading .. => "ArtifactDownloading"
  | artifactDownloaded .. => "ArtifactDownloaded"
  | artifactInstalled .. => "ArtifactInstalled"
  | artifactDeployed .. => "ArtifactDeployed"
  | metadataResolved .. => "MetadataResolved"
  | metadataInvalid .. => "MetadataInvalid"

/-- The details of an event in diagnostics: only those that may be absent show their presence. -/
def shownDetails : RepositoryEvent → List (String × Shown)
  | artifactResolved artifact repository file =>
    [("artifact", .quoted artifact), ("repository", .option .quoted repository),
      ("file", .option PathName.shown file)]
  | metadataResolved metadata repository =>
    [("metadata", .quoted metadata), ("repository", .option .quoted repository)]
  | e => (e.details .quoted PathName.shown).filterMap fun d => d.2.map fun shown => (d.1, shown)

def shown (e : RepositoryEvent) : Shown :=
  .record e.shownName e.shownDetails false

/-! ### Written events -/

/-- The path that an event tells of. -/
def path? : EventOf π → Option π
  | artifactResolved _ _ file => file
  | artifactInstalled _ file => some file
  | _ => none

/-- The event with what its path leads to in place of the path. -/
def mapPathM {m : Type → Type} [Monad m] (f : π → m ρ) : EventOf π → m (EventOf ρ)
  | artifactDescriptorMissing artifact => return .artifactDescriptorMissing artifact
  | artifactDescriptorInvalid artifact message => return .artifactDescriptorInvalid artifact message
  | artifactResolving artifact => return .artifactResolving artifact
  | artifactResolved artifact repository file =>
    return .artifactResolved artifact repository (← file.mapM f)
  | artifactDownloading artifact repository => return .artifactDownloading artifact repository
  | artifactDownloaded artifact repository => return .artifactDownloaded artifact repository
  | artifactInstalled artifact file => return .artifactInstalled artifact (← f file)
  | artifactDeployed artifact repository => return .artifactDeployed artifact repository
  | metadataResolved metadata repository => return .metadataResolved metadata repository
  | metadataInvalid metadata message => return .metadataInvalid metadata message

def mapPath (f : π → ρ) (e : EventOf π) : EventOf ρ :=
  Id.run (e.mapPathM fun p => pure (f p))

/-- The event with a text for its path. -/
def textual? (e : RepositoryEvent) : Option TextualEvent :=
  e.mapPathM PathName.text?

theorem textual?_mapPath (t : TextualEvent) : (t.mapPath PathName.ofText).textual? = some t := by
  cases t with
  | artifactResolved artifact repository file =>
    cases file <;> simp [textual?, mapPath, mapPathM, PathName.text?_ofText]
  | artifactInstalled artifact file => simp [textual?, mapPath, mapPathM, PathName.text?_ofText]
  | _ => rfl

theorem textual?_eq_some_iff {e : RepositoryEvent} {t : TextualEvent} :
    e.textual? = some t ↔ e = t.mapPath PathName.ofText := by
  constructor
  · intro h
    cases e with
    | artifactResolved artifact repository file =>
      obtain ⟨text, htext, ht⟩ := Option.bind_eq_some_iff.1 h
      obtain rfl := Option.some.inj ht
      rcases file with _ | file
      · obtain rfl := Option.some.inj htext
        rfl
      · obtain ⟨s, hs, rfl⟩ := Option.map_eq_some_iff.1 htext
        rw [PathName.text?_eq_some_iff.1 hs]
        rfl
    | artifactInstalled artifact file =>
      obtain ⟨s, hs, ht⟩ := Option.bind_eq_some_iff.1 h
      obtain rfl := Option.some.inj ht
      rw [PathName.text?_eq_some_iff.1 hs]
      rfl
    | _ =>
      obtain rfl := Option.some.inj h
      rfl
  · rintro rfl
    exact textual?_mapPath t

/-- The members of a written event: its name as `event`, then its details. -/
def jsonMembers (e : TextualEvent) : List (String × Json) :=
  ("event", .string e.name) :: (e.details id id).map fun d => (d.1, .ofOption .string d.2)

def toJson (e : TextualEvent) : Json :=
  .object e.jsonMembers

end EventOf

inductive TransferEvent where
  | initiated (resource : String)
  | progressed (resource : String) (transferred : Nat)
  | succeeded (resource : String) (size : Nat)
  | failed (resource message : String)
  deriving DecidableEq

def TransferEvent.shown : TransferEvent → Shown
  | initiated resource => .record "Initiated" [("resource", .quoted resource)] false
  | progressed resource transferred =>
    .record "Progressed" [("resource", .quoted resource), ("transferred", .nat transferred)] false
  | succeeded resource size =>
    .record "Succeeded" [("resource", .quoted resource), ("size", .nat size)] false
  | failed resource message =>
    .record "Failed" [("resource", .quoted resource), ("message", .quoted message)] false

end BuildSession
