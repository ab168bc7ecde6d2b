import BuildSession.Json.Fields

/-!
# Artifact types

Handlers say how artifacts of a type are named and used; the registry holds the type of each
handler by id. Two handlers of one id make no registry, and the error names the first id that
comes a second time.
-/

namespace BuildSession

/-- How artifacts of a type are named and used. -/
structure ArtifactHandler where
  typeId : String
  extension : String
  classifier : Option String := none
  language : String := "none"
  includesDependencies : Bool := false
  addedToClasspath : Bool := false
  deriving DecidableEq

namespace ArtifactHandler

/-- The handler of a type whose files have the type's id as their extension. -/
def ofType (typeId : String) : ArtifactHandler :=
  { typeId, extension := typeId }

def toJson (h : ArtifactHandler) : Json :=
  .object [
    ("type_id", .string h.typeId),
    ("extension", .string h.extension),
    ("classifier", .ofOption .string h.classifier),
    ("language", .string h.language),
    ("includes_dependencies", .bool h.includesDependencies),
    ("added_to_classpath", .bool h.addedToClasspath)]

def ofJson? (j : Json) : Read ArtifactHandler := do
  let found ← Json.fields
    ["type_id", "extension", "classifier", "language", "includes_dependencies",
      "added_to_classpath"] j
  let typeId ← Json.required "type_id" Json.asString found
  let extension ← Json.required "extension" Json.asString found
  let classifier ← Json.optional "classifier" Json.asString found
  let language ← Json.orElse "language" Json.asString "none" found
  let includesDependencies ← Json.orElse "includes_dependencies" Json.asBool false found
  let addedToClasspath ← Json.orElse "added_to_classpath" Json.asBool false found
  return { typeId, extension, classifier, language, includesDependencies, addedToClasspath }

def java (typeId extension : String) (classifier : Option String) : ArtifactHandler :=
  { typeId, extension, classifier, language := "java", addedToClasspath := true }

def package (typeId : String) : ArtifactHandler :=
  { typeId, extension := typeId, language := "java", includesDependencies := true }

def standard : List ArtifactHandler := [
  ofType "pom",
  java "jar" "jar" none,
  java "test-jar" "jar" (some "tests"),
  java "maven-plugin" "jar" none,
  java "ejb" "jar" none,
  java "ejb-client" "jar" (some "client"),
  package "war",
  package "ear",
  package "rar",
  package "par",
  { java "java-source" "jar" (some "sources") with addedToClasspath := false },
  java "javadoc" "jar" (some "javadoc")]

end ArtifactHandler

/-- What a handler says about artifacts of its type. -/
structure ArtifactType where
  id : String
  extension : String
  classifier : String
  properties : Dict String
  deriving DecidableEq

namespace ArtifactType

def flagText (b : Bool) : String :=
  if b then "true" else "false"

def ofHandler (h : ArtifactHandler) : ArtifactType where
  id := h.typeId
  extension := h.extension
  classifier := h.classifier.getD ""
  properties := .ofList [
    ("type", h.typeId),
    ("language", h.language),
    ("constitutesBuildPath", flagText h.addedToClasspath),
    ("includesDependencies", flagText h.includesDependencies)]

def toJson (t : ArtifactType) : Json :=
  .object [
    ("id", .string t.id),
    ("extension", .string t.extension),
    ("classifier", .string t.classifier),
    ("properties", .ofDict .string t.properties)]

end ArtifactType

inductive ArtifactTypeError where
  | duplicateType (id : String)
  | unavailable (message : String)
  deriving DecidableEq

def ArtifactTypeError.message : ArtifactTypeError → String
  | duplicateType id => "artifact type '" ++ id ++ "' is registered more than once"
  | unavailable message => "artifact handlers unavailable: " ++ message

/-- Where handlers come from; the source may fail. -/
abbrev HandlerSource := Except ArtifactTypeError (List ArtifactHandler)

namespace HandlerSource

def standardWith (extra : List ArtifactHandler) : HandlerSource :=
  .ok (ArtifactHandler.standard ++ extra)

end HandlerSource

/-- Artifact types by id. -/
structure ArtifactTypeRegistry where
  types : Dict ArtifactType := .empty
  deriving DecidableEq

namespace ArtifactTypeRegistry

def step (r : ArtifactTypeRegistry) (h : ArtifactHandler) :
    Except ArtifactTypeError ArtifactTypeRegistry :=
  if r.types.contains h.typeId then .error (.duplicateType h.typeId)
  else .ok ⟨r.types.insert h.typeId (.ofHandler h)⟩

def ofHandlers (hs : List ArtifactHandler) : Except ArtifactTypeError ArtifactTypeRegistry :=
  hs.foldlM step {}

def ofSource (source : HandlerSource) : Except ArtifactTypeError ArtifactTypeRegistry :=
  match source with
  | .ok hs => ofHandlers hs
  | .error e => .error e

def get? (r : ArtifactTypeRegistry) (id : String) : Option ArtifactType :=
  r.types.get? id

def ids (r : ArtifactTypeRegistry) : List String :=
  r.types.keys

def size (r : ArtifactTypeRegistry) : Nat :=
  r.types.size

def isEmpty (r : ArtifactTypeRegistry) : Bool :=
  r.types.isEmpty

def toJson (r : ArtifactTypeRegistry) : Json :=
  .object [("types", .ofDict ArtifactType.toJson r.types)]

end ArtifactTypeRegistry

end BuildSession
