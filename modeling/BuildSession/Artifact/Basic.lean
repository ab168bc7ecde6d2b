import BuildSession.Repository.Basic

/-!
# Artifacts

An artifact is named by its coordinates, which are shown between colons; an empty classifier is
left out.
-/

namespace BuildSession

/-- A file that a build makes or uses, by its coordinates. -/
structure Artifact where
  groupId : String
  artifactId : String
  version : String
  classifier : String := ""
  extension : String := "jar"
  file : Option String := none
  deriving DecidableEq

namespace Artifact

def isSnapshot (a : Artifact) : Bool :=
  "-SNAPSHOT".toList.isSuffixOf a.version.toList

def coordinates (a : Artifact) : List String :=
  [a.groupId, a.artifactId, a.extension]
    ++ (if a.classifier.isEmpty then [] else [a.classifier]) ++ [a.version]

def display (a : Artifact) : String :=
  ":".intercalate a.coordinates

end Artifact

structure InstallRequest where
  artifacts : List Artifact := []

structure DeployRequest where
  artifacts : List Artifact := []
  repository : Option RemoteRepository := none

end BuildSession
