import BuildSession.Event.Basic
import BuildSession.Log

/-!
# The log of events

What is logged of an event. Missing and invalid descriptions of artifacts and invalid metadata are
warnings; everything else is for those who look closely.
-/

namespace BuildSession.EventOf

def log : RepositoryEvent → LogRecord
  | artifactDescriptorMissing artifact =>
    { level := .warn
      message := "The POM for " ++ artifact
        ++ " is missing, no dependency information available" }
  | artifactDescriptorInvalid artifact message =>
    { level := .warn
      message := "The POM for " ++ artifact
        ++ " is invalid, transitive dependencies (if any) will not be available: " ++ message }
  | metadataInvalid metadata message =>
    { level := .warn, message := "Invalid metadata " ++ metadata ++ ": " ++ message }
  | artifactResolved artifact repository _ =>
    { level := .debug
      message := "Resolved artifact " ++ artifact
      fields := [("repository", repository.getD "local")] }
  | artifactInstalled artifact file =>
    { level := .debug, message := "Installed " ++ artifact ++ " to " ++ file.display }
  | artifactDeployed artifact repository =>
    { level := .debug, message := "Deployed " ++ artifact ++ " to " ++ repository }
  | e => { level := .debug, message := "repository event", fields := [("event", e.shown.text)] }

end BuildSession.EventOf
