import BuildSession.Log
import BuildSession.Policy.Session
import BuildSession.Recorded
import BuildSession.Repository.Basic

/-!
# The manager of the local repository

A session needs a manager for its local repository. In legacy mode the legacy maker is asked first,
and when it fails or there is none, the default maker is asked after all and the reason is kept.
Without a manager there is no session.
-/

namespace BuildSession

/-- Who keeps a local repository in order. -/
structure LocalRepositoryManager where
  kind : String
  repository : LocalRepository
  deriving DecidableEq

structure NoLocalRepositoryManager where
  repository : String
  message : String
  deriving DecidableEq

namespace NoLocalRepositoryManager

def text (e : NoLocalRepositoryManager) : String :=
  "no local repository manager available for " ++ e.repository ++ ": " ++ e.message

def shown (e : NoLocalRepositoryManager) : Shown :=
  .record "NoLocalRepositoryManager"
    [("repository", .quoted e.repository), ("message", .quoted e.message)] false

end NoLocalRepositoryManager

/-- Makes a manager for a local repository under some policies, or fails. -/
abbrev ManagerMaker :=
  SessionPolicies → LocalRepository → Except NoLocalRepositoryManager LocalRepositoryManager

inductive ManagerResolution where
  | primary (manager : LocalRepositoryManager)
  | fallback (manager : LocalRepositoryManager) (reason : NoLocalRepositoryManager)
  deriving DecidableEq

namespace ManagerResolution

def manager : ManagerResolution → LocalRepositoryManager
  | primary m => m
  | fallback m _ => m

/-- Whether the manager is not the one asked for first. -/
def isFallback : ManagerResolution → Bool
  | primary _ => false
  | fallback _ _ => true

/-- Why the manager asked for first is missing. -/
def reason? : ManagerResolution → Option NoLocalRepositoryManager
  | primary _ => none
  | fallback _ reason => some reason

def shown : ManagerResolution → Shown
  | primary m => .tagged "Primary" (.quoted m.kind)
  | fallback m reason =>
    .record "Fallback" [("manager", .quoted m.kind), ("reason", reason.shown)] false

/-- What can be observed of a search: log records, and each call of a maker. -/
inductive Step where
  | log (record : LogRecord)
  | askedLegacy (policies : SessionPolicies) (repository : LocalRepository)
  | askedDefault (policies : SessionPolicies) (repository : LocalRepository)
  deriving DecidableEq

/-- The log record of a step that is one. -/
def Step.log? : Step → Option LogRecord
  | log record => some record
  | _ => none

def legacyUsed : LogRecord where
  level := .info
  message := "Disabling enhanced local repository: using legacy is strongly discouraged "
    ++ "to ensure build reproducibility."

def legacyFailed (reason : NoLocalRepositoryManager) : LogRecord where
  level := .error
  message := "Failed to configure legacy local repository: falling back to default"
  fields := [("reason", reason.text)]

def askDefault (maker : ManagerMaker) (policies : SessionPolicies) (repository : LocalRepository) :
    Recorded Step (Except NoLocalRepositoryManager LocalRepositoryManager) :=
  ⟨maker policies repository, [.askedDefault policies repository]⟩

/-- Asks the legacy maker, if there is one. -/
def askLegacy (maker : Option ManagerMaker) (policies : SessionPolicies)
    (repository : LocalRepository) :
    Recorded Step (Except NoLocalRepositoryManager LocalRepositoryManager) :=
  match maker with
  | some maker => ⟨maker policies repository, [.askedLegacy policies repository]⟩
  | none =>
    ⟨.error ⟨repository.basedir, "no legacy local repository manager factory is configured"⟩, []⟩

def resolve (useLegacy : Bool) (legacy : Option ManagerMaker) (default : ManagerMaker)
    (policies : SessionPolicies) (repository : LocalRepository) :
    Recorded Step (Except NoLocalRepositoryManager ManagerResolution) :=
  if useLegacy then do
    match ← askLegacy legacy policies repository with
    | .ok m =>
      Recorded.note (.log legacyUsed)
      return .ok (.primary m)
    | .error reason =>
      Recorded.note (.log (legacyFailed reason))
      let found ← askDefault default policies repository
      return found.map fun m => .fallback m reason
  else do
    let found ← askDefault default policies repository
    return found.map .primary

end ManagerResolution

end BuildSession
