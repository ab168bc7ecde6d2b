import BuildSession.Exchange.Basic
import BuildSession.Session.Assembly

/-!
# Failures in the exchange format

A failure is an object with its kind, what is said of it, and for some kinds the stage that failed.
-/

namespace BuildSession

structure Failure where
  kind : String
  message : Option String := none
  stage : Option String := none
  deriving DecidableEq

namespace Failure

def members (f : Failure) : List (String × Json) :=
  let text (name : String) (s : Option String) := s.toList.map fun s => (name, Json.string s)
  ("error", .string f.kind) :: text "message" f.message ++ text "stage" f.stage

def toExchange (f : Failure) : Json :=
  .object f.members

def badJson : Failure where
  kind := "BadJson"

def badInput : Failure where
  kind := "BadInput"

def ofUpdatePolicy (e : InvalidUpdatePolicy) : Failure where
  kind := "InvalidUpdatePolicy"
  message := e.message

def ofExchange : ExchangeError → Failure
  | .malformed => badInput
  | .record .mismatch => { kind := "Deserialize" }
  | .record (.updatePolicy text) =>
    { kind := "Deserialize", message := some (InvalidUpdatePolicy.message ⟨text⟩) }

def ofTypes (e : ArtifactTypeError) : Failure where
  kind := match e with
    | .duplicateType _ => "DuplicateType"
    | .unavailable _ => "Unavailable"
  message := e.message

def ofTransform (e : TransformError) : Failure where
  kind := "Transform"
  message := e.text
  stage := e.transformer

def ofSession (e : SessionError) : Failure where
  kind := e.stage.name
  message := e.message
  stage := e.stage.name

end Failure

end BuildSession
