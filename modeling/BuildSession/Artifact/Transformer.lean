import BuildSession.Log
import BuildSession.Recorded

/-!
# Request transformers

A transformer changes a request before it is carried out, or refuses it. A chain applies its
members one after another and stops at the first that refuses. Running a transformer records the
names of the single steps in the order in which they were called.
-/

namespace BuildSession

structure TransformError where
  transformer : String
  message : String
  deriving DecidableEq

def TransformError.text (e : TransformError) : String :=
  "request transformer '" ++ e.transformer ++ "' failed: " ++ e.message

/-- The two kinds of requests that are transformed. -/
inductive TransformerKind where
  | install
  | deploy
  deriving DecidableEq

namespace TransformerKind

def key : TransformerKind → String
  | install => "install-request-transformer"
  | deploy => "deploy-request-transformer"

def label : TransformerKind → String
  | install => "install"
  | deploy => "deploy"

end TransformerKind

/-- A transformer of requests of type `ρ`: a single step, or a chain of transformers. -/
inductive Transformer (ρ : Type) where
  | step (name : String) (apply : ρ → Except TransformError ρ)
  | chain (members : List (Transformer ρ))

namespace Transformer

variable {ρ : Type}

def name : Transformer ρ → String
  | step name _ => name
  | chain _ => "chained"

/-- The members of a chain; a single step is its own only member. -/
def members : Transformer ρ → List (Transformer ρ)
  | step name apply => [step name apply]
  | chain ts => ts

mutual

/-- What a transformer makes of a request, and the names of the steps it called. -/
def run : Transformer ρ → ρ → Recorded String (Except TransformError ρ)
  | step name apply, request => ⟨apply request, [name]⟩
  | chain ts, request => runAll ts request

def runAll : List (Transformer ρ) → ρ → Recorded String (Except TransformError ρ)
  | [], request => ⟨.ok request, []⟩
  | t :: ts, request =>
    let first := run t request
    match first.value with
    | .error e => ⟨.error e, first.records⟩
    | .ok next =>
      let rest := runAll ts next
      ⟨rest.value, first.records ++ rest.records⟩

end

/-- The chain of some transformers, if there are any. That it is used is logged with its members. -/
def compose (kind : TransformerKind) (ts : List (Transformer ρ)) :
    Recorded LogRecord (Option (Transformer ρ)) :=
  if ts.isEmpty then ⟨none, []⟩
  else
    ⟨some (chain ts),
      { level := .debug
        message := "Applying " ++ kind.label ++ " request transformers (shown in order):" }
      :: ts.map fun t => { level := .debug, message := " * " ++ t.name }⟩

end Transformer

end BuildSession
