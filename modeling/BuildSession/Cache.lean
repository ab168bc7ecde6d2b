import BuildSession.Dict
import BuildSession.Shown

/-!
# The cache of a session

A cache keeps values of several kinds by key. A value is found again only when it is asked for
with the kind it was put in with; putting a value replaces the one of its key, whatever its kind.
-/

namespace BuildSession

/-- A value together with its kind. -/
structure CacheValue (κ : Type) (τ : κ → Type) where
  kind : κ
  value : τ kind

/-- Values of kinds `κ` by key. -/
structure Cache (κ : Type) (τ : κ → Type) where
  entries : Dict (CacheValue κ τ)

namespace Cache

variable {κ : Type} {τ : κ → Type}

def empty : Cache κ τ :=
  ⟨.empty⟩

def put (c : Cache κ τ) (key : String) (kind : κ) (value : τ kind) : Cache κ τ :=
  ⟨c.entries.insert key ⟨kind, value⟩⟩

/-- The value of a key, if it is of the kind. -/
def get? [DecidableEq κ] (c : Cache κ τ) (key : String) (kind : κ) : Option (τ kind) :=
  match c.entries.get? key with
  | some v => if h : v.kind = kind then some (h ▸ v.value) else none
  | none => none

def size (c : Cache κ τ) : Nat :=
  c.entries.size

def isEmpty (c : Cache κ τ) : Bool :=
  c.entries.isEmpty

/-- The cache in diagnostics: only how much it holds. -/
def shown (c : Cache κ τ) : Shown :=
  .record "RepositoryCache" [("entries", .nat c.size)] false

end Cache

end BuildSession
