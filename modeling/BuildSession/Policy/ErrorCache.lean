import BuildSession.Json.Fields
import BuildSession.Shown

/-!
# Caching of failures

A `CachePolicy` is a set of failure kinds that are remembered, kept as a byte whose two lowest
bits have a meaning. A `ResolutionErrorPolicy` has one set for resolving artifacts and one for
resolving them again, and `ResolutionErrorPolicy.of` always remembers absence for the latter.
-/

namespace BuildSession

/-- A set of failure kinds, one bit each. -/
structure CachePolicy where
  bits : UInt8
  deriving DecidableEq

namespace CachePolicy

def disabled : CachePolicy := ⟨0⟩

def notFound : CachePolicy := ⟨1⟩

def transferError : CachePolicy := ⟨2⟩

def all : CachePolicy := ⟨3⟩

/-- The set of those bits that have a meaning. -/
def truncate (bits : UInt8) : CachePolicy :=
  ⟨bits &&& all.bits⟩

def union (p q : CachePolicy) : CachePolicy :=
  ⟨p.bits ||| q.bits⟩

/-- Whether every failure of `q` is in `p`. -/
def contains (p q : CachePolicy) : Bool :=
  p.bits &&& q.bits == q.bits

def isDisabled (p : CachePolicy) : Bool :=
  p.bits == 0

def names (p : CachePolicy) : List String :=
  (if p.contains notFound then ["NOT_FOUND"] else [])
    ++ (if p.contains transferError then ["TRANSFER_ERROR"] else [])

def toJson (p : CachePolicy) : Json :=
  .ofNat p.bits.toNat

/-- The set of a written byte, bits without a meaning kept. -/
def ofJson? (j : Json) : Read CachePolicy :=
  (Json.asNatUpTo 255 j).map fun n => ⟨UInt8.ofNat n⟩

def shown (p : CachePolicy) : Shown :=
  .tagged "CachePolicy"
    (.plain (if p.isDisabled then "DISABLED" else " | ".intercalate p.names))

end CachePolicy

/-- Which failures are remembered when artifacts are resolved and when they are resolved again. -/
structure ResolutionErrorPolicy where
  artifact : CachePolicy
  reresolution : CachePolicy
  deriving DecidableEq

namespace ResolutionErrorPolicy

def none : ResolutionErrorPolicy :=
  ⟨.disabled, .disabled⟩

/-- The set for artifacts; resolving again also remembers absence. -/
def of (p : CachePolicy) : ResolutionErrorPolicy :=
  ⟨p, p.union .notFound⟩

def toJson (p : ResolutionErrorPolicy) : Json :=
  .object [("artifact", p.artifact.toJson), ("reresolution", p.reresolution.toJson)]

def ofJson? (j : Json) : Read ResolutionErrorPolicy := do
  let found ← Json.fields ["artifact", "reresolution"] j
  let artifact ← Json.required "artifact" CachePolicy.ofJson? found
  let reresolution ← Json.required "reresolution" CachePolicy.ofJson? found
  return ⟨artifact, reresolution⟩

def shown (p : ResolutionErrorPolicy) : Shown :=
  .record "ResolutionErrorPolicy"
    [("artifact", p.artifact.shown), ("reresolution", p.reresolution.shown)] false

end ResolutionErrorPolicy

end BuildSession
