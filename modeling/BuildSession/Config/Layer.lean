import BuildSession.Config.Properties
import BuildSession.Log
import BuildSession.Recorded

/-!
# Configuration layers

The configuration of a session is merged from layers. Later layers win, a key keeps the place where
it first came, and whenever a key changes hands between layers of different kinds, that is an
override, which is reported and logged.
-/

namespace BuildSession

/-- Where a layer of configuration comes from. -/
inductive LayerKind where
  | base
  | system
  | user
  | connector
  deriving DecidableEq

namespace LayerKind

def name : LayerKind → String
  | base => "base"
  | system => "system"
  | user => "user"
  | connector => "connector"

def toJson (k : LayerKind) : Json :=
  .string k.name

end LayerKind

/-- One layer of configuration: keys with values, in order, a key possibly several times. -/
structure ConfigLayer where
  kind : LayerKind
  entries : List (String × ConfigValue) := []

namespace ConfigLayer

def ofProperties (kind : LayerKind) (properties : Dict String) : ConfigLayer :=
  ⟨kind, properties.entries.map fun e => (e.1, .text e.2)⟩

def push (l : ConfigLayer) (key : String) (value : ConfigValue) : ConfigLayer :=
  { l with entries := l.entries ++ [(key, value)] }

def remove (l : ConfigLayer) (key : String) : ConfigLayer :=
  { l with entries := l.entries.filter (·.1 != key) }

def isEmpty (l : ConfigLayer) : Bool :=
  l.entries.isEmpty

end ConfigLayer

/-- A key that one kind of layer took over from another. -/
structure PropertyOverride where
  key : String
  fromLayer : LayerKind
  byLayer : LayerKind
  deriving DecidableEq

namespace PropertyOverride

def toJson (o : PropertyOverride) : Json :=
  .object [
    ("key", .string o.key),
    ("from_layer", o.fromLayer.toJson),
    ("by_layer", o.byLayer.toJson)]

def log (o : PropertyOverride) : LogRecord where
  level := .debug
  message := "config property overridden"
  fields := [("key", o.key), ("from", o.fromLayer.name), ("by", o.byLayer.name)]

end PropertyOverride

/-- Merged configuration: the properties and the overrides on the way to them. -/
structure ConfigMerge where
  properties : ConfigProperties := .empty
  overrides : List PropertyOverride := []

namespace ConfigMerge

/-- A merge under way, with the kind of layer that each key was last set by. -/
structure Progress where
  merge : ConfigMerge := {}
  origin : Dict LayerKind := .empty

def step (kind : LayerKind) (p : Progress) (entry : String × ConfigValue) :
    Recorded LogRecord Progress := do
  let (key, value) := entry
  let overrides ←
    match p.origin.get? key with
    | some before =>
      if before = kind then pure p.merge.overrides
      else do
        let o : PropertyOverride := ⟨key, before, kind⟩
        Recorded.note o.log
        pure (p.merge.overrides ++ [o])
    | none => pure p.merge.overrides
  return ⟨⟨(p.merge.properties.insert key value).2, overrides⟩, p.origin.insert key kind⟩

/-- Merges layers, the later ones over the earlier ones. -/
def ofLayers (layers : List ConfigLayer) : Recorded LogRecord ConfigMerge := do
  let p ← layers.foldlM (fun p layer => layer.entries.foldlM (step layer.kind) p) ({} : Progress)
  return p.merge

end ConfigMerge

end BuildSession
