import BuildSession.Config.Layer
import BuildSession.Exchange.Basic

/-!
# Configuration in the exchange format

A configuration value is an object whose only member tells what kind of value it is.
-/

namespace BuildSession

namespace ConfigValue

/-- The value that an object describes by its first known member. -/
def ofExchange (j : Json) : Exchange ConfigValue :=
  match Exchange.part? j "text", Exchange.part? j "flag", Exchange.part? j "time",
    Exchange.part? j "node" with
  | some (.string s), _, _, _ => .ok (.text s)
  | some _, _, _, _ => Exchange.malformed
  | none, some (.bool b), _, _ => .ok (.flag b)
  | none, some _, _, _ => Exchange.malformed
  | none, none, some t, _ => (Instant.ofExchange t).map .instant
  | none, none, none, some n => (Exchange.ofRead (ConfigNode.ofJson? n)).map .node
  | none, none, none, none => Exchange.malformed

def toExchange : ConfigValue → Json
  | .text s => .object [("text", .string s)]
  | .flag b => .object [("flag", .bool b)]
  | .instant t => .object [("time", t.toExchange)]
  | .node n => .object [("node", n.toJson)]

end ConfigValue

def ConfigLayer.entryToExchange (e : String × ConfigValue) : Json :=
  .array [.string e.1, e.2.toExchange]

def ConfigLayer.toExchange (l : ConfigLayer) : Json :=
  .ofList ConfigLayer.entryToExchange l.entries

def ConfigProperties.toExchange (p : ConfigProperties) : Json :=
  .ofList ConfigLayer.entryToExchange p.entries.toList

def LayerKind.ofExchange : String → Exchange LayerKind
  | "base" => .ok .base
  | "system" => .ok .system
  | "user" => .ok .user
  | "connector" => .ok .connector
  | _ => Exchange.malformed

/-- The layer with one more entry, or without the entries of a key. -/
def ConfigLayer.extend (l : ConfigLayer) : Json → Exchange ConfigLayer
  | .array (.string key :: value :: _) => return l.push key (← ConfigValue.ofExchange value)
  | .object members => return l.remove (← Exchange.text (.object members) "remove")
  | _ => Exchange.malformed

/-- The layer of a kind with either properties or a list of entries. -/
def ConfigLayer.ofExchange (j : Json) : Exchange ConfigLayer := do
  let kind ← LayerKind.ofExchange (← Exchange.text j "kind")
  match Exchange.part? j "properties" with
  | some properties => return .ofProperties kind (← Exchange.ofRead (Json.asStrings properties))
  | none => (Exchange.items j "entries").foldlM ConfigLayer.extend ⟨kind, []⟩

end BuildSession
