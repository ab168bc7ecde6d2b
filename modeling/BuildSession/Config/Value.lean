import BuildSession.Config.Node
import BuildSession.Instant

/-!
# Configuration values

A configuration value is a text, a flag, an instant or a tree. The texts `true` and `false` also
count as flags.
-/

namespace BuildSession

/-- A value of a configuration property. -/
inductive ConfigValue where
  | text (value : String)
  | flag (value : Bool)
  | instant (value : Instant)
  | node (value : ConfigNode)
  deriving BEq

namespace ConfigValue

instance : Inhabited ConfigValue := ⟨text ""⟩

def asText? : ConfigValue → Option String
  | text s => some s
  | _ => none

/-- The flag of a flag, or of a text that spells one. -/
def asFlag? : ConfigValue → Option Bool
  | flag b => some b
  | text s => if s = "true" then some true else if s = "false" then some false else none
  | _ => none

def asInstant? : ConfigValue → Option Instant
  | instant t => some t
  | _ => none

def asNode? : ConfigValue → Option ConfigNode
  | node n => some n
  | _ => none

/-- The written value; an instant is written as its text. -/
def toJson : ConfigValue → Json
  | text s => .string s
  | flag b => .bool b
  | instant t => .string t.text
  | node n => n.toJson

end ConfigValue

end BuildSession
