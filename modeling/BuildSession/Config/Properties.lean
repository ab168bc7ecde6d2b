import BuildSession.Config.Value
import Std.Data.ExtHashMap

/-!
# Configuration properties

Properties keep the order in which their keys first came: a key that is inserted again keeps its
place and changes its value. An index gives the place of each key among the entries.
-/

namespace BuildSession

/-- Configuration values by key, in the order in which the keys came. -/
structure ConfigProperties where
  entries : Array (String × ConfigValue)
  /-- The place of each key among the entries. -/
  index : Std.ExtHashMap String Nat

namespace ConfigProperties

def empty : ConfigProperties :=
  ⟨#[], ∅⟩

/-- Sets the value of a key, and gives the value it had. -/
def insert (p : ConfigProperties) (key : String) (value : ConfigValue) :
    Option ConfigValue × ConfigProperties :=
  match p.index[key]? with
  | some place =>
    (p.entries[place]?.map (·.2),
      { p with entries := p.entries.modify place fun e => (e.1, value) })
  | none => (none, ⟨p.entries.push (key, value), p.index.insert key p.entries.size⟩)

def get? (p : ConfigProperties) (key : String) : Option ConfigValue :=
  match p.index[key]? with
  | some place => p.entries[place]?.map (·.2)
  | none => none

def text? (p : ConfigProperties) (key : String) : Option String :=
  (p.get? key).bind ConfigValue.asText?

def flag? (p : ConfigProperties) (key : String) : Option Bool :=
  (p.get? key).bind ConfigValue.asFlag?

def node? (p : ConfigProperties) (key : String) : Option ConfigNode :=
  (p.get? key).bind ConfigValue.asNode?

def contains (p : ConfigProperties) (key : String) : Bool :=
  p.index.contains key

/-- The keys in the order in which they came. -/
def keys (p : ConfigProperties) : List String :=
  p.entries.toList.map (·.1)

def size (p : ConfigProperties) : Nat :=
  p.entries.size

def isEmpty (p : ConfigProperties) : Bool :=
  p.entries.isEmpty

def toJson (p : ConfigProperties) : Json :=
  .object (p.entries.toList.map fun e => (e.1, e.2.toJson))

end ConfigProperties

/-! ### The keys that every session sets by itself -/

namespace ConfigKey

def userAgent : String := "aether.connector.userAgent"

def interactive : String := "aether.interactive"

def startTime : String := "maven.startTime"

end ConfigKey

end BuildSession
