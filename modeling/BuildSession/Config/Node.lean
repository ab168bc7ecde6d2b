import BuildSession.Json.Fields
import BuildSession.Shown

/-!
# Configuration trees

A `ConfigNode` has a name, an optional text, attributes in key order and children. It is written
without the parts it does not have, and `ConfigNode.ofJson?` takes the missing parts as empty.
-/

namespace BuildSession

structure ConfigNode where
  name : String
  value : Option String := none
  attributes : Dict String := .empty
  children : List ConfigNode := []
  deriving BEq

namespace ConfigNode

instance : Inhabited ConfigNode := ⟨⟨"", none, .empty, []⟩⟩

def withValue (n : ConfigNode) (value : String) : ConfigNode :=
  { n with value := some value }

def withAttribute (n : ConfigNode) (key value : String) : ConfigNode :=
  { n with attributes := n.attributes.insert key value }

def withChild (n child : ConfigNode) : ConfigNode :=
  { n with children := n.children ++ [child] }

/-- The first child of a name. -/
def child? (n : ConfigNode) (name : String) : Option ConfigNode :=
  n.children.find? (·.name == name)

def childNames (n : ConfigNode) : List String :=
  n.children.map (·.name)

/-- The node without its children of a name, and how many there were. -/
def removeChildren (n : ConfigNode) (name : String) : ConfigNode × Nat :=
  let kept := n.children.filter (·.name != name)
  ({ n with children := kept }, n.children.length - kept.length)

mutual

def toJson : ConfigNode → Json
  | ⟨name, value, attributes, children⟩ =>
    .object (
      ("name", .string name)
        :: ((match value with
            | some v => [("value", .string v)]
            | none => [])
        ++ (if attributes.isEmpty then [] else [("attributes", .ofDict .string attributes)])
        ++ (match children with
            | [] => []
            | c :: cs => [("children", .array (toJson c :: toJsons cs))])))

def toJsons : List ConfigNode → List Json
  | [] => []
  | n :: ns => toJson n :: toJsons ns

end

/-- The parts of a node besides its children, from the fields of a record. -/
def partsOf? (found : List (String × Json)) : Read (String × Option String × Dict String) := do
  let name ← Json.required "name" Json.asString found
  let value ← Json.optional "value" Json.asString found
  let attributes ← Json.orElse "attributes" Json.asStrings .empty found
  return (name, value, attributes)

mutual

def ofJson? : Json → Read ConfigNode
  | .object members => do
    let (name, value, attributes) ← partsOf? members
    let children ← childrenIn? members
    return ⟨name, value, attributes, children⟩
  | .array [name] => do
    let (name, value, attributes) ← partsOf? [("name", name)]
    return ⟨name, value, attributes, []⟩
  | .array [name, value] => do
    let (name, value, attributes) ← partsOf? [("name", name), ("value", value)]
    return ⟨name, value, attributes, []⟩
  | .array [name, value, attributes] => do
    let (name, value, attributes) ←
      partsOf? [("name", name), ("value", value), ("attributes", attributes)]
    return ⟨name, value, attributes, []⟩
  | .array [name, value, attributes, children] => do
    let (name, value, attributes) ←
      partsOf? [("name", name), ("value", value), ("attributes", attributes)]
    return ⟨name, value, attributes, ← ofJsonList? children⟩
  | _ => .error .mismatch

/-- The children among the fields of a record; none when the field is missing. -/
def childrenIn? : List (String × Json) → Read (List ConfigNode)
  | [] => .ok []
  | (key, j) :: rest => if "children" = key then ofJsonList? j else childrenIn? rest

def ofJsonList? : Json → Read (List ConfigNode)
  | .array items => ofJsons? items
  | _ => .error .mismatch

def ofJsons? : List Json → Read (List ConfigNode)
  | [] => .ok []
  | j :: js => do
    let n ← ofJson? j
    let ns ← ofJsons? js
    return n :: ns

end

mutual

def shown : ConfigNode → Shown
  | ⟨name, value, attributes, children⟩ =>
    .record "ConfigNode" [
      ("name", .quoted name),
      ("value", .option .quoted value),
      ("attributes", .map (attributes.entries.map fun e => (e.1, .quoted e.2))),
      ("children", .list (shownAll children))] false

def shownAll : List ConfigNode → List Shown
  | [] => []
  | n :: ns => shown n :: shownAll ns

end

end ConfigNode

end BuildSession
