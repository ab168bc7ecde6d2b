import BuildSession.Dict

/-!
# JSON values

A number is an integer in the range of 64-bit words or keeps the text it was written with, since
`1`, `1.0` and `1e0` are different values to a reader of integers. The members of an object keep
their order.
-/

namespace BuildSession

inductive Json.Number where
  | integer (value : Int)
  | written (text : String)
  deriving DecidableEq

inductive Json where
  | null
  | bool (value : Bool)
  | number (value : Json.Number)
  | string (value : String)
  | array (items : List Json)
  | object (members : List (String × Json))

namespace Json

instance : Inhabited Json := ⟨null⟩

def ofNat (n : Nat) : Json :=
  .number (.integer n)

def ofInt (n : Int) : Json :=
  .number (.integer n)

/-- The value of an optional part; an absent one is `null`. -/
def ofOption {α : Type} (write : α → Json) : Option α → Json
  | some a => write a
  | none => .null

def ofList {α : Type} (write : α → Json) (xs : List α) : Json :=
  .array (xs.map write)

def ofDict {α : Type} (write : α → Json) (d : Dict α) : Json :=
  .object (d.entries.map fun e => (e.1, write e.2))

def get? (name : String) : Json → Option Json
  | .object members => Dict.lookup name members
  | _ => none

/-- Members in ascending key order, of several of one name the last. -/
def sortMembers (members : List (String × Json)) : List (String × Json) :=
  members.foldl (fun found m => Dict.put m.1 m.2 found) []

theorem sortMembers_eq (ms : List (String × Json)) : sortMembers ms = (Dict.ofList ms).entries :=
  (Dict.entries_ofList ms).symm

end Json

end BuildSession
