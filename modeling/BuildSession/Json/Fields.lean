import BuildSession.Json.Basic

/-!
# Reading records

A record is read from an object by the names of its fields; members of other names are passed
over. It may also be an array that lists the fields in order, trailing ones left out. A field is
required, or has a default for when it is missing, or is optional, when `null` also counts as
absent. Readers have the type `Json → Read α`. A record is written by its `toJson` and read by its
`ofJson?`. What reads back every value that is written also reads back lists of them and optional
ones (`asList_ofList`, `asOption_ofOption`), and dictionaries of strings are read back
(`asStrings_ofDict`).
-/

namespace BuildSession

inductive ReadError where
  /-- A field is missing, or a value has another form than its field. -/
  | mismatch
  /-- A text stands where an update policy is wanted and is none. -/
  | updatePolicy (text : String)
  deriving DecidableEq

abbrev Read (α : Type) := Except ReadError α

namespace Json

def asString : Json → Read String
  | .string s => .ok s
  | _ => .error .mismatch

def asBool : Json → Read Bool
  | .bool b => .ok b
  | _ => .error .mismatch

/-- An integer from zero to `limit`. -/
def asNatUpTo (limit : Nat) : Json → Read Nat
  | .number (.integer (.ofNat n)) => if n ≤ limit then .ok n else .error .mismatch
  | _ => .error .mismatch

/-- A list, its items read by `item`. -/
def asList {α : Type} (item : Json → Read α) : Json → Read (List α)
  | .array items => items.mapM item
  | _ => .error .mismatch

def asOption {α : Type} (value : Json → Read α) : Json → Read (Option α)
  | .null => .ok none
  | j => (value j).map some

/-- The members of an object read as strings. -/
def stringMembers : List (String × Json) → Read (List (String × String))
  | [] => .ok []
  | (k, .string s) :: rest => (stringMembers rest).map ((k, s) :: ·)
  | _ :: _ => .error .mismatch

def asStrings : Json → Read (Dict String)
  | .object members => (stringMembers members).map Dict.ofList
  | _ => .error .mismatch

/-- The fields of a record by name, from an object or from an array in the order of `names`. -/
def fields (names : List String) : Json → Read (List (String × Json))
  | .object members => .ok members
  | .array items => if items.length ≤ names.length then .ok (names.zip items) else .error .mismatch
  | _ => .error .mismatch

/-- A field without which there is no record. -/
def required {α : Type} (name : String) (value : Json → Read α) (found : List (String × Json)) :
    Read α :=
  match Dict.lookup name found with
  | some j => value j
  | none => .error .mismatch

/-- A field with a default for when it is missing. -/
def orElse {α : Type} (name : String) (value : Json → Read α) (default : α)
    (found : List (String × Json)) : Read α :=
  match Dict.lookup name found with
  | some j => value j
  | none => .ok default

/-- A field that may be missing or `null`. -/
def optional {α : Type} (name : String) (value : Json → Read α) (found : List (String × Json)) :
    Read (Option α) :=
  orElse name (asOption value) none found

theorem fields_object (names : List String) (ms : List (String × Json)) :
    fields names (.object ms) = pure ms := rfl

section ReadBack

variable {α : Type} {read : Json → Read α} {write : α → Json}

theorem mapM_map : ∀ {xs : List α}, (∀ x ∈ xs, read (write x) = .ok x) →
    (xs.map write).mapM read = .ok xs
  | [], _ => rfl
  | x :: xs, h => by
    obtain ⟨hx, hxs⟩ := List.forall_mem_cons.1 h
    rw [List.map_cons, List.mapM_cons, hx, mapM_map hxs]
    rfl

theorem asList_ofList (h : ∀ x, read (write x) = .ok x) (xs : List α) :
    asList read (ofList write xs) = .ok xs :=
  mapM_map fun x _ => h x

theorem asOption_of_ne_null : ∀ {j : Json}, j ≠ .null → asOption read j = (read j).map some
  | .null, h => absurd rfl h
  | .bool _, _ | .number _, _ | .string _, _ | .array _, _ | .object _, _ => rfl

/-- What is there is never written as `null`, which stands for what is not there. -/
theorem asOption_ofOption (h : ∀ x, read (write x) = .ok x) (hnull : ∀ x, write x ≠ .null)
    (o : Option α) : asOption read (ofOption write o) = .ok o := by
  rcases o with _ | x
  · rfl
  · rw [ofOption, asOption_of_ne_null (hnull x), h]
    rfl

end ReadBack

theorem stringMembers_map : ∀ es : List (String × String),
    stringMembers (es.map fun e => (e.1, .string e.2)) = .ok es
  | [] => rfl
  | e :: es => by
    rw [List.map_cons, stringMembers, stringMembers_map es]
    rfl

theorem asStrings_ofDict (d : Dict String) : asStrings (ofDict .string d) = .ok d := by
  rw [ofDict, asStrings, stringMembers_map]
  exact congrArg Except.ok d.ofList_entries

end Json

end BuildSession
