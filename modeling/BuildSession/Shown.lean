import BuildSession.Text.Quoted

/-!
# Values shown for diagnostics

A `Shown` value is what a diagnostic prints of a value, on one line: `Name { field: value }` for a
record, ending in `..` when it has more fields than are shown, `Name(value)` for a tagged value,
`[a, b]` for a list and `{"key": value}` for a map. A secret shows as three stars. Each kind of
record has its `shown`.
-/

namespace BuildSession

/-- What a diagnostic prints of a value. -/
inductive Shown where
  /-- A number, a flag or a bare name. -/
  | plain (text : String)
  | quoted (text : String)
  | record (name : String) (fields : List (String × Shown)) (hasMore : Bool)
  | tagged (name : String) (value : Shown)
  | list (items : List Shown)
  | map (entries : List (String × Shown))

namespace Shown

def bool (b : Bool) : Shown :=
  .plain (if b then "true" else "false")

def nat (n : Nat) : Shown :=
  .plain (String.ofList (Nat.toDigits 10 n))

def option {α : Type} (value : α → Shown) : Option α → Shown
  | some a => .tagged "Some" (value a)
  | none => .plain "None"

/-- An optional secret: only its presence shows. -/
def secret (s : Option String) : Shown :=
  option (fun _ => .quoted "***") s

mutual

def text : Shown → String
  | .plain t => t
  | .quoted t => Text.quote t
  | .record name [] false => name
  | .record name [] true => name ++ " \x7b .. \x7d"
  | .record name ((k, v) :: rest) hasMore =>
    name ++ " \x7b " ++ k ++ ": " ++ text v ++ fieldsText rest
      ++ (if hasMore then ", .. \x7d" else " \x7d")
  | .tagged name value => name ++ "(" ++ text value ++ ")"
  | .list [] => "[]"
  | .list (v :: vs) => "[" ++ text v ++ itemsText vs ++ "]"
  | .map [] => "\x7b\x7d"
  | .map ((k, v) :: rest) =>
    "\x7b" ++ Text.quote k ++ ": " ++ text v ++ entriesText rest ++ "\x7d"

/-- The fields of a record behind the first. -/
def fieldsText : List (String × Shown) → String
  | [] => ""
  | (k, v) :: rest => ", " ++ k ++ ": " ++ text v ++ fieldsText rest

/-- The items of a list behind the first. -/
def itemsText : List Shown → String
  | [] => ""
  | v :: vs => ", " ++ text v ++ itemsText vs

/-- The entries of a map behind the first. -/
def entriesText : List (String × Shown) → String
  | [] => ""
  | (k, v) :: rest => ", " ++ Text.quote k ++ ": " ++ text v ++ entriesText rest

end

end Shown

end BuildSession
