import BuildSession.Instant
import BuildSession.Json.Fields

/-!
# The exchange format

Values that have no record of their own in the settings are exchanged with other programs as JSON
objects too. Here a missing or malformed part is one kind of error and a settings record that
cannot be read another; parts that may be absent may also be `null`.
-/

namespace BuildSession

inductive ExchangeError where
  /-- A part is missing or has another form. -/
  | malformed
  /-- A part is a record of the settings, and it cannot be read. -/
  | record (cause : ReadError)
  deriving DecidableEq

abbrev Exchange (α : Type) := Except ExchangeError α

namespace Exchange

def malformed {α : Type} : Exchange α :=
  .error .malformed

def ofRead {α : Type} : Read α → Exchange α
  | .ok a => .ok a
  | .error e => .error (.record e)

/-- A part that is there and not `null`. -/
def part? (j : Json) (name : String) : Option Json :=
  match j.get? name with
  | some .null => none
  | found => found

/-- A part, `null` if it is missing. -/
def part (j : Json) (name : String) : Json :=
  (j.get? name).getD .null

/-- A text that has to be there. -/
def text (j : Json) (name : String) : Exchange String :=
  match j.get? name with
  | some (.string s) => .ok s
  | _ => malformed

/-- A text that may be absent. -/
def text? (j : Json) (name : String) : Exchange (Option String) :=
  match part? j name with
  | none => .ok none
  | some (.string s) => .ok (some s)
  | some _ => malformed

/-- A flag; anything else counts as absent. -/
def flag (j : Json) (name : String) (default : Bool) : Bool :=
  match j.get? name with
  | some (.bool b) => b
  | _ => default

/-- The items of a list; anything else counts as the empty list. -/
def items (j : Json) (name : String) : List Json :=
  match j.get? name with
  | some (.array xs) => xs
  | _ => []

def nat? : Json → Option Nat
  | .number (.integer (.ofNat n)) => some n
  | _ => none

def int? : Json → Option Int
  | .number (.integer n) => some n
  | _ => none

def port : Json → Exchange UInt16
  | .number (.integer (.ofNat n)) => if n ≤ 65535 then .ok (UInt16.ofNat n) else malformed
  | _ => malformed

/-- A settings record that has to be there. -/
def record {α : Type} (read : Json → Read α) (j : Json) (name : String) : Exchange α :=
  ofRead (read (part j name))

/-- A settings record that may be absent. -/
def record? {α : Type} (read : Json → Read α) (j : Json) (name : String) : Exchange (Option α) :=
  match part? j name with
  | none => .ok none
  | some v => (ofRead (read v)).map some

def records {α : Type} (read : Json → Read α) (j : Json) (name : String) : Exchange (List α) :=
  (items j name).mapM fun v => ofRead (read v)

def optional {α : Type} (read : Json → Exchange α) (j : Json) (name : String) :
    Exchange (Option α) :=
  match part? j name with
  | none => .ok none
  | some v => (read v).map some

def texts (j : Json) (name : String) : Exchange (Dict String) :=
  match part? j name with
  | none => .ok .empty
  | some v =>
    match Json.asStrings v with
    | .ok d => .ok d
    | .error _ => malformed

end Exchange

def Instant.ofExchange (j : Json) : Exchange Instant :=
  match (j.get? "secs").bind Exchange.int?, (j.get? "nanos").bind Exchange.nat? with
  | some seconds, some nanos =>
    match Instant.of? seconds nanos with
    | some t => .ok t
    | none => Exchange.malformed
  | _, _ => Exchange.malformed

def Instant.toExchange (t : Instant) : Json :=
  .object [("secs", .ofInt t.seconds), ("nanos", .ofNat t.nanos)]

def Json.ofText? (s : Option String) : Json :=
  .ofOption .string s

end BuildSession
