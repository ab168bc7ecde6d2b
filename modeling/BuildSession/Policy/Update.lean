import BuildSession.Json.Fields
import BuildSession.Shown
import BuildSession.Text.Cut
import BuildSession.Text.Decimal

/-!
# Update policies

An update policy says how often a repository is asked again: never, always, daily, or once per
interval of so many minutes. `UpdatePolicy.parse` reads its text with blank ends ignored, and
`UpdatePolicy.text` is the text it is written with.
-/

namespace BuildSession

/-- How often a repository is asked again. -/
inductive UpdatePolicy where
  | never
  | always
  | daily
  | interval (minutes : UInt32)
  deriving DecidableEq

structure InvalidUpdatePolicy where
  text : String
  deriving DecidableEq

def InvalidUpdatePolicy.message (e : InvalidUpdatePolicy) : String :=
  "invalid update policy '" ++ e.text
    ++ "' (expected never, always, daily or interval:<minutes>)"

namespace UpdatePolicy

/-- The minutes of an interval: digits, a plus sign in front allowed, in 32 bits. -/
def minutes? (cs : List Char) : Option UInt32 :=
  let digits := match cs with
    | '+' :: rest => rest
    | cs => cs
  match Decimal.read? digits with
  | some n => if n < UInt32.size then some (UInt32.ofNat n) else none
  | none => none

/-- The policy a text without blank ends stands for. -/
def ofTrimmed? (cs : List Char) : Option UpdatePolicy :=
  if cs = "never".toList then some .never
  else if cs = "always".toList then some .always
  else if cs = "daily".toList then some .daily
  else
    match Text.afterLead "interval:".toList cs with
    | some minutes => (minutes? minutes).map .interval
    | none => none

/-- The policy a text stands for; the error keeps the text as it was given. -/
def parse (s : String) : Except InvalidUpdatePolicy UpdatePolicy :=
  match ofTrimmed? (Text.trim s.toList) with
  | some p => .ok p
  | none => .error ⟨s⟩

def text : UpdatePolicy → String
  | never => "never"
  | always => "always"
  | daily => "daily"
  | interval minutes => "interval:" ++ String.ofList (Decimal.write minutes.toNat)

def toJson (p : UpdatePolicy) : Json :=
  .string p.text

def ofJson? : Json → Read UpdatePolicy
  | .string s =>
    match parse s with
    | .ok p => .ok p
    | .error e => .error (.updatePolicy e.text)
  | _ => .error .mismatch

def shown : UpdatePolicy → Shown
  | never => .plain "Never"
  | always => .plain "Always"
  | daily => .plain "Daily"
  | interval minutes => .tagged "Interval" (.nat minutes.toNat)

end UpdatePolicy

end BuildSession
