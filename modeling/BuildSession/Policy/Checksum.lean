import BuildSession.Json.Fields
import BuildSession.Shown

/-!
# Checksum policies

What happens to an artifact whose checksum is missing or wrong.
-/

namespace BuildSession

/-- What a wrong checksum leads to. -/
inductive ChecksumPolicy where
  | fail
  | warn
  | ignore
  deriving DecidableEq

namespace ChecksumPolicy

def text : ChecksumPolicy → String
  | fail => "fail"
  | warn => "warn"
  | ignore => "ignore"

def ofText? (s : String) : Option ChecksumPolicy :=
  if s = "fail" then some .fail
  else if s = "warn" then some .warn
  else if s = "ignore" then some .ignore
  else none

def toJson (p : ChecksumPolicy) : Json :=
  .string p.text

/-- The policy of a written text, or of an object that gives the text as its only name. -/
def ofJson? : Json → Read ChecksumPolicy
  | .string s | .object [(s, .null)] =>
    match ofText? s with
    | some p => .ok p
    | none => .error .mismatch
  | _ => .error .mismatch

def shown : ChecksumPolicy → Shown
  | fail => .plain "Fail"
  | warn => .plain "Warn"
  | ignore => .plain "Ignore"

end ChecksumPolicy

end BuildSession
