import BuildSession.Credentials.SourceAddress
import BuildSession.Log
import BuildSession.Recorded
import BuildSession.Settings.Proxy
import BuildSession.Settings.Server

/-!
# Decryption of credentials

A decrypter takes the declared proxies and servers and gives them back with their secrets opened,
along with the problems it had. What a problem names is cleared from every record with that id, so
that no closed secret is ever used as if it were open.
-/

namespace BuildSession

inductive ProblemSeverity where
  | fatal
  | error
  | warning
  deriving DecidableEq

def ProblemSeverity.name : ProblemSeverity → String
  | fatal => "FATAL"
  | error => "ERROR"
  | warning => "WARNING"

structure SettingsProblem where
  severity : ProblemSeverity := .error
  message : String
  source : String
  cause : Option String := none
  deriving DecidableEq

def SettingsProblem.log (p : SettingsProblem) : LogRecord where
  level := .debug
  message := p.message
  fields := [("severity", p.severity.name), ("source", p.source), ("cause", p.cause.getD "")]

inductive DecryptionError where
  | unavailable (reason : String)
  | masterPassword (message : String)
  deriving DecidableEq

def DecryptionError.message : DecryptionError → String
  | unavailable reason => "decryption service unavailable: " ++ reason
  | masterPassword message => "master password could not be read: " ++ message

/-- Proxies and servers with their secrets opened, and the problems with them. -/
structure DecryptedSettings where
  proxies : List ProxySettings := []
  servers : List Server := []
  problems : List SettingsProblem := []

/-- Opens the secrets of proxies and servers. -/
abbrev Decrypter :=
  List ProxySettings → List Server → Except DecryptionError DecryptedSettings

/-- The proxy without what the field of this name holds, if that is a credential. -/
def ProxySettings.clear (p : ProxySettings) (field : String) : ProxySettings :=
  if field = "password" then { p with password := none }
  else if field = "username" then { p with username := none }
  else p

def Server.clear (s : Server) (field : String) : Server :=
  if field = "password" then { s with password := none }
  else if field = "passphrase" then { s with passphrase := none }
  else if field = "username" then { s with username := none }
  else s

namespace DecryptedSettings

/-- The settings without what an address names. -/
def clear (d : DecryptedSettings) (a : SourceAddress) : DecryptedSettings :=
  if a.group = SourceAddress.proxies then
    { d with proxies := d.proxies.map fun p => if p.id = a.id then p.clear a.field else p }
  else if a.group = SourceAddress.servers then
    { d with servers := d.servers.map fun s => if s.id = a.id then s.clear a.field else s }
  else d

/-- The settings without what a problem's source names; a source that is no address names
nothing. -/
def clearSource (d : DecryptedSettings) (source : String) : DecryptedSettings :=
  match SourceAddress.parse? source with
  | some a => d.clear a
  | none => d

end DecryptedSettings

namespace Decrypter

/-- Decrypts proxies and servers, clears what the problems name, and logs each problem. -/
def decrypt (decrypter : Decrypter) (proxies : List ProxySettings) (servers : List Server) :
    Recorded LogRecord (Except DecryptionError DecryptedSettings) :=
  match decrypter proxies servers with
  | .error e => pure (.error e)
  | .ok result => do
    let cleared ← result.problems.foldlM
      (fun d p => do
        Recorded.note p.log
        return d.clearSource p.source)
      result
    return .ok cleared

/-- The decrypter for settings whose secrets are open. -/
def plaintext : Decrypter :=
  fun proxies servers => .ok { proxies, servers }

/-- A decrypter that leaves all secrets as they are and has these problems with them. -/
def reporting (problems : List SettingsProblem) : Decrypter :=
  fun proxies servers => .ok { proxies, servers, problems }

def failing (e : DecryptionError) : Decrypter :=
  fun _ _ => .error e

def shown : Shown :=
  .record "CredentialDecryptor" [] true

end Decrypter

end BuildSession
