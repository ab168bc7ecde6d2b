import BuildSession.Policy.Checksum
import BuildSession.Policy.Update

/-!
# Repositories

A remote repository has an id, a url, a layout, policies for releases and snapshots, and possibly
a proxy and credentials. One that stands in for others lists them as mirrored. An `Authentication`
is built step by step from the components that are present, and one without any component is
absent. Passwords and passphrases never show in diagnostics.
-/

namespace BuildSession

/-- Whether and how often artifacts of one kind are taken from a repository. -/
structure RepositoryPolicy where
  enabled : Bool := true
  update : Option UpdatePolicy := none
  checksum : Option ChecksumPolicy := none
  deriving DecidableEq

namespace RepositoryPolicy

/-- Nothing of this kind is taken. -/
def disabled : RepositoryPolicy :=
  { enabled := false }

def toJson (p : RepositoryPolicy) : Json :=
  .object [
    ("enabled", .bool p.enabled),
    ("update_policy", .ofOption UpdatePolicy.toJson p.update),
    ("checksum_policy", .ofOption ChecksumPolicy.toJson p.checksum)]

/-- The policy of a written record. Fields are taken in the order they stand in: by name in an
object, as declared in an array. -/
def ofJson? (j : Json) : Read RepositoryPolicy := do
  let found ← Json.fields ["enabled", "update_policy", "checksum_policy"] j
  let enabled := Json.orElse "enabled" Json.asBool true found
  let update := Json.optional "update_policy" UpdatePolicy.ofJson? found
  let checksum := Json.optional "checksum_policy" ChecksumPolicy.ofJson? found
  match j with
  | .array _ => return ⟨← enabled, ← update, ← checksum⟩
  | _ => do
    let c ← checksum
    return ⟨← enabled, ← update, c⟩

def shown (p : RepositoryPolicy) : Shown :=
  .record "RepositoryPolicy" [
    ("enabled", .bool p.enabled),
    ("update_policy", .option UpdatePolicy.shown p.update),
    ("checksum_policy", .option ChecksumPolicy.shown p.checksum)] false

end RepositoryPolicy

/-- A private key and the passphrase that opens it. -/
structure PrivateKey where
  path : String
  passphrase : Option String
  deriving DecidableEq

def PrivateKey.shown (k : PrivateKey) : Shown :=
  .record "PrivateKey" [("path", .quoted k.path), ("passphrase", .secret k.passphrase)] false

structure Authentication where
  username : Option String := none
  password : Option String := none
  privateKey : Option PrivateKey := none
  deriving DecidableEq

def Authentication.shown (a : Authentication) : Shown :=
  .record "Authentication" [
    ("username", .option .quoted a.username),
    ("password", .secret a.password),
    ("private_key", .option PrivateKey.shown a.privateKey)] false

structure AuthenticationBuilder where
  auth : Authentication := {}
  deriving DecidableEq

namespace AuthenticationBuilder

def username (b : AuthenticationBuilder) : Option String → AuthenticationBuilder
  | some name => ⟨{ b.auth with username := some name }⟩
  | none => b

def password (b : AuthenticationBuilder) : Option String → AuthenticationBuilder
  | some word => ⟨{ b.auth with password := some word }⟩
  | none => b

/-- Sets the private key if there is one; a passphrase without a key counts for nothing. -/
def privateKey (b : AuthenticationBuilder) (path passphrase : Option String) :
    AuthenticationBuilder :=
  match path with
  | some path => ⟨{ b.auth with privateKey := some ⟨path, passphrase⟩ }⟩
  | none => b

def build (b : AuthenticationBuilder) : Option Authentication :=
  if b.auth.username.isNone && b.auth.password.isNone && b.auth.privateKey.isNone then none
  else some b.auth

def shown (b : AuthenticationBuilder) : Shown :=
  .record "AuthenticationBuilder" [("auth", b.auth.shown)] false

end AuthenticationBuilder

structure Proxy where
  protocol : String
  host : String
  port : UInt16
  authentication : Option Authentication
  deriving DecidableEq

namespace Proxy

def shown (p : Proxy) : Shown :=
  .record "Proxy" [
    ("protocol", .quoted p.protocol),
    ("host", .quoted p.host),
    ("port", .nat p.port.toNat),
    ("authentication", .option Authentication.shown p.authentication)] false

/-- The proxy as a url, without its credentials. -/
def address (p : Proxy) : String :=
  p.protocol ++ "://" ++ p.host ++ ":" ++ String.ofList (Decimal.write p.port.toNat)

end Proxy

/-- The layout of a repository that names none. -/
def defaultLayout : String := "default"

structure RemoteRepository where
  id : String
  url : String
  layout : String := defaultLayout
  releases : RepositoryPolicy := {}
  snapshots : RepositoryPolicy := {}
  blocked : Bool := false
  /-- The repositories this one stands in for. -/
  mirrored : List RemoteRepository := []
  proxy : Option Proxy := none
  authentication : Option Authentication := none

namespace RemoteRepository

instance : Inhabited RemoteRepository := ⟨{ id := "", url := "" }⟩

def isMirror (r : RemoteRepository) : Bool :=
  !r.mirrored.isEmpty

mutual

def shown : RemoteRepository → Shown
  | ⟨id, url, layout, releases, snapshots, blocked, mirrored, proxy, authentication⟩ =>
    .record "RemoteRepository" [
      ("id", .quoted id),
      ("url", .quoted url),
      ("layout", .quoted layout),
      ("releases", releases.shown),
      ("snapshots", snapshots.shown),
      ("blocked", .bool blocked),
      ("mirrored_repositories", .list (shownAll mirrored)),
      ("proxy", .option Proxy.shown proxy),
      ("authentication", .option Authentication.shown authentication)] false

def shownAll : List RemoteRepository → List Shown
  | [] => []
  | r :: rs => shown r :: shownAll rs

end

end RemoteRepository

/-- The directory that artifacts are kept in on this machine. -/
structure LocalRepository where
  basedir : String
  deriving DecidableEq

def LocalRepository.shown (r : LocalRepository) : Shown :=
  .record "LocalRepository" [("basedir", .quoted r.basedir)] false

end BuildSession
