import BuildSession.Exchange.Basic
import BuildSession.Repository.ServerAccess

/-!
# Repositories in the exchange format

Credentials are described by their components, and a description without any is no credentials.
-/

namespace BuildSession

namespace Authentication

/-- The credentials that an object describes, if it describes any. -/
def ofExchange (j : Json) : Exchange (Option Authentication) := do
  match j with
  | .null => return none
  | .object _ =>
    let b : AuthenticationBuilder := {}
    let b := b.username (← Exchange.text? j "username")
    let b := b.password (← Exchange.text? j "password")
    let key := Exchange.part j "private_key"
    let b := b.privateKey (← Exchange.text? key "path") (← Exchange.text? key "passphrase")
    return b.build
  | _ => Exchange.malformed

def toExchange (a : Authentication) : Json :=
  .object [
    ("username", .ofText? a.username),
    ("password", .ofText? a.password),
    ("private_key", .ofOption
      (fun k => .object [("path", .string k.path), ("passphrase", .ofText? k.passphrase)])
      a.privateKey)]

end Authentication

/-- The credentials of all ids, ascending. -/
def AuthenticationSelector.toExchange (s : AuthenticationSelector) : Json :=
  .ofList (fun e => .array [.string e.1, e.2.toExchange]) s.byId.entries

namespace Proxy

def ofExchange (j : Json) : Exchange Proxy := do
  let protocol ← Exchange.text j "protocol"
  let host ← Exchange.text j "host"
  let port ← Exchange.port (Exchange.part j "port")
  let authentication ← Authentication.ofExchange (Exchange.part j "authentication")
  return { protocol, host, port, authentication }

def toExchange (p : Proxy) : Json :=
  .object [
    ("protocol", .string p.protocol),
    ("host", .string p.host),
    ("port", .ofNat p.port.toNat),
    ("authentication", .ofOption Authentication.toExchange p.authentication)]

end Proxy

namespace RemoteRepository

/-- The repository of an object, given the repositories it stands in for. -/
def ofParts (j : Json) (mirrored : List RemoteRepository) : Exchange RemoteRepository := do
  let id ← Exchange.text j "id"
  let url ← Exchange.text j "url"
  let layout ← Exchange.text? j "layout"
  let releases ← Exchange.record? RepositoryPolicy.ofJson? j "releases"
  let snapshots ← Exchange.record? RepositoryPolicy.ofJson? j "snapshots"
  let proxy ← Exchange.optional Proxy.ofExchange j "proxy"
  let authentication ← Authentication.ofExchange (Exchange.part j "authentication")
  return {
    id, url
    layout := layout.getD defaultLayout
    releases := releases.getD {}
    snapshots := snapshots.getD {}
    blocked := Exchange.flag j "blocked" false
    mirrored, proxy, authentication }

mutual

def ofExchange : Json → Exchange RemoteRepository
  | .object members => do
    let mirrored ← mirroredIn members
    ofParts (.object members) mirrored
  | _ => Exchange.malformed

/-- The repositories that one stands in for, among the members of its object. -/
def mirroredIn : List (String × Json) → Exchange (List RemoteRepository)
  | [] => .ok []
  | (key, .array items) :: rest => if key = "mirrored" then allOfExchange items else mirroredIn rest
  | _ :: rest => mirroredIn rest

def allOfExchange : List Json → Exchange (List RemoteRepository)
  | [] => .ok []
  | j :: js => do
    let r ← ofExchange j
    return r :: (← allOfExchange js)

end

mutual

def toExchange : RemoteRepository → Json
  | ⟨id, url, layout, releases, snapshots, blocked, mirrored, proxy, authentication⟩ =>
    .object [
      ("id", .string id),
      ("url", .string url),
      ("layout", .string layout),
      ("releases", releases.toJson),
      ("snapshots", snapshots.toJson),
      ("blocked", .bool blocked),
      ("mirrored", .array (allToExchange mirrored)),
      ("proxy", .ofOption Proxy.toExchange proxy),
      ("authentication", .ofOption Authentication.toExchange authentication)]

def allToExchange : List RemoteRepository → List Json
  | [] => []
  | r :: rs => toExchange r :: allToExchange rs

end

end RemoteRepository

end BuildSession
