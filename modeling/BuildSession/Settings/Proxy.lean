import BuildSession.Repository.Basic

/-!
# Proxy settings

A proxy with the credentials it asks for and the hosts that are reached without it.
-/

namespace BuildSession

/-- A proxy as the settings declare it. -/
structure ProxySettings where
  id : String := ""
  protocol : String := "http"
  host : String
  port : UInt16 := 8080
  username : Option String := none
  password : Option String := none
  nonProxyHosts : Option String := none
  deriving DecidableEq

namespace ProxySettings

def toJson (p : ProxySettings) : Json :=
  .object [
    ("id", .string p.id),
    ("protocol", .string p.protocol),
    ("host", .string p.host),
    ("port", .ofNat p.port.toNat),
    ("username", .ofOption .string p.username),
    ("password", .ofOption .string p.password),
    ("non_proxy_hosts", .ofOption .string p.nonProxyHosts)]

def portOfJson? (j : Json) : Read UInt16 :=
  (Json.asNatUpTo 65535 j).map UInt16.ofNat

def ofJson? (j : Json) : Read ProxySettings := do
  let found ← Json.fields
    ["id", "protocol", "host", "port", "username", "password", "non_proxy_hosts"] j
  let id ← Json.orElse "id" Json.asString "" found
  let protocol ← Json.orElse "protocol" Json.asString "http" found
  let host ← Json.required "host" Json.asString found
  let port ← Json.orElse "port" portOfJson? 8080 found
  let username ← Json.optional "username" Json.asString found
  let password ← Json.optional "password" Json.asString found
  let nonProxyHosts ← Json.optional "non_proxy_hosts" Json.asString found
  return { id, protocol, host, port, username, password, nonProxyHosts }

def shown (p : ProxySettings) : Shown :=
  .record "ProxySettings" [
    ("id", .quoted p.id),
    ("protocol", .quoted p.protocol),
    ("host", .quoted p.host),
    ("port", .nat p.port.toNat),
    ("username", .option .quoted p.username),
    ("password", .secret p.password),
    ("non_proxy_hosts", .option .quoted p.nonProxyHosts)] false

end ProxySettings

end BuildSession
