import BuildSession.Settings.Mirror
import BuildSession.Settings.Proxy
import BuildSession.Settings.Server

/-!
# Settings

The settings of a user or an installation: mirrors, proxies and servers.
-/

namespace BuildSession

/-- Mirrors, proxies and servers, each in order of declaration. -/
structure Settings where
  mirrors : List Mirror := []
  proxies : List ProxySettings := []
  servers : List Server := []

namespace Settings

def toJson (s : Settings) : Json :=
  .object [
    ("mirrors", .ofList Mirror.toJson s.mirrors),
    ("proxies", .ofList ProxySettings.toJson s.proxies),
    ("servers", .ofList Server.toJson s.servers)]

def ofJson? (j : Json) : Read Settings := do
  let found ← Json.fields ["mirrors", "proxies", "servers"] j
  let mirrors ← Json.orElse "mirrors" (Json.asList Mirror.ofJson?) [] found
  let proxies ← Json.orElse "proxies" (Json.asList ProxySettings.ofJson?) [] found
  let servers ← Json.orElse "servers" (Json.asList Server.ofJson?) [] found
  return ⟨mirrors, proxies, servers⟩

def shown (s : Settings) : Shown :=
  .record "Settings" [
    ("mirrors", .list (s.mirrors.map Mirror.shown)),
    ("proxies", .list (s.proxies.map ProxySettings.shown)),
    ("servers", .list (s.servers.map Server.shown))] false

end Settings

end BuildSession
