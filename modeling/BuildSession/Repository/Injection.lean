import BuildSession.Repository.Mirroring
import BuildSession.Repository.Proxying
import BuildSession.Repository.ServerAccess

/-!
# Injection

Repositories are made ready in three passes over a list: each gives way to its mirror, then takes
its proxy, then its credentials. Proxy and credentials thus go by the mirror, not by the repository
it stands in for.
-/

namespace BuildSession

structure Injector where
  mirrors : MirrorSelector := {}
  proxies : ProxySelector := {}
  authentication : AuthenticationSelector := {}

namespace Injector

def injectMirrors (i : Injector) (rs : List RemoteRepository) : List RemoteRepository :=
  rs.map fun r => (i.mirrors.mirrorFor r).getD r

/-- Gives repositories their proxies; where none is chosen, a proxy stays. -/
def injectProxies (i : Injector) (rs : List RemoteRepository) : List RemoteRepository :=
  rs.map fun r => { r with proxy := (i.proxies.proxyFor r).or r.proxy }

/-- Gives repositories their credentials; where none are known, credentials stay. -/
def injectAuthentication (i : Injector) (rs : List RemoteRepository) : List RemoteRepository :=
  rs.map fun r =>
    { r with authentication := (i.authentication.authenticationFor r).or r.authentication }

def inject (i : Injector) (rs : List RemoteRepository) : List RemoteRepository :=
  i.injectAuthentication (i.injectProxies (i.injectMirrors rs))

end Injector

end BuildSession
